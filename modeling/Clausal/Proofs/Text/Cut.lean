import Clausal.Event

/-!
# Where a text is cut

A text is cut at the last of its positions within the limit. What is left is the longest beginning
of the text with whole characters that fits, so no more than three bytes of the limit are unused.
Events show statements cut in this way.
-/

namespace Clausal

/-! ## Longest beginnings -/

/-- Whether `t` is the longest beginning of `s` with at most `limit` bytes. A beginning ends
between two characters: what comes after it is a text as well. -/
structure IsLongestStart (limit : Nat) (s t : String) : Prop where
  starts : ∃ rest, t ++ rest = s
  fits : t.utf8ByteSize ≤ limit
  longest : ∀ u, (∃ rest, u ++ rest = s) → u.utf8ByteSize ≤ limit →
    u.utf8ByteSize ≤ t.utf8ByteSize

theorem byteIdx_ofEqAppend {s t u : String} (h : s = t ++ u) :
    (String.Pos.ofEqAppend h).offset.byteIdx = t.utf8ByteSize :=
  congrArg String.Pos.Raw.byteIdx (String.Pos.splits_ofEqAppend h).offset_eq_rawEndPos

namespace IsLongestStart

variable {limit : Nat} {s t u : String}

theorem self (h : s.utf8ByteSize ≤ limit) : IsLongestStart limit s s where
  starts := ⟨"", String.append_empty⟩
  fits := h
  longest := by
    rintro u ⟨rest, rfl⟩ -
    rw [String.utf8ByteSize_append]
    exact Nat.le_add_right ..

theorem unique (ht : IsLongestStart limit s t) (hu : IsLongestStart limit s u) : t = u := by
  have hsize : t.utf8ByteSize = u.utf8ByteSize :=
    Nat.le_antisymm (hu.longest t ht.starts ht.fits) (ht.longest u hu.starts hu.fits)
  obtain ⟨rest, hrest⟩ := ht.starts
  obtain ⟨rest', hrest'⟩ := hu.starts
  -- The two end at the same position, and a position splits a text in one way only.
  have hposition : String.Pos.ofEqAppend hrest.symm = String.Pos.ofEqAppend hrest'.symm := by
    apply String.Pos.ext
    apply String.Pos.Raw.ext
    rw [byteIdx_ofEqAppend, byteIdx_ofEqAppend, hsize]
  have hsplits := String.Pos.splits_ofEqAppend hrest.symm
  rw [hposition] at hsplits
  exact hsplits.eq_left (String.Pos.splits_ofEqAppend hrest'.symm)

theorem limit_le (ht : IsLongestStart limit s t) (h : limit < s.utf8ByteSize) :
    limit ≤ t.utf8ByteSize + 3 := by
  obtain ⟨rest, rfl⟩ := ht.starts
  have hrest : rest.startPos ≠ rest.endPos := by
    intro heq
    rw [String.startPos_eq_endPos_iff.mp heq, String.append_empty] at h
    exact absurd ht.fits (Nat.not_le_of_lt h)
  obtain ⟨tail, htail⟩ := rest.splits_startPos.exists_eq_singleton_append hrest
  generalize rest.startPos.get hrest = c at htail
  subst htail
  -- With the next character the beginning would be longer, so that does not fit; and a character
  -- has at most four bytes.
  have hnext := ht.longest (t ++ String.singleton c) ⟨tail, String.append_assoc⟩
  have hsize : (t ++ String.singleton c).utf8ByteSize = t.utf8ByteSize + c.utf8Size := by simp
  rw [hsize] at hnext
  have hfour := c.utf8Size_le_four
  have hpos := c.utf8Size_pos
  omega

end IsLongestStart

/-! ## The search for the last position -/

theorem lastPosition_le (s : String) (limit : Nat) :
    (lastPosition s limit).offset.byteIdx ≤ limit := by
  induction limit with
  | zero => exact Nat.le_refl 0
  | succ n ih =>
    unfold lastPosition
    split
    · exact Nat.le_refl (n + 1)
    · exact Nat.le_succ_of_le ih

/-- The search passes over no position. -/
theorem le_lastPosition {s : String} {limit : Nat} {p : s.Pos} (h : p.offset.byteIdx ≤ limit) :
    p.offset.byteIdx ≤ (lastPosition s limit).offset.byteIdx := by
  induction limit with
  | zero => exact h
  | succ n ih =>
    unfold lastPosition
    split
    · exact h
    · next hinvalid =>
      -- The number `n + 1` is no position, so `p` has to be before it.
      have hne : p.offset.byteIdx ≠ n + 1 := by
        intro heq
        apply hinvalid
        rw [← heq]
        exact p.isValid
      exact ih (by omega)

theorem utf8ByteSize_copy_sliceTo {s : String} (p : s.Pos) :
    (s.sliceTo p).copy.utf8ByteSize = p.offset.byteIdx :=
  (congrArg String.Pos.Raw.byteIdx p.splits.offset_eq_rawEndPos).symm

theorem isLongestStart_cutText (limit : Nat) (s : String) :
    IsLongestStart limit s (cutText limit s) := by
  unfold cutText
  split
  · next hle => exact .self hle
  · refine ⟨⟨_, (lastPosition s limit).splits.eq_append.symm⟩, ?_, ?_⟩
    · rw [utf8ByteSize_copy_sliceTo]
      exact lastPosition_le s limit
    · -- Every beginning ends at some position, so the search has come to it or stopped before.
      rintro u ⟨rest, hrest⟩ hu
      rw [← byteIdx_ofEqAppend hrest.symm] at hu ⊢
      rw [utf8ByteSize_copy_sliceTo]
      exact le_lastPosition hu

/-- A text that was added to is cut back to what it was. -/
@[simp] theorem cutText_append (s t : String) : cutText s.utf8ByteSize (s ++ t) = s := by
  have hcut := isLongestStart_cutText s.utf8ByteSize (s ++ t)
  refine hcut.unique ⟨⟨t, rfl⟩, Nat.le_refl _, ?_⟩
  intro u _ hu
  exact hu

@[simp] theorem cutText_self (s : String) : cutText s.utf8ByteSize s = s :=
  if_pos (Nat.le_refl _)

/-! ## Statements in events -/

namespace Statement

/-- Texts are cut to the longest beginning that fits, with at most three bytes to spare. The text
that an event shows of a statement is the whole of it if that has at most 200 bytes, and otherwise
such a beginning of 200 bytes at most and three dots. -/
theorem shownText_whole_or_cut :
    (∀ limit s, IsLongestStart limit s (cutText limit s) ∧
        (limit < s.utf8ByteSize → limit ≤ (cutText limit s).utf8ByteSize + 3)) ∧
      ∀ t : Statement, ∃ sql, t.event.details.lookup "sql" = some sql ∧
        (t.text.utf8ByteSize ≤ 200 → sql = t.text) ∧
        (200 < t.text.utf8ByteSize →
          ∃ start, IsLongestStart 200 t.text start ∧ sql = start ++ "...") := by
  refine ⟨fun limit s => ?_, fun t => ⟨t.shownText, rfl, fun h => ?_, fun h => ?_⟩⟩
  · have hcut := isLongestStart_cutText limit s
    exact ⟨hcut, hcut.limit_le⟩
  · exact if_neg (Nat.not_lt_of_le h)
  · exact ⟨_, isLongestStart_cutText 200 t.text, if_pos h⟩

/-- The limit is inside the last of fifty characters with four bytes each, so three are unused; and
a text that is short enough. -/
theorem shownText_whole_or_cut_inside :
    let t : Statement := ⟨String.ofList ('a' :: List.replicate 50 '😀'), []⟩
    let short : Statement := ⟨"LIMIT 1", []⟩
    (200 < t.text.utf8ByteSize ∧ (cutText 200 t.text).utf8ByteSize = 197 ∧ 200 ≤ 197 + 3 ∧
        IsLongestStart 200 t.text (cutText 200 t.text) ∧
        ∃ start, IsLongestStart 200 t.text start ∧
          t.event.details.lookup "sql" = some (start ++ "...")) ∧
      short.text.utf8ByteSize ≤ 200 ∧ short.event.details.lookup "sql" = some "LIMIT 1" := by
  intro t short
  have hlong : 200 < t.text.utf8ByteSize := by decide +kernel
  have hshort : short.text.utf8ByteSize ≤ 200 := by decide +kernel
  have hsize : (cutText 200 t.text).utf8ByteSize = 197 := by
    rw [cutText, if_neg (Nat.not_le_of_lt hlong), utf8ByteSize_copy_sliceTo]
    decide +kernel
  obtain ⟨hlimits, hevents⟩ := shownText_whole_or_cut
  obtain ⟨hlongest, hspare⟩ := hlimits 200 t.text
  obtain ⟨sql, hsql, -, hshown⟩ := hevents t
  obtain ⟨start, hstart, rfl⟩ := hshown hlong
  obtain ⟨whole, hwhole, hsame, -⟩ := hevents short
  refine ⟨⟨hlong, hsize, hsize ▸ hspare hlong, hlongest, start, hstart, hsql⟩, hshort, ?_⟩
  rw [hwhole, hsame hshort]

end Statement

end Clausal

import Clausal.Command.Inputs
import Mathlib.Data.List.TakeWhile

/-!
# Readers take characters

What is left of a text after a value has been read is shorter than the text. So a stream of
documents can be taken apart by recursion on its length, with no bound on the number of steps:
`Json.stream`, which the documents of a text are.
-/

namespace Clausal.Json

/-! ## Parts of values -/

theorem length_skipBlanks_le (cs : List Char) : (skipBlanks cs).length ≤ cs.length :=
  List.length_dropWhile_le isBlank cs

/-- Characters that stand in front of the rest after blanks are taken. -/
theorem length_lt_of_skipBlanks {c : Char} {cs rest : List Char} (h : skipBlanks cs = c :: rest) :
    rest.length < cs.length := by
  have hle := length_skipBlanks_le cs
  rw [h, List.length_cons] at hle
  omega

theorem length_lt_of_readUnit? {cs rest : List Char} {n : Nat}
    (h : readUnit? cs = some (n, rest)) : rest.length < cs.length := by
  unfold readUnit? at h
  split at h
  · simp only [bind, Option.bind_eq_some_iff] at h
    obtain ⟨_, -, _, -, _, -, _, -, heq⟩ := h
    cases heq
    simp only [List.length_cons]
    omega
  · cases h

theorem length_lt_of_readUnits? {cs rest : List Char} {c : Char}
    (h : readUnits? cs = some (c, rest)) : rest.length < cs.length := by
  unfold readUnits? at h
  obtain ⟨⟨unit, next⟩, hunit, h⟩ := Option.bind_eq_some_iff.mp h
  have hfirst := length_lt_of_readUnit? hunit
  dsimp only at h
  by_cases hhigh : 0xD800 ≤ unit ∧ unit < 0xDC00
  · rw [if_pos hhigh] at h
    split at h
    · obtain ⟨⟨low, after⟩, hlow, h⟩ := Option.bind_eq_some_iff.mp h
      have hsecond := length_lt_of_readUnit? hlow
      dsimp only at h
      simp only [List.length_cons] at hfirst
      by_cases hpair : 0xDC00 ≤ low ∧ low < 0xE000
      · rw [if_pos hpair] at h
        obtain ⟨-, rfl⟩ := Prod.mk.inj (Option.some.inj h)
        omega
      · rw [if_neg hpair] at h
        cases h
    · cases h
  · rw [if_neg hhigh] at h
    by_cases hlow : 0xDC00 ≤ unit ∧ unit < 0xE000
    · rw [if_pos hlow] at h
      cases h
    · rw [if_neg hlow] at h
      cases h
      exact hfirst

theorem length_lt_of_readEscape? {cs rest : List Char} {c : Char}
    (h : readEscape? cs = some (c, rest)) : rest.length < cs.length := by
  unfold readEscape? at h
  split at h
  case h_9 tail =>
    have htail := length_lt_of_readUnits? h
    exact Nat.lt_succ_of_lt htail
  case h_10 => cases h
  all_goals
    cases h
    exact Nat.lt_succ_self _

theorem length_lt_of_readString? {fuel : Nat} {done cs rest : List Char} {s : String}
    (h : readString? fuel done cs = some (s, rest)) : rest.length < cs.length := by
  induction fuel generalizing done cs with
  | zero => cases h
  | succ fuel ih =>
    cases cs with
    | nil => cases h
    | cons c cs =>
      rw [List.length_cons]
      unfold readString? at h
      split at h
      · cases h
        exact Nat.lt_succ_self _
      split at h
      · split at h
        · cases h
        · next hescape =>
          have hrest := ih h
          have hafter := length_lt_of_readEscape? hescape
          omega
      split at h
      · cases h
      · exact Nat.lt_succ_of_lt (ih h)

theorem length_le_of_readWord? {word cs rest : List Char} (h : readWord? word cs = some rest) :
    rest.length ≤ cs.length := by
  unfold readWord? at h
  split at h
  · cases h
    exact (List.drop_suffix _ _).length_le
  · cases h

/-! ## Numbers -/

theorem length_of_readSignificand {m m' taken : Nat} {cs rest : List Char}
    (h : readSignificand m cs = (m', taken, rest)) : rest.length + taken = cs.length := by
  induction cs generalizing m taken with
  | nil =>
    cases h
    rfl
  | cons c cs ih =>
    unfold readSignificand at h
    split at h
    · rcases hrest : readSignificand (10 * m + digitValue c) cs with ⟨m'', taken', rest'⟩
      rw [hrest] at h
      cases h
      have hlength := ih hrest
      rw [List.length_cons]
      omega
    · cases h
      rfl

theorem length_splitSign_le (cs : List Char) :
    (FloatLiteral.splitSign cs).2.length ≤ cs.length := by
  unfold FloatLiteral.splitSign
  split
  · exact Nat.le_succ _
  · exact Nat.le_succ _
  · exact Nat.le_refl _

theorem eq_of_map {x : Option Json} {tail rest : List Char} {v : Json}
    (h : x.map (·, tail) = some (v, rest)) : rest = tail := by
  obtain ⟨_, -, heq⟩ := Option.map_eq_some_iff.mp h
  exact (Prod.mk.inj heq).2.symm

theorem length_le_of_readScaled? {negative : Bool} {m : Nat} {e : Int} {cs rest : List Char}
    {v : Json} (h : readScaled? negative m e cs = some (v, rest)) : rest.length ≤ cs.length := by
  unfold readScaled? at h
  split at h
  · exact Nat.le_of_eq (congrArg _ (eq_of_map h))
  · next c cs =>
    have hdigits := List.length_dropWhile_le Char.isDigit (FloatLiteral.splitSign cs).2
    have hsign := length_splitSign_le cs
    dsimp only at h
    split at h
    · rw [List.length_cons]
      split at h
      · cases h
      split at h
      · split at h
        · cases h
        · rw [eq_of_map h]
          omega
      · rw [eq_of_map h]
        omega
    · exact Nat.le_of_eq (congrArg _ (eq_of_map h))

theorem length_le_of_readFraction? {negative : Bool} {m : Nat} {e : Int} {cs rest : List Char}
    {v : Json} (h : readFraction? negative m e cs = some (v, rest)) : rest.length ≤ cs.length := by
  unfold readFraction? at h
  split at h
  · rcases hsig : readSignificand m cs with ⟨m', taken, tail⟩
    rw [hsig] at h
    have hscaled := length_le_of_readScaled? h
    have hdigits := List.length_dropWhile_le Char.isDigit tail
    have hlength := length_of_readSignificand hsig
    omega
  · cases h

theorem length_le_of_readTail? {negative : Bool} {m surplus : Nat} {cs rest : List Char} {v : Json}
    (h : readTail? negative m surplus cs = some (v, rest)) : rest.length ≤ cs.length := by
  unfold readTail? at h
  split at h
  · split at h
    · exact length_le_of_readScaled? h
    · exact Nat.le_of_eq (congrArg _ (eq_of_map h))
  · split at h
    · exact Nat.le_succ_of_le (length_le_of_readFraction? h)
    split at h
    · exact length_le_of_readScaled? h
    · exact Nat.le_of_eq (congrArg _ (eq_of_map h))

theorem length_lt_of_readMagnitude? {negative : Bool} {cs rest : List Char} {v : Json}
    (h : readMagnitude? negative cs = some (v, rest)) : rest.length < cs.length := by
  unfold readMagnitude? at h
  rcases hsig : readSignificand 0 cs with ⟨m, taken, tail⟩
  rw [hsig] at h
  dsimp only at h
  split at h
  · cases h
  · next htaken =>
    have htail := length_le_of_readTail? h
    have hdigits := List.length_dropWhile_le Char.isDigit tail
    have hlength := length_of_readSignificand hsig
    have hpos : taken ≠ 0 := fun hzero => htaken (.inl hzero)
    omega

theorem length_lt_of_readNumber? {cs rest : List Char} {v : Json}
    (h : readNumber? cs = some (v, rest)) : rest.length < cs.length := by
  unfold readNumber? at h
  split at h
  · exact Nat.lt_succ_of_lt (length_lt_of_readMagnitude? h)
  · exact length_lt_of_readMagnitude? h

/-! ## Values -/

-- By induction on the fuel, which every call of the reader takes some of.
mutual

theorem length_lt_of_readValue? : ∀ {fuel : Nat} {room : Option Nat} {cs rest : List Char}
    {v : Json}, readValue? fuel room cs = some (v, rest) → rest.length < cs.length
  | 0, _, _, _, _, h => by cases h
  | fuel + 1, room, cs, rest, v, h => by
    unfold readValue? at h
    split at h
    · cases h
    · next c tail hblanks =>
      have htail := length_lt_of_skipBlanks hblanks
      have hword : ∀ {word : List Char} {w : Json},
          (readWord? word tail).map (w, ·) = some (v, rest) → rest.length < cs.length := by
        intro word w hw
        obtain ⟨after, hafter, heq⟩ := Option.map_eq_some_iff.mp hw
        cases heq
        have hle := length_le_of_readWord? hafter
        omega
      split at h
      · exact hword h
      split at h
      · exact hword h
      split at h
      · exact hword h
      split at h
      · obtain ⟨⟨s, after⟩, hstring, heq⟩ := Option.map_eq_some_iff.mp h
        cases heq
        have hlt := length_lt_of_readString? hstring
        omega
      split at h
      · split at h
        · cases h
        · split at h
          · next hclose =>
            cases h
            have hlt := length_lt_of_skipBlanks hclose
            omega
          · have hlt := length_lt_of_readItems? h
            have hle := length_skipBlanks_le tail
            omega
      split at h
      · split at h
        · cases h
        · split at h
          · next hclose =>
            cases h
            have hlt := length_lt_of_skipBlanks hclose
            omega
          · have hlt := length_lt_of_readFields? h
            have hle := length_skipBlanks_le tail
            omega
      · have hlt := length_lt_of_readNumber? h
        rw [List.length_cons] at hlt
        omega

theorem length_lt_of_readItems? : ∀ {fuel : Nat} {room : Option Nat} {done : List Json}
    {cs rest : List Char} {v : Json}, readItems? fuel room done cs = some (v, rest) →
    rest.length < cs.length
  | 0, _, _, _, _, _, h => by cases h
  | fuel + 1, room, done, cs, rest, v, h => by
    unfold readItems? at h
    split at h
    · cases h
    · next hitem =>
      have hvalue := length_lt_of_readValue? hitem
      split at h
      · next hcomma =>
        have hafter := length_lt_of_skipBlanks hcomma
        have hlt := length_lt_of_readItems? h
        omega
      · next hclose =>
        cases h
        have hafter := length_lt_of_skipBlanks hclose
        omega
      · cases h

theorem length_lt_of_readFields? : ∀ {fuel : Nat} {room : Option Nat}
    {done : List (String × Json)} {cs rest : List Char} {v : Json},
    readFields? fuel room done cs = some (v, rest) → rest.length < cs.length
  | 0, _, _, _, _, _, h => by cases h
  | fuel + 1, room, done, cs, rest, v, h => by
    unfold readFields? at h
    split at h
    · next hquote =>
      have hstart := length_lt_of_skipBlanks hquote
      split at h
      · cases h
      · next hkey =>
        have hname := length_lt_of_readString? hkey
        split at h
        · next hcolon =>
          have hbefore := length_lt_of_skipBlanks hcolon
          split at h
          · cases h
          · next hfield =>
            have hvalue := length_lt_of_readValue? hfield
            split at h
            · next hcomma =>
              have hafter := length_lt_of_skipBlanks hcomma
              have hlt := length_lt_of_readFields? h
              omega
            · next hclose =>
              cases h
              have hafter := length_lt_of_skipBlanks hclose
              omega
            · cases h
        · cases h
    · cases h

end

theorem length_lt_of_nextDocument? {cs rest : List Char} {doc : Json}
    (h : nextDocument? cs = some (doc, rest)) : rest.length < cs.length := by
  unfold nextDocument? at h
  split at h
  · cases h
  · next hread =>
    split at h
    · cases h
      exact length_lt_of_readValue? hread
    · cases h

/-! ## Streams -/

/-- The documents of a text up to its end or to the first that is not valid, and whether all are
valid. -/
def stream (cs : List Char) : List Json × Bool :=
  if cs.all isBlank then ([], true)
  else
    match _h : nextDocument? cs with
    | none => ([], false)
    | some (doc, rest) => (doc :: (stream rest).1, (stream rest).2)
termination_by cs.length
decreasing_by all_goals exact length_lt_of_nextDocument? _h

theorem documents_eq_stream {fuel : Nat} {cs : List Char} (h : cs.length < fuel) :
    documents fuel cs = stream cs := by
  induction fuel generalizing cs with
  | zero => cases h
  | succ fuel ih =>
    unfold documents stream
    split
    · rfl
    · cases hnext : nextDocument? cs with
      | none => rfl
      | some next =>
        have hlt : next.2.length < cs.length := length_lt_of_nextDocument? hnext
        have hrest : documents fuel next.2 = stream next.2 := ih (by omega)
        dsimp only
        rw [hrest]

theorem documentsOf_eq_stream (text : String) : documentsOf text = stream text.toList :=
  documents_eq_stream (Nat.lt_succ_self _)

end Clausal.Json

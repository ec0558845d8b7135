import Clausal.Json.Printer
import Clausal.Json.Reader

/-!
# Reading tokens back

Quoted strings and written integers are read as what they are written for. A number ends where the
text goes on with something that cannot continue it, so whatever text is read as a number is read so
with more text after it too.
-/

namespace Clausal.Json

/-! ## Strings -/

theorem readEscape?_control {c : Char} (h : c.toNat < 0x20) (rest : List Char) :
    readEscape? ('u' :: '0' :: '0' :: hexDigit (c.toNat / 16) :: hexDigit (c.toNat % 16) :: rest)
      = some (c, rest) := by
  have hzero : hexValue? '0' = some 0 := rfl
  have hhigh := hexValue?_hexDigit (c.toNat / 16) (by omega)
  have hlow := hexValue?_hexDigit (c.toNat % 16) (by omega)
  have hcode : ((0 * 16 + 0) * 16 + c.toNat / 16) * 16 + c.toNat % 16 = c.toNat := by omega
  have hunit : readUnit? ('0' :: '0' :: hexDigit (c.toNat / 16) :: hexDigit (c.toNat % 16) :: rest)
      = some (c.toNat, rest) := by
    simp only [readUnit?, hzero, hhigh, hlow, Option.bind_eq_bind, Option.bind_some, hcode]
  rw [readEscape?, readUnits?, hunit, Option.bind_eq_bind, Option.bind_some]
  -- A control character is no surrogate.
  dsimp only
  rw [if_neg (by omega), if_neg (by omega), Char.ofNat_toNat]

/-- A character that is written inside a string takes one step of the reader. -/
theorem readString?_escapeChar (c : Char) (fuel : Nat) (done rest : List Char) :
    readString? (fuel + 1) done (escapeChar c ++ rest) = readString? fuel (c :: done) rest := by
  unfold escapeChar
  split
  · next h => subst h; rfl
  split
  · next h => subst h; rfl
  split
  · next h => subst h; rfl
  split
  · next h => subst h; rfl
  split
  · next h => subst h; rfl
  split
  · next h => subst h; rfl
  split
  · next h => subst h; rfl
  split
  · next hcontrol =>
    have hescape := readEscape?_control hcontrol rest
    simp [readString?, hescape]
  · next hquote hbackslash _ _ _ _ _ hplain =>
    rw [List.singleton_append, readString?, if_neg hquote, if_neg hbackslash, if_neg hplain]

theorem readString?_flatMap_escapeChar (s : List Char) {fuel : Nat} (h : s.length < fuel)
    (done rest : List Char) :
    readString? fuel done (s.flatMap escapeChar ++ '"' :: rest)
      = some (String.ofList (done.reverse ++ s), rest) := by
  induction s generalizing fuel done with
  | nil =>
    obtain ⟨fuel, rfl⟩ := Nat.exists_eq_succ_of_ne_zero (Nat.ne_of_gt h)
    simp [readString?]
  | cons c s ih =>
    obtain ⟨fuel, rfl⟩ := Nat.exists_eq_succ_of_ne_zero (Nat.ne_of_gt (Nat.zero_lt_of_lt h))
    rw [List.flatMap_cons, List.append_assoc, readString?_escapeChar,
      ih (Nat.lt_of_succ_lt_succ h)]
    simp

theorem escapeChar_ne_nil (c : Char) : escapeChar c ≠ [] := by
  unfold escapeChar
  repeat' split
  all_goals exact List.cons_ne_nil _ _

theorem length_le_flatMap_escapeChar (s : List Char) :
    s.length ≤ (s.flatMap escapeChar).length := by
  induction s with
  | nil => exact Nat.le_refl 0
  | cons c s ih =>
    have hc := List.length_pos_iff.mpr (escapeChar_ne_nil c)
    rw [List.flatMap_cons, List.length_append, List.length_cons]
    omega

/-- What follows the opening quote of a quoted string. -/
def afterQuote (s : String) (rest : List Char) : List Char :=
  s.toList.flatMap escapeChar ++ '"' :: rest

theorem toList_quote_append (s : String) (rest : List Char) :
    (quote s).toList ++ rest = '"' :: afterQuote s rest := by
  simp [quote, afterQuote]

theorem readString?_afterQuote (s : String) (rest : List Char) :
    readString? ((afterQuote s rest).length + 1) [] (afterQuote s rest) = some (s, rest) := by
  have hlength : s.toList.length < (afterQuote s rest).length + 1 := by
    have hle := length_le_flatMap_escapeChar s.toList
    rw [afterQuote, List.length_append]
    omega
  rw [afterQuote] at hlength ⊢
  rw [readString?_flatMap_escapeChar s.toList hlength, List.reverse_nil, List.nil_append,
    String.ofList_toList]

/-! ## Ends of numbers -/

/-- No number goes on with what is at the start of the text. -/
def EndsNumber (rest : List Char) : Prop :=
  ∀ c ∈ rest.head?, c.isDigit = false ∧ c ≠ '.' ∧ c ≠ 'e' ∧ c ≠ 'E'

namespace EndsNumber

variable {rest : List Char} {v : Json}

theorem takeWhile_append (h : EndsNumber rest) (cs : List Char) :
    (cs ++ rest).takeWhile Char.isDigit = cs.takeWhile Char.isDigit := by
  induction cs with
  | nil =>
    cases rest with
    | nil => rfl
    | cons c rest => simp [(h c rfl).1]
  | cons c cs ih => simp only [List.cons_append, List.takeWhile_cons, ih]

theorem dropWhile_append (h : EndsNumber rest) (cs : List Char) :
    (cs ++ rest).dropWhile Char.isDigit = cs.dropWhile Char.isDigit ++ rest := by
  induction cs with
  | nil =>
    cases rest with
    | nil => rfl
    | cons c rest => simp [(h c rfl).1]
  | cons c cs ih =>
    simp only [List.cons_append, List.dropWhile_cons, ih]
    split <;> rfl

theorem readSignificand_append (h : EndsNumber rest) (cs : List Char) (m : Nat) :
    readSignificand m (cs ++ rest) = ((readSignificand m cs).1, (readSignificand m cs).2.1,
      (readSignificand m cs).2.2 ++ rest) := by
  induction cs generalizing m with
  | nil =>
    cases rest with
    | nil => rfl
    | cons c rest => simp [readSignificand, (h c rfl).1]
  | cons c cs ih =>
    simp only [List.cons_append, readSignificand, ih]
    split <;> rfl

theorem splitSign_append {cs : List Char} (h : cs ≠ []) (rest : List Char) :
    FloatLiteral.splitSign (cs ++ rest)
      = ((FloatLiteral.splitSign cs).1, (FloatLiteral.splitSign cs).2 ++ rest) := by
  obtain ⟨c, cs, rfl⟩ := List.exists_cons_of_ne_nil h
  by_cases hminus : c = '-'
  · subst hminus
    rfl
  · by_cases hplus : c = '+'
    · subst hplus
      rfl
    · simp [FloatLiteral.splitSign, hminus, hplus]

theorem map_append {x : Option Json} {cs cs' : List Char} (hx : x.map (·, cs) = some (v, cs')) :
    x.map (·, cs ++ rest) = some (v, cs' ++ rest) := by
  obtain ⟨w, rfl, heq⟩ := Option.map_eq_some_iff.mp hx
  cases heq
  rfl

theorem readScaled?_append (h : EndsNumber rest) {negative : Bool} {m : Nat} {e : Int}
    {cs cs' : List Char} (hread : readScaled? negative m e cs = some (v, cs')) :
    readScaled? negative m e (cs ++ rest) = some (v, cs' ++ rest) := by
  cases cs with
  | nil =>
    simp only [readScaled?] at hread
    cases rest with
    | nil => exact map_append hread
    | cons c rest =>
      obtain ⟨-, -, he, hE⟩ := h c rfl
      simp only [List.nil_append, readScaled?, if_neg (not_or.mpr ⟨he, hE⟩)]
      exact map_append hread
  | cons c cs =>
    simp only [List.cons_append, readScaled?] at hread ⊢
    by_cases hc : c = 'e' ∨ c = 'E'
    · simp only [if_pos hc] at hread ⊢
      -- Without a digit the exponent is refused, so there is text after the mark.
      cases cs with
      | nil => cases hread
      | cons d ds =>
        simp only [splitSign_append (List.cons_ne_nil d ds), h.takeWhile_append,
          h.dropWhile_append]
        split at hread
        · cases hread
        · next hdigits =>
          rw [if_neg hdigits]
          split at hread
          · next hlarge =>
            rw [if_pos hlarge]
            split at hread
            · cases hread
            · next hzero =>
              rw [if_neg hzero]
              exact map_append hread
          · next hsmall =>
            rw [if_neg hsmall]
            exact map_append hread
    · simp only [if_neg hc] at hread ⊢
      exact map_append hread

theorem readFraction?_append (h : EndsNumber rest) {negative : Bool} {m : Nat} {e : Int}
    {cs cs' : List Char} (hread : readFraction? negative m e cs = some (v, cs')) :
    readFraction? negative m e (cs ++ rest) = some (v, cs' ++ rest) := by
  unfold readFraction? at hread ⊢
  split at hread
  · next hdigit =>
    have hhead : (cs ++ rest).head?.any Char.isDigit = true := by
      cases cs with
      | nil => cases hdigit
      | cons c cs => exact hdigit
    rw [if_pos hhead, h.readSignificand_append]
    dsimp only at hread ⊢
    rw [h.dropWhile_append]
    exact h.readScaled?_append hread
  · cases hread

theorem readTail?_append (h : EndsNumber rest) {negative : Bool} {m surplus : Nat}
    {cs cs' : List Char} (hread : readTail? negative m surplus cs = some (v, cs')) :
    readTail? negative m surplus (cs ++ rest) = some (v, cs' ++ rest) := by
  cases cs with
  | nil =>
    simp only [readTail?] at hread
    cases rest with
    | nil =>
      split at hread
      · next hsurplus =>
        simp only [List.append_nil, readTail?, if_pos hsurplus]
        exact hread
      · next hsurplus =>
        simp only [List.append_nil, readTail?, if_neg hsurplus]
        exact hread
    | cons c rest =>
      obtain ⟨-, hpoint, he, hE⟩ := h c rfl
      simp only [List.nil_append, readTail?, if_neg hpoint, he, hE, false_or]
      split at hread
      · next hsurplus =>
        rw [if_pos hsurplus]
        exact h.readScaled?_append hread
      · next hsurplus =>
        rw [if_neg hsurplus]
        exact map_append hread
  | cons c cs =>
    simp only [List.cons_append, readTail?] at hread ⊢
    split at hread
    · next hpoint =>
      rw [if_pos hpoint]
      exact h.readFraction?_append hread
    · next hpoint =>
      rw [if_neg hpoint]
      split at hread
      · next hscaled =>
        rw [if_pos hscaled]
        exact h.readScaled?_append hread
      · next hplain =>
        rw [if_neg hplain]
        exact map_append hread

theorem readMagnitude?_append (h : EndsNumber rest) {negative : Bool} {cs cs' : List Char}
    (hread : readMagnitude? negative cs = some (v, cs')) :
    readMagnitude? negative (cs ++ rest) = some (v, cs' ++ rest) := by
  cases cs with
  | nil => cases hread
  | cons d ds =>
    unfold readMagnitude? at hread ⊢
    rw [h.readSignificand_append]
    dsimp only at hread ⊢
    rw [h.takeWhile_append, h.dropWhile_append]
    split at hread
    · cases hread
    · next htaken =>
      have hhead : (d :: ds ++ rest).head? = (d :: ds).head? := rfl
      rw [hhead, if_neg htaken]
      exact h.readTail?_append hread

end EndsNumber

theorem readNumber?_of_ne {c : Char} (h : c ≠ '-') (cs : List Char) :
    readNumber? (c :: cs) = readMagnitude? false (c :: cs) := by
  unfold readNumber?
  split
  · next heq =>
    cases heq
    exact absurd rfl h
  · rfl

theorem readNumber?_append {cs cs' rest : List Char} {v : Json} (h : EndsNumber rest)
    (hread : readNumber? cs = some (v, cs')) :
    readNumber? (cs ++ rest) = some (v, cs' ++ rest) := by
  cases cs with
  | nil => cases hread
  | cons c cs =>
    by_cases hminus : c = '-'
    · subst hminus
      exact h.readMagnitude?_append hread
    · rw [readNumber?_of_ne hminus] at hread
      rw [List.cons_append, readNumber?_of_ne hminus]
      exact h.readMagnitude?_append hread

/-! ## Integers -/

theorem le_foldl_digits (ds : List Char) (m : Nat) :
    m ≤ ds.foldl (fun n c => 10 * n + digitValue c) m := by
  induction ds generalizing m with
  | nil => exact Nat.le_refl m
  | cons c ds ih => exact Nat.le_trans (by omega) (ih (10 * m + digitValue c))

theorem readSignificand_digits {ds : List Char} (hds : ∀ c ∈ ds, c.isDigit = true) (m : Nat)
    (h : ds.foldl (fun n c => 10 * n + digitValue c) m ≤ significandLimit) :
    readSignificand m ds = (ds.foldl (fun n c => 10 * n + digitValue c) m, ds.length, []) := by
  induction ds generalizing m with
  | nil => rfl
  | cons c ds ih =>
    obtain ⟨hc, hds⟩ := List.forall_mem_cons.mp hds
    rw [List.foldl_cons] at h
    have hle : 10 * m + digitValue c ≤ significandLimit :=
      Nat.le_trans (le_foldl_digits ds (10 * m + digitValue c)) h
    simp [readSignificand, hc, hle, ih hds _ h]

theorem readMagnitude?_digitsOf {n : Nat} (h : n ≤ significandLimit) (negative : Bool) :
    readMagnitude? negative (digitsOf n) = (integerOfParts? negative n).map (·, []) := by
  have hvalue : (digitsOf n).foldl (fun n c => 10 * n + digitValue c) 0 = n :=
    natOfDigits_digitsOf n
  have hle : (digitsOf n).foldl (fun n c => 10 * n + digitValue c) 0 ≤ significandLimit := by
    rwa [hvalue]
  have hdigits := readSignificand_digits (fun c hc => isDigit_of_mem_digitsOf hc) 0 hle
  have htaken : ¬((digitsOf n).length = 0 ∨
      (digitsOf n).head? = some '0' ∧ 1 < (digitsOf n).length) := by
    rintro (hempty | ⟨hzero, hlong⟩)
    · exact digitsOf_ne_nil n (List.length_eq_zero_iff.mp hempty)
    · rcases Nat.eq_zero_or_pos n with rfl | hpos
      · exact absurd hlong (by decide)
      · exact head?_digitsOf_ne hpos hzero
  rw [readMagnitude?, hdigits, hvalue]
  dsimp only
  rw [if_neg htaken]
  rfl

theorem ofInt?_val (n : WordInteger) : ofInt? n.val = some (.integer n) :=
  dif_pos ⟨n.lower, n.upper⟩

/-- An integer is read back from its text. -/
theorem readNumber?_text (n : WordInteger) : readNumber? n.text.toList = some (.integer n, []) := by
  have hlower := n.lower
  have hupper := n.upper
  have hlimit : n.val.natAbs ≤ significandLimit := by
    rw [significandLimit]
    omega
  rw [WordInteger.text, String.toList_ofList]
  split
  · next hneg =>
    have hparts : integerOfParts? true n.val.natAbs = some (.integer n) := by
      have hval : -(n.val.natAbs : Int) = n.val := by omega
      rw [integerOfParts?, if_pos rfl, if_neg (by omega), hval, ofInt?_val]
    rw [readNumber?, readMagnitude?_digitsOf hlimit, hparts]
    rfl
  · next hnonneg =>
    have hparts : integerOfParts? false n.val.natAbs = some (.integer n) := by
      have hval : (n.val.natAbs : Int) = n.val := by omega
      rw [integerOfParts?, if_neg Bool.false_ne_true, hval, ofInt?_val]
    obtain ⟨c, cs, hcs⟩ := List.exists_cons_of_ne_nil (digitsOf_ne_nil n.val.natAbs)
    have hc : c.isDigit = true := isDigit_of_mem_digitsOf (hcs ▸ List.mem_cons_self ..)
    have hminus : c ≠ '-' := by
      rintro rfl
      cases hc
    rw [hcs, readNumber?_of_ne hminus, ← hcs, readMagnitude?_digitsOf hlimit, hparts]
    rfl

end Clausal.Json

import Clausal.Proofs.Statement.DepthLimit
import Clausal.Proofs.Statement.Layout

/-!
# Reading placeholders back

A reader of the finished text finds placeholders by their dollar signs and takes each number to end
at the first character that is no digit. If no name and no raw text has a dollar sign, this gives
the numbers from one up to the number of values. Raw texts may begin with digits or be empty: the
layout of statements keeps them from following a placeholder.
-/

namespace Clausal

/-! ## Scanning -/

/-- The run of digits after each dollar sign, from left to right. -/
def dollarRuns : List Char → List (List Char)
  | [] => []
  | c :: cs => if c = '$' then cs.takeWhile Char.isDigit :: dollarRuns cs else dollarRuns cs

theorem dollarRuns_append_of_notMem {cs : List Char} (h : '$' ∉ cs) (rest : List Char) :
    dollarRuns (cs ++ rest) = dollarRuns rest := by
  induction cs with
  | nil => rfl
  | cons c cs ih =>
    obtain ⟨hc, hcs⟩ := not_or.mp (mt List.mem_cons.mpr h)
    rw [List.cons_append, dollarRuns, if_neg (Ne.symm hc)]
    exact ih hcs

/-! ## Digits -/

theorem dollar_notMem_digitsOf (n : Nat) : '$' ∉ digitsOf n := by
  intro h
  have hdigit := isDigit_of_mem_digitsOf h
  exact absurd hdigit (by decide)

/-- Digits that no digit follows are read to their end. -/
theorem dollarRuns_placeholder {n : Nat} {rest : List Char}
    (h : ∀ c ∈ rest.head?, c.isDigit = false) :
    dollarRuns ((Action.placeholder n).toList ++ rest) = digitsOf n :: dollarRuns rest := by
  have hrest : rest.takeWhile Char.isDigit = [] := by
    cases rest with
    | nil => rfl
    | cons c rest => rw [List.takeWhile_cons, h c rfl]; rfl
  have hrun : (digitsOf n ++ rest).takeWhile Char.isDigit = digitsOf n := by
    rw [List.takeWhile_append_of_pos fun c hc => isDigit_of_mem_digitsOf hc, hrest,
      List.append_nil]
  unfold Action.placeholder
  rw [String.toList_ofList, List.cons_append, dollarRuns, if_pos rfl, hrun,
    dollarRuns_append_of_notMem (dollar_notMem_digitsOf n)]

/-! ## Texts without dollar signs -/

theorem ofNat_ne_dollar {code : Nat} (h : 36 < code) : Char.ofNat code ≠ '$' := by
  intro heq
  by_cases hvalid : code.isValidChar
  · rw [Char.ofNat, dif_pos hvalid] at heq
    have hcode : code = 36 := congrArg Char.toNat heq
    omega
  · rw [Char.ofNat, dif_neg hvalid] at heq
    cases heq

/-- No character has a dollar sign in its upper case but the dollar sign itself. -/
theorem dollar_notMem_upperChar {c : Char} (h : c ≠ '$') : '$' ∉ upperChar c := by
  have hruns : ∀ r ∈ caseRuns, 36 < (r.first : Int) + r.distance := by
    decide +kernel
  have hexpansions : ∀ p ∈ caseExpansions, ∀ code ∈ p.2, 36 < code := by
    decide +kernel
  unfold upperChar
  split
  · next r hfind =>
    have hcontains := List.find?_some hfind
    unfold CaseRun.contains at hcontains
    simp only [Bool.and_eq_true, decide_eq_true_eq] at hcontains
    have hfirst := hcontains.1.1
    have hrun := hruns r (List.mem_of_find?_eq_some hfind)
    exact mt List.mem_singleton.mp (ofNat_ne_dollar (by omega)).symm
  · split
    · next codes hlookup =>
      obtain ⟨before, after, hsplit, -⟩ := List.lookup_eq_some_iff.mp hlookup
      have hentry : (c.toNat, codes) ∈ caseExpansions := by
        rw [hsplit]
        exact List.mem_append_right _ (List.mem_cons_self ..)
      intro hmem
      obtain ⟨code, hcode, hdollar⟩ := List.mem_map.mp hmem
      exact ofNat_ne_dollar (hexpansions _ hentry code hcode) hdollar
    · exact mt List.mem_singleton.mp h.symm

theorem dollar_notMem_upperText {s : String} (h : '$' ∉ s.toList) :
    '$' ∉ (upperText s).toList := by
  unfold upperText
  rw [String.toList_ofList]
  intro hmem
  obtain ⟨c, hc, hupper⟩ := List.mem_flatMap.mp hmem
  exact dollar_notMem_upperChar (ne_of_mem_of_not_mem hc h) hupper

theorem dollar_notMem_quote {s : String} (h : '$' ∉ s.toList) :
    '$' ∉ (Ident.quote s).toList := by
  unfold Ident.quote Ident.quoteChars
  rw [String.toList_ofList]
  split
  · exact h
  · unfold Ident.quoteSegments
    have hsegments : '$' ∉ s.toList.flatMap fun c => if c = '.' then ['"', '.', '"'] else [c] := by
      intro hmem
      obtain ⟨c, hc, hquoted⟩ := List.mem_flatMap.mp hmem
      split at hquoted
      · exact absurd hquoted (by decide)
      · rw [List.mem_singleton.mp hquoted] at h
        exact h hc
    simpa using hsegments

theorem notMem_intercalate {a : Char} {separator : List Char} {css : List (List Char)}
    (hseparator : a ∉ separator) (h : ∀ cs ∈ css, a ∉ cs) : a ∉ separator.intercalate css := by
  induction css with
  | nil => exact List.not_mem_nil
  | cons cs css ih =>
    obtain ⟨hcs, hcss⟩ := List.forall_mem_cons.mp h
    cases css with
    | nil =>
      rw [List.intercalate_singleton]
      exact hcs
    | cons ds css =>
      rw [List.intercalate_cons_cons]
      simp only [List.mem_append, not_or]
      exact ⟨⟨hcs, hseparator⟩, ih hcss⟩

theorem dollar_notMem_list {ns : List String} (h : ∀ s ∈ ns, '$' ∉ s.toList) :
    '$' ∉ (Ident.list ns).toList := by
  have hquoted : '$' ∉ (", ".intercalate (ns.map Ident.quote)).toList := by
    rw [String.toList_intercalate]
    refine notMem_intercalate (by decide) ?_
    rw [List.map_map]
    exact List.forall_mem_map.mpr fun s hs => dollar_notMem_quote (h s hs)
  unfold Ident.list
  simpa using hquoted

/-! ## Scanning pieces -/

/-- The text of a clause map that is written at a mark. -/
def Mark.text? : Mark → Option String
  | name s | raw s | call s => some s
  | _ => none

namespace Piece

/-- The runs in the text of the pieces are the numbers of their parameters, after any number of other
parameters and before any text that does not go on with a digit. -/
def Scans (ps : List Piece) : Prop :=
  ∀ n rest, (∀ c ∈ rest.head?, c.isDigit = false) →
    dollarRuns ((textFrom n ps).toList ++ rest)
      = (List.range' (n + 1) (ps.filterMap param?).length).map digitsOf ++ dollarRuns rest

/-- A text that ends the number before it and has no placeholder. -/
def Stops (s : String) : Prop :=
  '$' ∉ s.toList ∧ ∃ c ∈ s.toList.head?, c.isDigit = false

theorem isDigit_of_isPlainChar {c : Char} (h : isPlainChar c = true) : c.isDigit = false := by
  unfold isPlainChar at h
  simp only [Bool.and_eq_true, Bool.not_eq_true'] at h
  exact h.1.1.1.1

theorem stops_of_isWord {s : String} (h : isWord s = true) : Stops s := by
  obtain ⟨c, cs, hs, hplain⟩ := exists_of_isWord h
  unfold Stops
  rw [hs]
  refine ⟨fun hdollar => ?_, c, rfl, isDigit_of_isPlainChar (hplain c (List.mem_cons_self ..))⟩
  exact absurd (hplain '$' hdollar) (by decide)

theorem stops_of_isOpening {s : String} (h : isOpening s = true) : Stops s := by
  obtain ⟨cs, hs, hplain⟩ := exists_of_isOpening h
  unfold Stops
  rw [hs]
  have hdollar : '$' ∉ cs ++ ['('] := by
    intro hmem
    rcases List.mem_append.mp hmem with hmem | hmem
    · exact absurd (hplain '$' hmem) (by decide)
    · exact absurd hmem (by decide)
  cases cs with
  | nil => exact ⟨hdollar, '(', rfl, rfl⟩
  | cons c cs => exact ⟨hdollar, c, rfl, isDigit_of_isPlainChar (hplain c (List.mem_cons_self ..))⟩

namespace Scans

variable {ps qs : List Piece} {s : String}

theorem nil : Scans [] :=
  fun _ _ _ => rfl

theorem text (h : '$' ∉ s.toList) : Scans [.text s] := by
  intro n rest _
  have hs : textFrom n [.text s] = s := String.append_empty
  rw [hs]
  exact dollarRuns_append_of_notMem h rest

theorem param (p : Param) : Scans [.param p] := by
  intro n rest hrest
  have hp : textFrom n [.param p] = Action.placeholder (n + 1) := String.append_empty
  rw [hp]
  exact dollarRuns_placeholder hrest

/-- Between two parts stands a text that ends a number, so the first part is read as if nothing
followed it. -/
theorem between (hps : Scans ps) (hs : Stops s) (hqs : Scans qs) :
    Scans (ps ++ .text s :: qs) := by
  obtain ⟨hdollar, c, hc, hdigit⟩ := hs
  intro n rest hrest
  -- What stands after the first part, with the text between the parts at its start.
  have hafter : ∀ tail, ∀ c ∈ (s.toList ++ tail).head?, c.isDigit = false := by
    intro tail c' hc'
    rw [List.head?_append_of_ne_nil _ (List.ne_nil_of_mem (List.mem_of_mem_head? hc))] at hc'
    rwa [← Option.some.inj (hc.symm.trans hc')]
  have hcount : (ps ++ .text s :: qs).filterMap param?
      = ps.filterMap param? ++ qs.filterMap param? := by
    rw [List.filterMap_append, List.filterMap_cons_none rfl]
  rw [hcount, List.length_append]
  generalize hk : (ps.filterMap param?).length = k
  have hfirst := hps n (s.toList ++ ((textFrom (n + k) qs).toList ++ rest)) (hafter _)
  have hsecond := hqs (n + k) rest hrest
  rw [hk] at hfirst
  calc dollarRuns ((textFrom n (ps ++ .text s :: qs)).toList ++ rest)
    _ = dollarRuns ((textFrom n ps).toList ++
          (s.toList ++ ((textFrom (n + k) qs).toList ++ rest))) := by
        simp [textFrom_append, textFrom, hk]
    _ = (List.range' (n + 1) k).map digitsOf ++
          dollarRuns ((textFrom (n + k) qs).toList ++ rest) := by
        rw [hfirst, dollarRuns_append_of_notMem hdollar]
    _ = (List.range' (n + 1) (k + (qs.filterMap param?).length)).map digitsOf ++
          dollarRuns rest := by
        rw [hsecond, ← List.append_assoc, ← List.map_append, Nat.add_right_comm,
          List.range'_append_1]

end Scans

theorem Laid.scans {ns : List String} {ps : List Piece}
    (h : Laid (fun mark => ∀ t ∈ mark.text?, '$' ∉ t.toList) ns ps) : Scans ps := by
  induction h with
  | nil => exact .nil
  | name h => exact .text (dollar_notMem_quote (h _ rfl))
  | names h => exact .text (dollar_notMem_list fun s hs => h s hs s rfl)
  | raw h => exact .text (h _ rfl)
  | call h => exact .text (dollar_notMem_upperText (h _ rfl))
  | param p => exact .param p
  | number n =>
    refine .text ?_
    unfold natText
    rw [String.toList_ofList]
    exact dollar_notMem_digitsOf n
  | between _ hw _ hps hqs => exact hps.between (stops_of_isWord hw) hqs
  | enclosed _ ho _ hps hqs =>
    refine hps.between (stops_of_isOpening ho) (hqs.between ?_ .nil)
    exact ⟨by decide, ')', rfl, rfl⟩

end Piece

/-! ## Statements -/

/-- The numbers of the placeholders can be read off the text of a statement: they are those from one
to the number of values, in this order, and each is written without a leading zero. -/
theorem Clauses.dollarRuns_of_render {limit : DepthLimit} {m : ClauseMap} {s : Statement}
    (h : m.render limit = .ok s)
    (hdollar : ∀ mark ∈ m.traversal, ∀ t ∈ mark.text?, '$' ∉ t.toList) :
    dollarRuns s.text.toList = (List.range' 1 s.values.length).map digitsOf ∧
      (dollarRuns s.text.toList).map natOfDigits = List.range' 1 s.values.length := by
  have hs := Clauses.eq_ofPieces h
  have hruns := (m.pieces_laid hdollar).scans 0 [] nofun
  have hall : dollarRuns s.text.toList = (List.range' 1 s.values.length).map digitsOf := by
    rw [hs]
    simpa [Statement.ofPieces, dollarRuns] using hruns
  refine ⟨hall, ?_⟩
  rw [hall, List.map_map]
  have hread : natOfDigits ∘ digitsOf = id := funext natOfDigits_digitsOf
  rw [hread, List.map_id]

/-- Placeholders of two digits, with raw texts around them that begin with digits or are empty. -/
theorem Clauses.dollarRuns_of_render_digits :
    let m := ClauseMap.ofList
      [⟨_, .values [[.param (.int 1), .param (.int 2), .param (.int 3), .param (.int 4),
          .param (.int 5), .param (.int 6), .param (.int 7), .param (.int 8), .param (.int 9)],
          [.raw "7", .param (.int 10), .raw "", .param (.int 11), .raw "0"]]⟩,
        ⟨_, .limit 3⟩]
    let s : Statement :=
      ⟨"VALUES ($1, $2, $3, $4, $5, $6, $7, $8, $9), (7, $10, , $11, 0) LIMIT 3",
        [.int 1, .int 2, .int 3, .int 4, .int 5, .int 6, .int 7, .int 8, .int 9, .int 10, .int 11]⟩
    m.render (some 0) = .ok s ∧
      (∀ mark ∈ m.traversal, ∀ t ∈ mark.text?, '$' ∉ t.toList) ∧
      dollarRuns s.text.toList = (List.range' 1 11).map digitsOf ∧
      (dollarRuns s.text.toList).map natOfDigits = List.range' 1 11 := by
  intro m s
  have h : m.render (some 0) = .ok s := render_eq_ok_iff.mpr ⟨rfl, by decide +kernel⟩
  have hdollar : ∀ mark ∈ m.traversal, ∀ t ∈ mark.text?, '$' ∉ t.toList := by decide
  have hruns := Clauses.dollarRuns_of_render h hdollar
  exact ⟨h, hdollar, hruns.1, hruns.2⟩

end Clausal

import Clausal.Proofs.Query.Depth
import Clausal.Proofs.Statement.Rendering

/-!
# Rendering under a depth limit

A limit changes nothing but whether rendering is stopped. Without a limit a map renders unless it
has a defect, and of several defects the first one written is the error. With a limit a map without
defects renders to the same statement as long as its depth is within the limit, and otherwise the
limit is the error: clause maps side by side do not add up.
-/

namespace Clausal

/-! ## Defects -/

namespace Mark

/-- The error of a mark that no statement can be written for, whatever the limit. -/
def defect? : Mark → Option QueryError
  | emptyMap => some .emptyClauseMap
  | hollow .caseWhen => some (.malformed .noOperands)
  | _ => none

theorem fault?_unbounded (m : Mark) : m.fault? .unbounded = m.defect? := by
  cases m with
  | hollow tag => cases tag <;> rfl
  | _ => rfl

theorem defect?_eq_none_iff {m : Mark} :
    m.defect? = none ↔ m ≠ emptyMap ∧ m ≠ hollow .caseWhen := by
  cases m with
  | hollow tag => cases tag <;> simp [defect?]
  | _ => simp [defect?]

/-- A limit adds one kind of fault to the defects. -/
theorem fault?_some (n : Nat) (m : Mark) :
    m.fault? (some n) = m.defect? ∧ Within n [m] ∨
      m.fault? (some n) = some (.depthExceeded n) ∧ m.defect? = none ∧ ¬ Within n [m] := by
  cases m with
  | enter d =>
    rw [within_enter]
    by_cases hd : n < d
    · exact .inr ⟨if_pos hd, rfl, fun h => absurd h.1 (Nat.not_le_of_lt hd)⟩
    · exact .inl ⟨if_neg hd, Nat.le_of_not_lt hd, within_nil⟩
  | hollow tag => cases tag <;> exact .inl ⟨rfl, by simp [Within]⟩
  | _ => exact .inl ⟨rfl, by simp [Within]⟩

end Mark

theorem firstFault_unbounded (ms : List Mark) :
    firstFault .unbounded ms = ms.findSome? Mark.defect? := by
  rw [firstFault, funext Mark.fault?_unbounded]

theorem firstFault_cons (limit : DepthLimit) (m : Mark) (ms : List Mark) :
    firstFault limit (m :: ms) = (m.fault? limit).or (firstFault limit ms) := by
  rw [firstFault, List.findSome?_cons, firstFault]
  cases m.fault? limit <;> rfl

/-- Marks without defects have the limit as their fault if they have one. -/
theorem firstFault_of_no_defect (n : Nat) {ms : List Mark} (h : ∀ m ∈ ms, m.defect? = none) :
    Mark.Within n ms ∧ firstFault (some n) ms = none ∨
      ¬ Mark.Within n ms ∧ firstFault (some n) ms = some (.depthExceeded n) := by
  induction ms with
  | nil => exact .inl ⟨Mark.within_nil, rfl⟩
  | cons m ms ih =>
    obtain ⟨hm, hms⟩ := List.forall_mem_cons.mp h
    rw [firstFault_cons, ← List.singleton_append, Mark.within_append]
    rcases m.fault?_some n with ⟨hfault, hwithin⟩ | ⟨hfault, -, hbeyond⟩
    · rw [hfault, hm, Option.none_or]
      rcases ih hms with ⟨hrest, hnone⟩ | ⟨hrest, hsome⟩
      · exact .inl ⟨⟨hwithin, hrest⟩, hnone⟩
      · exact .inr ⟨fun h => hrest h.2, hsome⟩
    · exact .inr ⟨fun h => hbeyond h.1, by rw [hfault, Option.some_or]⟩

/-- The limit may be met before the first defect is. -/
theorem firstFault_of_defect (n : Nat) {ms : List Mark} {e : QueryError}
    (h : ms.findSome? Mark.defect? = some e) :
    firstFault (some n) ms = some e ∨ firstFault (some n) ms = some (.depthExceeded n) := by
  induction ms with
  | nil => cases h
  | cons m ms ih =>
    rw [firstFault_cons]
    rcases m.fault?_some n with ⟨hfault, -⟩ | ⟨hfault, -, -⟩
    · rw [hfault]
      rw [List.findSome?_cons] at h
      cases hm : m.defect? with
      | some e' => rw [hm] at h; exact .inl h
      | none => rw [hm] at h; exact ih h
    · exact .inr (by rw [hfault, Option.some_or])

/-! ## Rendering -/

namespace Clauses

variable {ks : List ClauseKind}

theorem render_eq_ok_iff {limit : DepthLimit} {m : Clauses ks} {s : Statement} :
    m.render limit = .ok s ↔
      firstFault limit m.traversal = none ∧ Statement.ofPieces m.pieces = s := by
  rw [render_eq]
  cases firstFault limit m.traversal <;> simp

theorem render_eq_error_iff {limit : DepthLimit} {m : Clauses ks} {e : QueryError} :
    m.render limit = .error e ↔ firstFault limit m.traversal = some e := by
  rw [render_eq]
  cases firstFault limit m.traversal <;> simp

theorem render_some_of_ok {m : Clauses ks} {s : Statement} (n : Nat)
    (h : m.render .unbounded = .ok s) :
    m.render (some n) = if m.depth ≤ n then .ok s else .error (.depthExceeded n) := by
  obtain ⟨hfault, hpieces⟩ := render_eq_ok_iff.mp h
  rw [firstFault_unbounded, List.findSome?_eq_none_iff] at hfault
  rcases firstFault_of_no_defect n hfault with ⟨hwithin, hnone⟩ | ⟨hbeyond, hsome⟩
  · rw [if_pos (m.within_traversal.mp hwithin)]
    exact render_eq_ok_iff.mpr ⟨hnone, hpieces⟩
  · rw [if_neg fun hdepth => hbeyond (m.within_traversal.mpr hdepth)]
    exact render_eq_error_iff.mpr hsome

theorem render_some_of_error {m : Clauses ks} {e : QueryError} (n : Nat)
    (h : m.render .unbounded = .error e) :
    m.render (some n) = .error e ∨ m.render (some n) = .error (.depthExceeded n) := by
  rw [render_eq_error_iff, firstFault_unbounded] at h
  exact (firstFault_of_defect n h).imp render_eq_error_iff.mpr render_eq_error_iff.mpr

/-- A statement under a limit is the statement without a limit. -/
theorem render_unbounded_of_ok {m : Clauses ks} {s : Statement} {n : Nat}
    (h : m.render (some n) = .ok s) : m.render .unbounded = .ok s ∧ m.depth ≤ n := by
  cases hfree : m.render .unbounded with
  | error e =>
    rcases render_some_of_error n hfree with he | he <;> rw [he] at h <;> cases h
  | ok t =>
    rw [render_some_of_ok n hfree] at h
    split at h
    · next hdepth => exact ⟨h, hdepth⟩
    · cases h

/-- What a depth limit does. Without one a map renders exactly if neither it nor a map inside it is
empty and no case expression is without operands, and the first of these defects in the order of
writing is the error. With one the outcome is the same or the limit is exceeded; for a map that
renders, it is exceeded exactly by the depth. So a greater limit keeps a statement, and two limits
never give two statements. -/
theorem render_bounded (m : ClauseMap) :
    ((∃ s, m.render .unbounded = .ok s) ↔
      .emptyMap ∉ m.traversal ∧ .hollow .caseWhen ∉ m.traversal) ∧
    (∀ e, m.render .unbounded = .error e ↔
      ∃ before mark after, m.traversal = before ++ mark :: after ∧ mark.defect? = some e ∧
        ∀ earlier ∈ before, earlier ≠ .emptyMap ∧ earlier ≠ .hollow .caseWhen) ∧
    (∀ n s, m.render .unbounded = .ok s →
      m.render (some n) = if m.depth ≤ n then .ok s else .error (.depthExceeded n)) ∧
    (∀ n e, m.render .unbounded = .error e →
      m.render (some n) = .error e ∨ m.render (some n) = .error (.depthExceeded n)) ∧
    (∀ n n' s, n ≤ n' → m.render (some n) = .ok s → m.render (some n') = .ok s) ∧
    (∀ limit limit' s s', m.render limit = .ok s → m.render limit' = .ok s' → s = s') := by
  refine ⟨?_, ?_, fun n _ => render_some_of_ok n, fun n _ => render_some_of_error n, ?_, ?_⟩
  · simp only [render_eq_ok_iff, exists_and_left, exists_eq', and_true, firstFault_unbounded,
      List.findSome?_eq_none_iff, Mark.defect?_eq_none_iff]
    constructor
    · intro h
      exact ⟨fun hm => (h _ hm).1 rfl, fun hm => (h _ hm).2 rfl⟩
    · rintro ⟨hempty, hhollow⟩ mark hmark
      exact ⟨ne_of_mem_of_not_mem hmark hempty, ne_of_mem_of_not_mem hmark hhollow⟩
  · intro e
    rw [render_eq_error_iff, firstFault_unbounded, List.findSome?_eq_some_iff]
    simp only [Mark.defect?_eq_none_iff]
  · intro n n' s hle h
    obtain ⟨hfree, hdepth⟩ := render_unbounded_of_ok h
    rw [render_some_of_ok n' hfree, if_pos (Nat.le_trans hdepth hle)]
  · intro limit limit' s s' h h'
    rw [eq_ofPieces h, eq_ofPieces h']

/-- Two subqueries side by side, one of them with a table inside, and a map with two defects. -/
theorem render_bounded_siblings :
    let leaf := ClauseMap.ofList [⟨_, .limit 1⟩]
    let inner := ClauseMap.ofList [⟨_, .from_ (.derived leaf (some "a"))⟩]
    let m := ClauseMap.ofList [⟨_, .select [.subquery leaf, .existsIn inner]⟩]
    let faulty := ClauseMap.ofList
      [⟨_, .select [.subquery leaf, .caseWhen [], .subquery ClauseMap.empty]⟩]
    let s : Statement := ⟨"SELECT (LIMIT 1), EXISTS (FROM (LIMIT 1) \"a\")", []⟩
    m.depth = 2 ∧ m.render (some 2) = .ok s ∧ m.render (some 1) = .error (.depthExceeded 1) ∧
      faulty.render .unbounded = .error (.malformed .noOperands) ∧
      (faulty.render (some 0) = .error (.malformed .noOperands) ∨
        faulty.render (some 0) = .error (.depthExceeded 0)) := by
  intro leaf inner m faulty s
  have hfree : m.render .unbounded = .ok s := render_eq_ok_iff.mpr ⟨rfl, by decide +kernel⟩
  obtain ⟨-, -, hlimits, -⟩ := render_bounded m
  obtain ⟨-, hdefect, -, hstopped, -⟩ := render_bounded faulty
  have hfaulty : faulty.render .unbounded = .error (.malformed .noOperands) :=
    (hdefect _).mpr ⟨[.enter 1], _, _, rfl, rfl, by simp⟩
  have hdepth : m.depth = 2 := rfl
  refine ⟨hdepth, ?_, ?_, hfaulty, hstopped 0 _ hfaulty⟩
  · rw [hlimits 2 s hfree, if_pos (Nat.le_of_eq hdepth)]
  · rw [hlimits 1 s hfree, if_neg (by rw [hdepth]; decide)]

end Clauses

end Clausal

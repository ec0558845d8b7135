import Clausal.Proofs.Query.CombinedMarks
import Clausal.Proofs.Statement.DepthLimit
import Mathlib.Data.List.Forall2

/-!
# Values of appended maps

An append loses no bound value and makes none up. Where the maps render, what they are appended to
renders as well, and it binds the values that they bind: clause by clause one map after the other,
and row by row in the rows to insert.
-/

namespace Clausal

/-! ## Values of a clause -/

namespace Clause

variable {k : ClauseKind}

/-- The values that a clause binds. -/
def params (c : Clause k) : List Param :=
  (c.marks 0).filterMap Mark.param?

/-- The values bound in a row, counted from zero. -/
def rowParams (n : Nat) (c : Clause .values) : List Param :=
  ((row n c).map Value.mark).filterMap Mark.param?

def rowCount : Clause .values → Nat
  | .values rows => rows.length

theorem params_gather (happendable : k.isAppendable = true) (hk : k ≠ .values) (c : Clause k)
    (cs : List (Clause k)) : (c.gather cs).params = (c :: cs).flatMap params := by
  unfold params
  rw [marks_gather happendable hk, List.filterMap_flatMap]

/-- Rows are joined row by row. -/
theorem params_gather_values (c : Clause .values) (cs : List (Clause .values)) :
    (c.gather cs).params
      = (List.range c.rowCount).flatMap fun n => (c :: cs).flatMap (rowParams n) := by
  cases c with
  | values rows =>
    have hmarks : ((Clause.values rows).gather cs).marks 0
        = (List.range rows.length).flatMap fun n =>
          ((Clause.values rows :: cs).flatMap (row n)).map Value.mark := by
      unfold gather marks
      rw [List.map_flatten, List.map_map, ← List.flatMap_def]
      rfl
    unfold params
    rw [hmarks, List.filterMap_flatMap]
    refine List.flatMap_congr fun n _ => ?_
    rw [List.map_flatMap, List.filterMap_flatMap]
    rfl

theorem rowCount_gather (c : Clause .values) (cs : List (Clause .values)) :
    (c.gather cs).rowCount = c.rowCount := by
  cases c with
  | values rows => simp [gather, rowCount]

end Clause

/-! ## Values of a map -/

namespace Clauses

variable {ks : List ClauseKind}

/-- The values that the clause of a kind binds. -/
def boundBy (k : ClauseKind) (m : Clauses ks) : List Param :=
  (m.get? k).toList.flatMap Clause.params

/-- The values bound in a row of the rows to insert, counted from zero. -/
def boundByRow (n : Nat) (m : Clauses ks) : List Param :=
  (m.get? .values).toList.flatMap (Clause.rowParams n)

/-- The number of rows to insert. -/
def rowCount (m : Clauses ks) : Nat :=
  (m.get? .values).elim 0 Clause.rowCount

theorem marks_eq_flatMap_slots (hks : ks.Nodup) (m : Clauses ks) (d : Nat) :
    m.marks d = ks.flatMap fun k => (m.get? k).toList.flatMap (Clause.marks d) := by
  induction ks with
  | nil => cases m; rfl
  | cons k ks ih =>
    obtain ⟨hk, hks⟩ := List.nodup_cons.mp hks
    obtain ⟨slot, rest, rfl⟩ := m.exists_eq_cons
    have hrest : ∀ j ∈ ks, (cons slot rest).get? j = rest.get? j := fun j hj =>
      get?_cons_of_ne (ne_of_mem_of_not_mem hj hk).symm slot rest
    rw [marks_cons, ih hks, List.flatMap_cons, get?_cons_self]
    congr 1
    · cases slot <;> simp [Clause.slotMarks]
    · exact List.flatMap_congr fun j hj => by rw [hrest j hj]

theorem params_eq_filterMap_marks (m : Clauses ks) :
    m.params = (m.marks 0).filterMap Mark.param? := by
  have hempty : (Mark.ofEmptiness m).filterMap Mark.param? = [] := by
    unfold Mark.ofEmptiness
    split <;> rfl
  unfold params traversal
  rw [List.filterMap_append, hempty, List.nil_append]

/-- A map binds the values of its clauses in the order of their kinds. -/
theorem params_eq_flatMap_boundBy (m : ClauseMap) :
    m.params = ClauseKind.all.flatMap fun k => m.boundBy k := by
  rw [params_eq_filterMap_marks, marks_eq_flatMap_slots ClauseKind.nodup_all]
  simp only [List.filterMap_flatMap]
  rfl

theorem marks_eq_nil_of_isEmpty {m : Clauses ks} (h : m.isEmpty = true) (d : Nat) :
    m.marks d = [] := by
  unfold isEmpty at h
  rw [marks_eq_flatMap, List.isEmpty_iff.mp h]
  rfl

theorem traversal_of_isEmpty_eq_false {m : Clauses ks} (h : m.isEmpty = false) :
    m.traversal = m.marks 0 := by
  unfold traversal Mark.ofEmptiness
  rw [h]
  rfl

end Clauses

namespace ClauseMap

variable {maps : List ClauseMap} {m : ClauseMap} {k : ClauseKind}

theorem flatMap_held {α : Type} (f : Clause k → List α) (maps : List ClauseMap) :
    (held k maps).flatMap f = maps.flatMap fun m => (m.get? k).toList.flatMap f := by
  induction maps with
  | nil => rfl
  | cons m maps ih =>
    unfold held at ih ⊢
    rw [List.filterMap_cons, List.flatMap_cons, ← ih]
    cases m.get? k <;> simp

/-- Of every kind but rows the values stand one map after the other. -/
theorem boundBy_appendAll (h : appendAll maps = .ok m) (hk : k ≠ .values) :
    m.boundBy k = maps.flatMap (Clauses.boundBy k) := by
  have hheld : (held k maps).flatMap Clause.params = maps.flatMap (Clauses.boundBy k) :=
    flatMap_held Clause.params maps
  rw [← hheld]
  unfold Clauses.boundBy
  cases happendable : k.isAppendable with
  | false => rw [held_of_appendAll h happendable]
  | true =>
    rw [get?_appendAll h]
    cases held k maps with
    | nil => rfl
    | cons c cs => simp [Clause.gatherAll, Clause.params_gather happendable hk]

/-- In rows the values stand row by row, and in each row one map after the other. -/
theorem boundBy_appendAll_values (h : appendAll maps = .ok m) :
    m.boundBy .values
      = (List.range m.rowCount).flatMap fun n => maps.flatMap (Clauses.boundByRow n) := by
  have hheld : ∀ n, (held .values maps).flatMap (Clause.rowParams n)
      = maps.flatMap (Clauses.boundByRow n) := fun n => flatMap_held (Clause.rowParams n) maps
  simp only [← hheld]
  unfold Clauses.boundBy Clauses.rowCount
  rw [get?_appendAll h]
  cases held .values maps with
  | nil => rfl
  | cons c cs =>
    simp [Clause.gatherAll, Clause.params_gather_values, Clause.rowCount_gather]

/-! ## The statement of an append -/

theorem isEmpty_appendAll (h : appendAll maps = .ok m) {n : ClauseMap} (hn : n ∈ maps)
    (hne : n.isEmpty = false) : m.isEmpty = false := by
  obtain ⟨k, hk⟩ := n.isEmpty_eq_false_iff.mp hne
  obtain ⟨c, hc⟩ := Option.ne_none_iff_exists'.mp hk
  have hheld : c ∈ held k maps := List.mem_filterMap.mpr ⟨n, hn, hc⟩
  refine m.isEmpty_eq_false_iff.mpr ⟨k, ?_⟩
  rw [get?_appendAll h]
  cases hcs : held k maps with
  | nil => rw [hcs] at hheld; cases hheld
  | cons c cs => exact Option.some_ne_none _

/-- Every mark of the result is one of a map that has clauses. -/
theorem exists_mem_traversal_of_appendAll (h : appendAll maps = .ok m) {mark : Mark}
    (hmark : mark ∈ m.marks 0) : ∃ n ∈ maps, n.isEmpty = false ∧ mark ∈ n.traversal := by
  obtain ⟨n, hn, hmem⟩ := List.mem_flatMap.mp ((marks_appendAll_perm h 0).mem_iff.mp hmark)
  refine ⟨n, hn, ?_⟩
  cases hempty : n.isEmpty with
  | true =>
    rw [Clauses.marks_eq_nil_of_isEmpty hempty] at hmem
    cases hmem
  | false =>
    rw [Clauses.traversal_of_isEmpty_eq_false hempty]
    exact ⟨rfl, hmem⟩

variable {limit : DepthLimit} {stmts : List Statement}

theorem exists_render_of_forall₂
    (h : List.Forall₂ (fun n s => Clauses.render limit n = .ok s) maps stmts) {n : ClauseMap}
    (hn : n ∈ maps) : ∃ s, n.render limit = .ok s := by
  induction h with
  | nil => cases hn
  | @cons n' s maps stmts hs _ ih =>
    rcases List.mem_cons.mp hn with rfl | hn
    · exact ⟨s, hs⟩
    · exact ih hn

/-- A map without clauses binds nothing, so it may be left out. -/
theorem flatMap_params_eq (h : List.Forall₂ (fun n s => Clauses.render limit n = .ok s)
    (maps.filter fun n => !n.isEmpty) stmts) :
    maps.flatMap Clauses.params = stmts.flatMap Statement.values := by
  induction maps generalizing stmts with
  | nil => cases h; rfl
  | cons n maps ih =>
    rw [List.flatMap_cons]
    cases hempty : n.isEmpty with
    | true =>
      rw [List.filter_cons_of_neg (by simp [hempty])] at h
      rw [Clauses.params_eq_filterMap_marks, Clauses.marks_eq_nil_of_isEmpty hempty]
      exact ih h
    | false =>
      rw [List.filter_cons_of_pos (by simp [hempty])] at h
      cases h with
      | cons hs hrest => rw [List.flatMap_cons, Clauses.values_of_render hs, ih hrest]

/-- If the maps that have clauses render, and there is one, then what they are appended to renders
as well. It binds the values that they bind, each as often as they do: those of a clause one map
after the other, and those of the rows to insert row by row. -/
theorem values_of_render_appendAll (happend : appendAll maps = .ok m)
    (hsome : ∃ n ∈ maps, n.isEmpty = false)
    (hstmts : List.Forall₂ (fun n s => Clauses.render limit n = .ok s)
      (maps.filter fun n => !n.isEmpty) stmts) :
    ∃ s, m.render limit = .ok s ∧ s.values.Perm (stmts.flatMap Statement.values) ∧
      (s.values = ClauseKind.all.flatMap fun k => m.boundBy k) ∧
      (∀ k, k ≠ .values → m.boundBy k = maps.flatMap (Clauses.boundBy k)) ∧
      m.boundBy .values
        = (List.range m.rowCount).flatMap fun n => maps.flatMap (Clauses.boundByRow n) := by
  obtain ⟨n, hn, hne⟩ := hsome
  have hfault : firstFault limit m.traversal = none := by
    rw [Clauses.traversal_of_isEmpty_eq_false (isEmpty_appendAll happend hn hne)]
    refine List.findSome?_eq_none_iff.mpr ?_
    intro mark hmark
    obtain ⟨n, hn, hne, hmem⟩ := exists_mem_traversal_of_appendAll happend hmark
    have hfilter : n ∈ maps.filter fun n => !n.isEmpty := by
      refine List.mem_filter.mpr ⟨hn, ?_⟩
      rw [hne]
      rfl
    obtain ⟨s, hs⟩ := exists_render_of_forall₂ hstmts hfilter
    exact List.findSome?_eq_none_iff.mp (Clauses.render_eq_ok_iff.mp hs).1 mark hmem
  have hs : m.render limit = .ok (Statement.ofPieces m.pieces) :=
    Clauses.render_eq_ok_iff.mpr ⟨hfault, rfl⟩
  have hvalues := Clauses.values_of_render hs
  refine ⟨_, hs, ?_, ?_, fun k hk => boundBy_appendAll happend hk, boundBy_appendAll_values happend⟩
  · have hperm := (marks_appendAll_perm happend 0).filterMap Mark.param?
    rw [List.filterMap_flatMap, ← Clauses.params_eq_filterMap_marks] at hperm
    have hmaps : (maps.flatMap fun n => (n.marks 0).filterMap Mark.param?)
        = stmts.flatMap Statement.values := by
      rw [← flatMap_params_eq hstmts]
      exact List.flatMap_congr fun n _ => n.params_eq_filterMap_marks.symm
    rw [hvalues, ← hmaps]
    exact hperm
  · rw [hvalues]
    exact m.params_eq_flatMap_boundBy

/-- Two maps with rows and conditions, one without clauses between them. -/
theorem values_of_render_appendAll_rows :
    let a := ofList [⟨_, .values [[.param (.int 1)], [.param (.int 2)]]⟩,
      ⟨_, .where_ (.binary .eq (.ident "x") (.param (.int 3)))⟩, ⟨_, .limit 5⟩]
    let b := ofList [⟨_, .values [[.param (.int 4), .param (.int 5)], []]⟩,
      ⟨_, .where_ (.param (.int 6))⟩]
    let m := ofList
      [⟨_, .values [[.param (.int 1), .param (.int 4), .param (.int 5)], [.param (.int 2)]]⟩,
        ⟨_, .where_ (.and [.binary .eq (.ident "x") (.param (.int 3)), .param (.int 6)])⟩,
        ⟨_, .limit 5⟩]
    appendAll [a, empty, b] = .ok m ∧
      ∃ s, m.render (some 0) = .ok s ∧ s.values = [.int 1, .int 4, .int 5, .int 2, .int 3, .int 6] ∧
        s.values.Perm [.int 1, .int 2, .int 3, .int 4, .int 5, .int 6] := by
  intro a b m
  have happend : appendAll [a, empty, b] = .ok m := rfl
  have hstmts : List.Forall₂ (fun n s => Clauses.render (some 0) n = .ok s) [a, b]
      [.ofPieces a.pieces, .ofPieces b.pieces] :=
    .cons (Clauses.render_eq_ok_iff.mpr ⟨rfl, rfl⟩)
      (.cons (Clauses.render_eq_ok_iff.mpr ⟨rfl, rfl⟩) .nil)
  obtain ⟨s, hs, hperm, hvalues, -⟩ :=
    values_of_render_appendAll happend ⟨a, List.mem_cons_self .., rfl⟩ hstmts
  exact ⟨happend, s, hs, hvalues, hperm⟩

end ClauseMap

end Clausal

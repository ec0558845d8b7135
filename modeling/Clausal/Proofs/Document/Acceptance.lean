import Clausal.Proofs.Document.Canonical
import Clausal.Proofs.Query.CombinedMarks
import Clausal.Proofs.Statement.DepthLimit

/-!
# Rendering what was read

Reading and rendering accept the same nesting. What was read under a limit is settled, and so is
what combining such maps comes to; of settled marks the only one that rendering under the limit
stops at is that of an empty clause map.
-/

namespace Clausal

/-! ## Settled marks -/

theorem Mark.fault?_of_isSettled {limit : DepthLimit} {m : Mark} (h : m.isSettled limit = true) :
    m.fault? limit = if m = .emptyMap then some .emptyClauseMap else none := by
  cases m with
  | hollow tag => cases h
  | enter d =>
    cases limit with
    | none => rfl
    | some n => exact if_neg (Nat.not_lt_of_le (of_decide_eq_true h))
  | _ => rfl

namespace Settled

variable {limit : DepthLimit}

theorem firstFault_eq {ms : List Mark} (h : Settled limit ms) :
    firstFault limit ms = if .emptyMap ∈ ms then some .emptyClauseMap else none := by
  induction ms with
  | nil => rfl
  | cons m ms ih =>
    obtain ⟨hm, hms⟩ := List.forall_mem_cons.mp h
    rw [firstFault_cons, Mark.fault?_of_isSettled hm, ih hms]
    by_cases hempty : m = .emptyMap
    · subst hempty
      simp
    · simp [hempty, Ne.symm hempty]

/-- Settled maps fail to render only where a map is empty. -/
theorem render_eq_error_iff {ks : List ClauseKind} {m : Clauses ks}
    (h : Settled limit m.traversal) {e : QueryError} :
    m.render limit = .error e ↔ e = .emptyClauseMap ∧ .emptyMap ∈ m.traversal := by
  rw [Clauses.render_eq_error_iff, h.firstFault_eq]
  split
  · next hempty => simp [hempty, eq_comm]
  · next hempty => simp [hempty]

theorem render_eq_ok_iff {ks : List ClauseKind} {m : Clauses ks} (h : Settled limit m.traversal) :
    (∃ s, m.render limit = .ok s) ↔ .emptyMap ∉ m.traversal := by
  simp only [Clauses.render_eq_ok_iff, exists_and_left, exists_eq', and_true, h.firstFault_eq]
  simp

end Settled

/-! ## Combined maps -/

namespace ClauseMap

/-- What can be made of a list of maps: each of them, their merge, and what appending them comes
to. -/
inductive CombinationOf (maps : List ClauseMap) : ClauseMap → Prop where
  | one {m : ClauseMap} (h : m ∈ maps) : CombinationOf maps m
  | merged : CombinationOf maps (mergeAll maps)
  | appended {m : ClauseMap} (h : appendAll maps = .ok m) : CombinationOf maps m

variable {limit : DepthLimit} {maps : List ClauseMap} {m : ClauseMap}

/-- Nothing stands in a combined map that stands in none of the maps. -/
theorem CombinationOf.exists_mem_marks (h : CombinationOf maps m) {mark : Mark}
    (hmark : mark ∈ m.marks 0) : ∃ n ∈ maps, mark ∈ n.marks 0 := by
  cases h with
  | one h => exact ⟨m, h, hmark⟩
  | merged => exact mem_marks_mergeAll hmark
  | appended h => exact List.mem_flatMap.mp ((marks_appendAll_perm h 0).subset hmark)

theorem CombinationOf.settled (h : CombinationOf maps m)
    (hmaps : ∀ n ∈ maps, Settled limit n.traversal) : Settled limit m.traversal := by
  apply (Settled.ofEmptiness _).append
  intro mark hmark
  obtain ⟨n, hn, hmark⟩ := h.exists_mem_marks hmark
  exact hmaps n hn mark (List.mem_append_right _ hmark)

theorem settled_of_mapM_ofJson {docs : List Json} (h : docs.mapM (ofJson limit) = .ok maps) :
    ∀ n ∈ maps, Settled limit n.traversal := by
  have hread : ∀ doc, Settles limit Clauses.traversal (ofJson limit doc) :=
    fun doc m hm => settled_of_ofJson hm
  intro n hn mark hmark
  exact mapM_settles hread docs maps h mark (List.mem_flatMap.mpr ⟨n, hn, hmark⟩)

end ClauseMap

end Clausal

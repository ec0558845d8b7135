import Clausal.Proofs.Query.Traversal
import Mathlib.Data.List.Nodup

/-!
# Slots of clause maps

Putting in clauses of different kinds fills different slots, so the order in which that is done does
not matter: a clause map is the map of its clauses, in whatever order they come.
-/

namespace Clausal

namespace AnyClause

def marks (depth : Nat) (c : AnyClause) : List Mark :=
  c.clause.marks depth

def mapParams (f : Param → Param) (c : AnyClause) : AnyClause :=
  ⟨c.kind, c.clause.mapParams f⟩

end AnyClause

namespace Clauses

variable {j k : ClauseKind} {ks : List ClauseKind}

/-! ## The clauses of a map -/

theorem marks_eq_flatMap (d : Nat) {ks : List ClauseKind} (m : Clauses ks) :
    m.marks d = m.toList.flatMap (AnyClause.marks d) := by
  cases m with
  | nil => rfl
  | absent rest => exact rest.marks_eq_flatMap d
  | present c rest =>
    rw [Clauses.marks, rest.marks_eq_flatMap d]
    rfl

theorem toList_mapParams (f : Param → Param) {ks : List ClauseKind} (m : Clauses ks) :
    (m.mapParams f).toList = m.toList.map (AnyClause.mapParams f) := by
  cases m with
  | nil => rfl
  | absent rest => exact rest.toList_mapParams f
  | present c rest => exact congrArg (⟨_, c.mapParams f⟩ :: ·) (rest.toList_mapParams f)

theorem kinds_sublist {ks : List ClauseKind} (m : Clauses ks) : m.kinds.Sublist ks := by
  cases m with
  | nil => exact .slnil
  | absent rest => exact rest.kinds_sublist.cons _
  | present c rest => exact rest.kinds_sublist.cons_cons _

/-! ## Putting in a clause -/

theorem insert_absent_self (c : Clause k) (rest : Clauses ks) :
    (absent rest).insert c = present c rest := by
  simp [insert]

theorem insert_present_self (c d : Clause k) (rest : Clauses ks) :
    (present d rest).insert c = present c rest := by
  simp [insert]

theorem insert_absent_of_ne (h : j ≠ k) (c : Clause j) (rest : Clauses ks) :
    (absent (k := k) rest).insert c = absent (rest.insert c) := by
  simp [insert, h]

theorem insert_present_of_ne (h : j ≠ k) (c : Clause j) (d : Clause k) (rest : Clauses ks) :
    (present d rest).insert c = present d (rest.insert c) := by
  simp [insert, h]

theorem insert_comm (h : j ≠ k) (c : Clause j) (d : Clause k) :
    ∀ {ks : List ClauseKind} (m : Clauses ks), (m.insert c).insert d = (m.insert d).insert c
  | _, .nil => rfl
  -- Either clause may be for the first slot; both may not, and then the rest is at issue.
  | i :: _, .absent rest => by
    by_cases hj : j = i
    · subst hj
      rw [insert_absent_self, insert_present_of_ne h.symm, insert_absent_of_ne h.symm,
        insert_absent_self]
    · by_cases hk : k = i
      · subst hk
        rw [insert_absent_of_ne hj, insert_absent_self, insert_absent_self,
          insert_present_of_ne hj]
      · rw [insert_absent_of_ne hj, insert_absent_of_ne hk, insert_absent_of_ne hk,
          insert_absent_of_ne hj, rest.insert_comm h]
  | i :: _, .present e rest => by
    by_cases hj : j = i
    · subst hj
      rw [insert_present_self, insert_present_of_ne h.symm, insert_present_of_ne h.symm,
        insert_present_self]
    · by_cases hk : k = i
      · subst hk
        rw [insert_present_of_ne hj, insert_present_self, insert_present_self,
          insert_present_of_ne hj]
      · rw [insert_present_of_ne hj, insert_present_of_ne hk, insert_present_of_ne hk,
          insert_present_of_ne hj, rest.insert_comm h]

theorem mem_marks_insert {d : Nat} {c : Clause k} {mark : Mark} :
    ∀ {ks : List ClauseKind} (m : Clauses ks), mark ∈ (m.insert c).marks d →
      mark ∈ c.marks d ∨ mark ∈ m.marks d
  | _, .nil, h => .inr h
  | j :: _, .absent rest, h => by
    by_cases hk : k = j
    · subst hk
      rw [insert_absent_self, Clauses.marks] at h
      exact List.mem_append.mp h
    · rw [insert_absent_of_ne hk, Clauses.marks] at h
      exact rest.mem_marks_insert h
  | j :: _, .present e rest, h => by
    by_cases hk : k = j
    · subst hk
      rw [insert_present_self, Clauses.marks] at h
      exact (List.mem_append.mp h).imp_right (List.mem_append_right _)
    · rw [insert_present_of_ne hk, Clauses.marks] at h
      rcases List.mem_append.mp h with he | hrest
      · exact .inr (List.mem_append_left _ he)
      · exact (rest.mem_marks_insert hrest).imp_right (List.mem_append_right _)

/-! ## Putting in all clauses of a map -/

theorem insertAll_absent {cs : List AnyClause} (h : ∀ c ∈ cs, c.kind ≠ k) (rest : Clauses ks) :
    (absent (k := k) rest).insertAll cs = absent (rest.insertAll cs) := by
  induction cs generalizing rest with
  | nil => rfl
  | cons c cs ih =>
    have hc := insert_absent_of_ne (h c (List.mem_cons_self ..)) c.clause rest
    change ((absent rest).insert c.clause).insertAll cs = _
    rw [hc, ih fun d hd => h d (List.mem_cons_of_mem _ hd)]
    rfl

theorem insertAll_present {cs : List AnyClause} (h : ∀ c ∈ cs, c.kind ≠ k) (d : Clause k)
    (rest : Clauses ks) : (present d rest).insertAll cs = present d (rest.insertAll cs) := by
  induction cs generalizing rest with
  | nil => rfl
  | cons c cs ih =>
    have hc := insert_present_of_ne (h c (List.mem_cons_self ..)) c.clause d rest
    change ((present d rest).insert c.clause).insertAll cs = _
    rw [hc, ih fun d hd => h d (List.mem_cons_of_mem _ hd)]
    rfl

theorem kind_ne_of_mem_toList (h : k ∉ ks) (m : Clauses ks) : ∀ c ∈ m.toList, c.kind ≠ k := by
  intro c hc hk
  exact h (m.kinds_sublist.subset (hk ▸ List.mem_map_of_mem hc))

theorem insertAll_toList : ∀ {ks : List ClauseKind} (_ : ks.Nodup) (m : Clauses ks),
    (empty ks).insertAll m.toList = m
  | _, _, .nil => rfl
  | _ :: ks, h, .absent rest => by
    obtain ⟨hk, hks⟩ := List.nodup_cons.mp h
    change (absent (empty ks)).insertAll rest.toList = _
    rw [insertAll_absent (rest.kind_ne_of_mem_toList hk), insertAll_toList hks rest]
  | _ :: ks, h, .present c rest => by
    obtain ⟨hk, hks⟩ := List.nodup_cons.mp h
    change ((absent (empty ks)).insert c).insertAll rest.toList = _
    rw [insert_absent_self, insertAll_present (rest.kind_ne_of_mem_toList hk),
      insertAll_toList hks rest]

theorem insertAll_perm {cs ds : List AnyClause} (h : cs.Perm ds)
    (hkinds : (cs.map AnyClause.kind).Nodup) (m : Clauses ks) :
    m.insertAll cs = m.insertAll ds := by
  apply h.foldl_eq'
  intro c hc d hd m
  by_cases hk : c.kind = d.kind
  · rw [List.inj_on_of_nodup_map hkinds hc hd hk]
  · exact m.insert_comm hk c.clause d.clause

end Clauses

theorem ClauseMap.ofList_of_perm {cs : List AnyClause} {m : ClauseMap} (h : cs.Perm m.toList) :
    ofList cs = m := by
  have hkinds : (m.toList.map AnyClause.kind).Nodup :=
    m.kinds_sublist.nodup ClauseKind.nodup_all
  rw [ofList, Clauses.insertAll_perm h ((h.map AnyClause.kind).nodup_iff.mpr hkinds)]
  exact Clauses.insertAll_toList ClauseKind.nodup_all m

end Clausal

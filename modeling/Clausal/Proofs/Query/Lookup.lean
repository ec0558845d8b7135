import Clausal.Proofs.Query.Slots

/-!
# Looking up clauses

A clause map is its first slot and the slots after it; the lookup of a kind gives the slot of that
kind. What an operation does to a map is told by what it does to one slot.
-/

namespace Clausal

namespace Clauses

variable {j k : ClauseKind} {ks : List ClauseKind}

/-! ## First slot and rest -/

/-- The map with the given first slot. -/
def cons : Option (Clause k) → Clauses ks → Clauses (k :: ks)
  | none, rest => .absent rest
  | some c, rest => .present c rest

theorem exists_eq_cons : ∀ m : Clauses (k :: ks), ∃ slot rest, m = cons slot rest
  | .absent rest => ⟨none, rest, rfl⟩
  | .present c rest => ⟨some c, rest, rfl⟩

@[simp] theorem get?_cons_self (slot : Option (Clause k)) (rest : Clauses ks) :
    (cons slot rest).get? k = slot := by
  cases slot <;> simp [cons, get?]

theorem get?_cons_of_ne (h : j ≠ k) (slot : Option (Clause j)) (rest : Clauses ks) :
    (cons slot rest).get? k = rest.get? k := by
  cases slot <;> simp [cons, get?, h]

theorem insert_cons_self (c : Clause k) (slot : Option (Clause k)) (rest : Clauses ks) :
    (cons slot rest).insert c = cons (some c) rest := by
  cases slot <;> simp [cons, insert]

theorem insert_cons_of_ne (h : k ≠ j) (c : Clause k) (slot : Option (Clause j))
    (rest : Clauses ks) : (cons slot rest).insert c = cons slot (rest.insert c) := by
  cases slot <;> simp [cons, insert, h]

theorem remove_cons_self (slot : Option (Clause k)) (rest : Clauses ks) :
    (cons slot rest).remove k = cons none rest := by
  cases slot <;> simp [cons, remove]

theorem remove_cons_of_ne (h : j ≠ k) (slot : Option (Clause j)) (rest : Clauses ks) :
    (cons slot rest).remove k = cons slot (rest.remove k) := by
  cases slot <;> simp [cons, remove, h]

theorem getThenInsert_cons_self (c : Clause k) (slot : Option (Clause k)) (rest : Clauses ks) :
    (cons slot rest).getThenInsert c = (slot, cons (some c) rest) := by
  cases slot <;> simp [cons, getThenInsert]

theorem getThenInsert_cons_of_ne (h : k ≠ j) (c : Clause k) (slot : Option (Clause j))
    (rest : Clauses ks) : (cons slot rest).getThenInsert c
      = ((rest.getThenInsert c).1, cons slot (rest.getThenInsert c).2) := by
  cases slot <;> simp [cons, getThenInsert, h]

theorem getThenRemove_cons_self (slot : Option (Clause k)) (rest : Clauses ks) :
    (cons slot rest).getThenRemove k = (slot, cons none rest) := by
  cases slot <;> simp [cons, getThenRemove]

theorem getThenRemove_cons_of_ne (h : j ≠ k) (slot : Option (Clause j)) (rest : Clauses ks) :
    (cons slot rest).getThenRemove k
      = ((rest.getThenRemove k).1, cons slot (rest.getThenRemove k).2) := by
  cases slot <;> simp [cons, getThenRemove, h]

theorem override_cons (slot slot' : Option (Clause k)) (a b : Clauses ks) :
    (cons slot a).override (cons slot' b) = cons (slot'.or slot) (a.override b) := by
  cases slot <;> cases slot' <;> rfl

/-! ## Lookup -/

theorem get?_eq_none_of_notMem (h : k ∉ ks) (m : Clauses ks) : m.get? k = none := by
  induction ks with
  | nil => cases m; rfl
  | cons j ks ih =>
    obtain ⟨hne, hrest⟩ := not_or.mp (mt List.mem_cons.mpr h)
    obtain ⟨slot, rest, rfl⟩ := m.exists_eq_cons
    rw [get?_cons_of_ne (Ne.symm hne), ih hrest]

theorem get?_empty : ∀ ks : List ClauseKind, (empty ks).get? k = none
  | [] => rfl
  | j :: ks => by
    change (cons (k := j) none (empty ks)).get? k = none
    by_cases h : j = k
    · subst h
      rw [get?_cons_self]
    · rw [get?_cons_of_ne h, get?_empty ks]

theorem get?_insert_of_ne (h : j ≠ k) (c : Clause j) (m : Clauses ks) :
    (m.insert c).get? k = m.get? k := by
  induction ks with
  | nil => cases m; rfl
  | cons i ks ih =>
    obtain ⟨slot, rest, rfl⟩ := m.exists_eq_cons
    by_cases hi : j = i
    · subst hi
      rw [insert_cons_self, get?_cons_of_ne h, get?_cons_of_ne h]
    · rw [insert_cons_of_ne hi]
      by_cases hk : i = k
      · subst hk
        rw [get?_cons_self, get?_cons_self]
      · rw [get?_cons_of_ne hk, get?_cons_of_ne hk, ih]

theorem get?_insert_self (h : k ∈ ks) (c : Clause k) (m : Clauses ks) :
    (m.insert c).get? k = some c := by
  induction ks with
  | nil => cases h
  | cons j ks ih =>
    obtain ⟨slot, rest, rfl⟩ := m.exists_eq_cons
    by_cases hj : k = j
    · subst hj
      rw [insert_cons_self, get?_cons_self]
    · rw [insert_cons_of_ne hj, get?_cons_of_ne (Ne.symm hj)]
      exact ih (List.mem_of_ne_of_mem hj h) rest

theorem get?_remove_of_ne (h : j ≠ k) (m : Clauses ks) : (m.remove j).get? k = m.get? k := by
  induction ks with
  | nil => cases m; rfl
  | cons i ks ih =>
    obtain ⟨slot, rest, rfl⟩ := m.exists_eq_cons
    by_cases hi : i = j
    · subst hi
      rw [remove_cons_self, get?_cons_of_ne h, get?_cons_of_ne h]
    · rw [remove_cons_of_ne hi]
      by_cases hk : i = k
      · subst hk
        rw [get?_cons_self, get?_cons_self]
      · rw [get?_cons_of_ne hk, get?_cons_of_ne hk, ih]

theorem get?_remove_self (h : ks.Nodup) (m : Clauses ks) : (m.remove k).get? k = none := by
  induction ks with
  | nil => cases m; rfl
  | cons j ks ih =>
    obtain ⟨hj, hks⟩ := List.nodup_cons.mp h
    obtain ⟨slot, rest, rfl⟩ := m.exists_eq_cons
    by_cases hk : j = k
    · subst hk
      rw [remove_cons_self, get?_cons_self]
    · rw [remove_cons_of_ne hk, get?_cons_of_ne hk, ih hks]

/-- What comes back is what a lookup finds before. -/
theorem getThenInsert_eq (c : Clause k) (m : Clauses ks) :
    m.getThenInsert c = (m.get? k, m.insert c) := by
  induction ks with
  | nil => cases m; rfl
  | cons j ks ih =>
    obtain ⟨slot, rest, rfl⟩ := m.exists_eq_cons
    by_cases hk : k = j
    · subst hk
      rw [getThenInsert_cons_self, get?_cons_self, insert_cons_self]
    · rw [getThenInsert_cons_of_ne hk, get?_cons_of_ne (Ne.symm hk), insert_cons_of_ne hk, ih]

theorem getThenRemove_eq (k : ClauseKind) (m : Clauses ks) :
    m.getThenRemove k = (m.get? k, m.remove k) := by
  induction ks with
  | nil => cases m; rfl
  | cons j ks ih =>
    obtain ⟨slot, rest, rfl⟩ := m.exists_eq_cons
    by_cases hk : j = k
    · subst hk
      rw [getThenRemove_cons_self, get?_cons_self, remove_cons_self]
    · rw [getThenRemove_cons_of_ne hk, get?_cons_of_ne hk, remove_cons_of_ne hk, ih]

theorem get?_insertAll_of_forall_ne {cs : List AnyClause} (h : ∀ c ∈ cs, c.kind ≠ k)
    (m : Clauses ks) : (m.insertAll cs).get? k = m.get? k := by
  induction cs generalizing m with
  | nil => rfl
  | cons c cs ih =>
    obtain ⟨hc, hcs⟩ := List.forall_mem_cons.mp h
    exact (ih hcs (m.insert c.clause)).trans (get?_insert_of_ne hc c.clause m)

theorem get?_insertAll_of_mem {cs : List AnyClause} (hkinds : (cs.map AnyClause.kind).Nodup)
    {c : AnyClause} (hc : c ∈ cs) (hk : c.kind ∈ ks) (m : Clauses ks) :
    (m.insertAll cs).get? c.kind = some c.clause := by
  induction cs generalizing m with
  | nil => cases hc
  | cons d cs ih =>
    obtain ⟨hd, hrest⟩ := List.nodup_cons.mp hkinds
    rcases List.mem_cons.mp hc with rfl | hc
    · have hne : ∀ e ∈ cs, e.kind ≠ c.kind := fun e he =>
        ne_of_mem_of_not_mem (List.mem_map_of_mem he) hd
      exact (get?_insertAll_of_forall_ne hne _).trans (get?_insert_self hk c.clause m)
    · exact ih hrest hc (m.insert d.clause)

/-- A map is told by its slots. -/
theorem ext_get? (h : ks.Nodup) {a b : Clauses ks} (hget : ∀ k, a.get? k = b.get? k) : a = b := by
  induction ks with
  | nil => cases a; cases b; rfl
  | cons j ks ih =>
    obtain ⟨hj, hks⟩ := List.nodup_cons.mp h
    obtain ⟨slot, a, rfl⟩ := a.exists_eq_cons
    obtain ⟨slot', b, rfl⟩ := b.exists_eq_cons
    have hslot : slot = slot' := by simpa using hget j
    have hrest : a = b := by
      apply ih hks
      intro k
      by_cases hk : j = k
      · subst hk
        rw [get?_eq_none_of_notMem hj, get?_eq_none_of_notMem hj]
      · simpa only [get?_cons_of_ne hk] using hget k
    rw [hslot, hrest]

theorem get?_override (a b : Clauses ks) (k : ClauseKind) :
    (a.override b).get? k = (b.get? k).or (a.get? k) := by
  induction ks with
  | nil => cases a; cases b; rfl
  | cons j ks ih =>
    obtain ⟨slot, a, rfl⟩ := a.exists_eq_cons
    obtain ⟨slot', b, rfl⟩ := b.exists_eq_cons
    rw [override_cons]
    by_cases hk : j = k
    · subst hk
      rw [get?_cons_self, get?_cons_self, get?_cons_self]
    · rw [get?_cons_of_ne hk, get?_cons_of_ne hk, get?_cons_of_ne hk, ih]

theorem empty_override (h : ks.Nodup) (m : Clauses ks) : (empty ks).override m = m := by
  apply ext_get? h
  intro k
  rw [get?_override, get?_empty, Option.or_none]

/-! ## All slots -/

/-- The clauses of a map in priority order are those that a lookup finds. -/
theorem toList_eq_filterMap (h : ks.Nodup) (m : Clauses ks) :
    m.toList = ks.filterMap fun k => (m.get? k).map (AnyClause.mk k) := by
  induction ks with
  | nil => cases m; rfl
  | cons j ks ih =>
    obtain ⟨hj, hks⟩ := List.nodup_cons.mp h
    obtain ⟨slot, rest, rfl⟩ := m.exists_eq_cons
    have hrest : (ks.filterMap fun k => ((cons slot rest).get? k).map (AnyClause.mk k))
        = rest.toList := by
      rw [ih hks]
      apply List.filterMap_congr
      intro k hk
      rw [get?_cons_of_ne (ne_of_mem_of_not_mem hk hj).symm]
    rw [List.filterMap_cons, hrest, get?_cons_self]
    cases slot <;> rfl

/-- The kinds of a map in priority order are those that a lookup finds. -/
theorem kinds_eq_filter (h : ks.Nodup) (m : Clauses ks) :
    m.kinds = ks.filter fun k => m.contains k := by
  rw [kinds, m.toList_eq_filterMap h, List.map_filterMap, ← List.filterMap_eq_filter]
  apply List.filterMap_congr
  intro k _
  cases hk : m.get? k <;> simp [contains, hk, Option.guard]

theorem isEmpty_eq_false_iff (m : ClauseMap) : m.isEmpty = false ↔ ∃ k, m.get? k ≠ none := by
  have hkinds := m.kinds_eq_filter ClauseKind.nodup_all
  have hempty : m.isEmpty = m.kinds.isEmpty := by
    unfold isEmpty kinds
    rw [List.isEmpty_map]
  rw [hempty, hkinds, List.isEmpty_eq_false_iff_exists_mem]
  simp [ClauseKind.mem_all, contains, Option.isSome_iff_ne_none]

end Clauses

end Clausal

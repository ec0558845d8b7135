import Clausal.Proofs.Query.Append
import Mathlib.Data.List.Induction
import Mathlib.Data.List.Perm.Basic

/-!
# Marks of combined maps

A merge has marks of the merged maps only, and an append has the marks of all maps, each as often
as they have it. Neither makes up an operator, a value or a clause map, and neither moves one to
another level.
-/

namespace Clausal

/-! ## Lists of parts -/

theorem Expr.listMarks_append (d : Nat) (es es' : List Expr) :
    Expr.listMarks d (es ++ es') = Expr.listMarks d es ++ Expr.listMarks d es' := by
  induction es with
  | nil => rfl
  | cons e es ih => rw [List.cons_append, Expr.listMarks, Expr.listMarks, ih, List.append_assoc]

theorem Join.listMarks_append (d : Nat) (js js' : List Join) :
    Join.listMarks d (js ++ js') = Join.listMarks d js ++ Join.listMarks d js' := by
  induction js with
  | nil => rfl
  | cons j js ih => rw [List.cons_append, Join.listMarks, Join.listMarks, ih, List.append_assoc]

theorem OrderItem.listMarks_append (d : Nat) (is is' : List OrderItem) :
    OrderItem.listMarks d (is ++ is') = OrderItem.listMarks d is ++ OrderItem.listMarks d is' := by
  induction is with
  | nil => rfl
  | cons i is ih =>
    rw [List.cons_append, OrderItem.listMarks, OrderItem.listMarks, ih, List.append_assoc]

/-- Two conditions connected by and have the marks of both: the group is not hollow. -/
theorem Expr.marks_and_pair (d : Nat) (e e' : Expr) :
    (Expr.and [e, e']).marks d = e.marks d ++ e'.marks d := by
  simp [Expr.marks, Expr.listMarks, Mark.ofOperands]

theorem perm_append_append_comm {α : Type} (a b c d : List α) :
    ((a ++ b) ++ (c ++ d)).Perm ((a ++ c) ++ (b ++ d)) := by
  rw [List.append_assoc, List.append_assoc, ← List.append_assoc b, ← List.append_assoc c]
  exact ((List.perm_append_comm).append_right d).append_left a

theorem flatten_zipWith_append_perm {α : Type} {rows rows' : List (List α)}
    (h : rows.length = rows'.length) :
    (List.zipWith (· ++ ·) rows rows').flatten.Perm (rows.flatten ++ rows'.flatten) := by
  induction rows generalizing rows' with
  | nil =>
    obtain rfl := List.length_eq_zero_iff.mp h.symm
    exact .refl _
  | cons row rows ih =>
    obtain ⟨row', rows', rfl⟩ := List.exists_cons_of_length_eq_add_one h.symm
    have hrest := ih (Nat.succ.inj h)
    exact (hrest.append_left _).trans (perm_append_append_comm _ _ _ _)

/-! ## One slot -/

namespace Clause

variable {k : ClauseKind}

/-- Two clauses joined have the marks of the first and then those of the second, but for rows, which
are joined one by one. -/
theorem marks_append_eq (hk : k ≠ .values) {c c' e : Clause k} (h : c.append c' = .ok e) (d : Nat) :
    e.marks d = c.marks d ++ c'.marks d := by
  cases c with
  | values rows => exact absurd rfl hk
  | columns names => cases c'; cases h; exact List.map_append
  | set es | select es | groupBy es => cases c'; cases h; exact Expr.listMarks_append d ..
  | join js => cases c'; cases h; exact Join.listMarks_append d ..
  | orderBy is => cases c'; cases h; exact OrderItem.listMarks_append d ..
  | where_ e | having e => cases c'; cases h; exact Expr.marks_and_pair d ..
  -- Of the other kinds no two clauses are joined.
  | _ => cases c'; cases h

theorem marks_append_perm {c c' e : Clause k} (h : c.append c' = .ok e) (d : Nat) :
    (e.marks d).Perm (c.marks d ++ c'.marks d) := by
  by_cases hk : k = .values
  · subst hk
    cases c with
    | values rows =>
      cases c' with
      | values rows' =>
        simp only [append] at h
        split at h
        · next hlength =>
          cases h
          exact ((flatten_zipWith_append_perm hlength).map _).trans (.of_eq List.map_append)
        · cases h
  · exact .of_eq (marks_append_eq hk h d)

theorem marks_gather (happendable : k.isAppendable = true) (hk : k ≠ .values) (c : Clause k)
    (cs : List (Clause k)) (d : Nat) :
    (c.gather cs).marks d = (c :: cs).flatMap (marks d) := by
  induction cs using List.reverseRecOn with
  | nil => rw [gather_nil, List.flatMap_singleton]
  | append_singleton cs e ih =>
    have hstep := marks_append_eq hk (append_gather happendable hk c cs e) d
    rw [hstep, ih, ← List.cons_append, List.flatMap_append, List.flatMap_singleton]

/-- The marks of what is in a slot. -/
def slotMarks (d : Nat) : Option (Clause k) → List Mark
  | none => []
  | some c => c.marks d

theorem slotMarks_appendSlot_perm {slot slot' joined : Option (Clause k)}
    (h : appendSlot slot slot' = .ok joined) (d : Nat) :
    (slotMarks d joined).Perm (slotMarks d slot ++ slotMarks d slot') := by
  match slot, slot' with
  | none, _ => cases h; exact .refl _
  | some c, none => cases h; exact .of_eq (List.append_nil _).symm
  | some c, some c' =>
    simp only [appendSlot] at h
    cases he : c.append c' with
    | error e => rw [he] at h; cases h
    | ok e => rw [he] at h; cases h; exact marks_append_perm he d

end Clause

/-! ## Two maps -/

namespace Clauses

variable {k : ClauseKind} {ks : List ClauseKind}

theorem marks_cons (d : Nat) (slot : Option (Clause k)) (rest : Clauses ks) :
    (cons slot rest).marks d = Clause.slotMarks d slot ++ rest.marks d := by
  cases slot <;> rfl

theorem marks_append_perm {a b m : Clauses ks} (h : a.append b = .ok m) (d : Nat) :
    (m.marks d).Perm (a.marks d ++ b.marks d) := by
  induction ks with
  | nil => cases a; cases b; cases h; exact .refl _
  | cons k ks ih =>
    obtain ⟨slot, a, rfl⟩ := a.exists_eq_cons
    obtain ⟨slot', b, rfl⟩ := b.exists_eq_cons
    rw [append_cons] at h
    cases hslot : Clause.appendSlot slot slot' with
    | error e => rw [hslot] at h; cases h
    | ok joined =>
      cases hrest : a.append b with
      | error e => rw [hslot, hrest] at h; cases h
      | ok rest =>
        rw [hslot, hrest] at h
        cases h
        have hfirst := Clause.slotMarks_appendSlot_perm hslot d
        rw [marks_cons, marks_cons, marks_cons]
        exact (hfirst.append (ih hrest)).trans (perm_append_append_comm _ _ _ _)

theorem mem_marks_override {d : Nat} {mark : Mark} (a b : Clauses ks)
    (h : mark ∈ (a.override b).marks d) : mark ∈ a.marks d ∨ mark ∈ b.marks d := by
  induction ks with
  | nil => cases a; cases b; cases h
  | cons k ks ih =>
    obtain ⟨slot, a, rfl⟩ := a.exists_eq_cons
    obtain ⟨slot', b, rfl⟩ := b.exists_eq_cons
    rw [override_cons, marks_cons, List.mem_append] at h
    rw [marks_cons, marks_cons, List.mem_append, List.mem_append]
    rcases h with hslot | hrest
    · cases slot' with
      | none => exact .inl (.inl hslot)
      | some c => exact .inr (.inl hslot)
    · exact (ih a b hrest).imp .inr .inr

theorem marks_empty (d : Nat) : ∀ ks : List ClauseKind, (empty ks).marks d = []
  | [] => rfl
  | _ :: ks => marks_empty d ks

end Clauses

/-! ## Lists of maps -/

namespace ClauseMap

theorem mem_marks_mergeAll {d : Nat} {mark : Mark} {maps : List ClauseMap}
    (h : mark ∈ (mergeAll maps).marks d) : ∃ m ∈ maps, mark ∈ m.marks d := by
  -- The map merged so far is left open: each map changes it for the next.
  have hrun : ∀ acc : ClauseMap, mark ∈ (maps.foldl Clauses.override acc).marks d →
      mark ∈ acc.marks d ∨ ∃ m ∈ maps, mark ∈ m.marks d := by
    clear h
    induction maps with
    | nil => exact fun acc h => .inl h
    | cons m maps ih =>
      intro acc h
      rcases ih (acc.override m) h with hacc | ⟨n, hn, hmark⟩
      · rcases acc.mem_marks_override m hacc with hacc | hm
        · exact .inl hacc
        · exact .inr ⟨m, List.mem_cons_self .., hm⟩
      · exact .inr ⟨n, List.mem_cons_of_mem _ hn, hmark⟩
  rcases hrun empty h with hempty | hmaps
  · rw [empty, Clauses.marks_empty] at hempty
    cases hempty
  · exact hmaps

theorem marks_appendNext_perm {acc next m : ClauseMap} (h : acc.appendNext next = .ok m) (d : Nat) :
    (m.marks d).Perm (acc.marks d ++ next.marks d) := by
  unfold appendNext at h
  split at h
  · exact Clauses.marks_append_perm h d
  · cases h

theorem marks_appendAll_perm {maps : List ClauseMap} {m : ClauseMap} (h : appendAll maps = .ok m)
    (d : Nat) : (m.marks d).Perm (maps.flatMap (Clauses.marks d)) := by
  cases maps with
  | nil => cases h; exact .of_eq (Clauses.marks_empty d _)
  | cons first rest =>
    have hrun : ∀ acc : ClauseMap, rest.foldlM appendNext acc = .ok m →
        (m.marks d).Perm (acc.marks d ++ rest.flatMap (Clauses.marks d)) := by
      clear h
      induction rest with
      | nil =>
        intro acc h
        cases h
        exact .of_eq (List.append_nil _).symm
      | cons next rest ih =>
        intro acc h
        rw [List.foldlM_cons] at h
        cases hnext : acc.appendNext next with
        | error e => rw [hnext] at h; cases h
        | ok joined =>
          rw [hnext] at h
          have hstep := marks_appendNext_perm hnext d
          rw [List.flatMap_cons, ← List.append_assoc]
          exact (ih joined h).trans (hstep.append_right _)
    exact hrun first h

end ClauseMap

end Clausal

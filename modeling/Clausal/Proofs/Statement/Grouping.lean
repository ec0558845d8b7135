import Clausal.Proofs.Statement.AppendedValues

/-!
# Grouping of appends

Three maps may be appended to each other in one grouping or in the other. Both succeed or both
fail, and where they succeed they bind the same values in the same order: but for the nesting of
conditions the two results are the same map.
-/

namespace Clausal

/-! ## Three slots of one kind -/

/-- Whether a clause of the kind shows how it was put together. -/
def ClauseKind.isCondition : ClauseKind → Bool
  | where_ => true
  | having => true
  | _ => false

namespace Clause

theorem zipWith_append_assoc (rows rows' rows'' : List (List Value)) :
    List.zipWith (· ++ ·) (List.zipWith (· ++ ·) rows rows') rows''
      = List.zipWith (· ++ ·) rows (List.zipWith (· ++ ·) rows' rows'') := by
  induction rows generalizing rows' rows'' with
  | nil => simp
  | cons row rows ih => cases rows' <;> cases rows'' <;> simp [ih]

theorem append_values_eq_ok_iff {a b : List (List Value)} {c : Clause .values} :
    (Clause.values a).append (.values b) = .ok c ↔
      a.length = b.length ∧ c = .values (List.zipWith (· ++ ·) a b) := by
  simp only [append]
  split <;> simp_all [eq_comm]

variable {k : ClauseKind}

theorem append_assoc {c d e f : Clause k} (h : k.isCondition = false) :
    (∃ x, c.append d = .ok x ∧ x.append e = .ok f) ↔
      ∃ x, d.append e = .ok x ∧ c.append x = .ok f := by
  cases c with
  | where_ _ | having _ => cases h
  | values a =>
    cases d with | values b => cases e with | values c =>
    simp only [append_values_eq_ok_iff]
    constructor
    · rintro ⟨_, ⟨hab, rfl⟩, happend⟩
      obtain ⟨hc, rfl⟩ := append_values_eq_ok_iff.mp happend
      have hbc : b.length = c.length := by simpa [hab] using hc
      refine ⟨_, ⟨hbc, rfl⟩, append_values_eq_ok_iff.mpr ⟨by simp [hab, hbc], ?_⟩⟩
      rw [zipWith_append_assoc]
    · rintro ⟨_, ⟨hbc, rfl⟩, happend⟩
      obtain ⟨ha, rfl⟩ := append_values_eq_ok_iff.mp happend
      have hab : a.length = b.length := by simpa [hbc] using ha
      refine ⟨_, ⟨hab, rfl⟩, append_values_eq_ok_iff.mpr ⟨by simp [hab, hbc], ?_⟩⟩
      rw [zipWith_append_assoc]
  | columns _ | set _ | orderBy _ | select _ | join _ | groupBy _ =>
    cases d
    cases e
    simp [append]
  -- No two clauses of the other kinds are joined.
  | _ => cases d; cases e; simp [append]

variable {s t u l r : Option (Clause k)}

@[simp] theorem appendSlot_none_left (slot : Option (Clause k)) :
    appendSlot none slot = .ok slot := rfl

@[simp] theorem appendSlot_none_right (slot : Option (Clause k)) :
    appendSlot slot none = .ok slot := by
  cases slot <;> rfl

theorem appendSlot_some_eq_ok_iff {c d : Clause k} :
    appendSlot (some c) (some d) = .ok l ↔ ∃ e, c.append d = .ok e ∧ some e = l := by
  rw [appendSlot]
  cases c.append d with
  | error e => exact iff_of_false (by rintro ⟨⟩) (by simp)
  | ok e =>
    change Except.ok (some e) = Except.ok l ↔ _
    simp

/-- What is left in a slot when the first two are joined before the third. -/
def JoinFirstTwo (s t u l : Option (Clause k)) : Prop :=
  ∃ x, appendSlot s t = .ok x ∧ appendSlot x u = .ok l

/-- What is left in a slot when the last two are joined before the first. -/
def JoinLastTwo (s t u r : Option (Clause k)) : Prop :=
  ∃ x, appendSlot t u = .ok x ∧ appendSlot s x = .ok r

theorem joinFirstTwo_some_iff {c d e : Clause k} : JoinFirstTwo (some c) (some d) (some e) l ↔
    ∃ f, (∃ x, c.append d = .ok x ∧ x.append e = .ok f) ∧ some f = l := by
  constructor
  · rintro ⟨_, hslot, hl⟩
    obtain ⟨x, hx, rfl⟩ := appendSlot_some_eq_ok_iff.mp hslot
    obtain ⟨f, hf, rfl⟩ := appendSlot_some_eq_ok_iff.mp hl
    exact ⟨f, ⟨x, hx, hf⟩, rfl⟩
  · rintro ⟨f, ⟨x, hx, hf⟩, rfl⟩
    exact ⟨some x, appendSlot_some_eq_ok_iff.mpr ⟨x, hx, rfl⟩,
      appendSlot_some_eq_ok_iff.mpr ⟨f, hf, rfl⟩⟩

theorem joinLastTwo_some_iff {c d e : Clause k} : JoinLastTwo (some c) (some d) (some e) r ↔
    ∃ f, (∃ x, d.append e = .ok x ∧ c.append x = .ok f) ∧ some f = r := by
  constructor
  · rintro ⟨_, hslot, hr⟩
    obtain ⟨x, hx, rfl⟩ := appendSlot_some_eq_ok_iff.mp hslot
    obtain ⟨f, hf, rfl⟩ := appendSlot_some_eq_ok_iff.mp hr
    exact ⟨f, ⟨x, hx, hf⟩, rfl⟩
  · rintro ⟨f, ⟨x, hx, hf⟩, rfl⟩
    exact ⟨some x, appendSlot_some_eq_ok_iff.mpr ⟨x, hx, rfl⟩,
      appendSlot_some_eq_ok_iff.mpr ⟨f, hf, rfl⟩⟩

/-- An empty slot is the end of the matter, and so are slots of another kind than conditions. -/
theorem joinFirstTwo_iff_joinLastTwo
    (h : k.isCondition = false ∨ s = none ∨ t = none ∨ u = none) :
    JoinFirstTwo s t u l ↔ JoinLastTwo s t u l := by
  match s, t, u with
  | none, t, u => simp [JoinFirstTwo, JoinLastTwo]
  | s, none, u => simp [JoinFirstTwo, JoinLastTwo]
  | s, t, none => simp [JoinFirstTwo, JoinLastTwo]
  | some c, some d, some e =>
    have hk : k.isCondition = false := by simpa using h
    rw [joinFirstTwo_some_iff, joinLastTwo_some_iff]
    simp only [append_assoc hk]

/-- The two groupings of three slots, side by side: alike, unless there are three conditions. -/
inductive Regrouped : {k : ClauseKind} → (s t u left right : Option (Clause k)) → Prop where
  | alike {k : ClauseKind} {s t u slot : Option (Clause k)}
    (h : k.isCondition = false ∨ s = none ∨ t = none ∨ u = none) : Regrouped s t u slot slot
  | where_ (x y z : Expr) : Regrouped (some (.where_ x)) (some (.where_ y)) (some (.where_ z))
      (some (.where_ (.and [.and [x, y], z]))) (some (.where_ (.and [x, .and [y, z]])))
  | having (x y z : Expr) : Regrouped (some (.having x)) (some (.having y)) (some (.having z))
      (some (.having (.and [.and [x, y], z]))) (some (.having (.and [x, .and [y, z]])))

/-- Three slots of which two cannot be joined are no matter either: any grouping fails. -/
theorem regrouped (s t u : Option (Clause k)) :
    (∃ l r, JoinFirstTwo s t u l ∧ JoinLastTwo s t u r ∧ Regrouped s t u l r) ∨
      ¬(∃ l, JoinFirstTwo s t u l) ∧ ¬∃ r, JoinLastTwo s t u r := by
  by_cases h : k.isCondition = false ∨ s = none ∨ t = none ∨ u = none
  · have hiff : ∀ l, JoinFirstTwo s t u l ↔ JoinLastTwo s t u l :=
      fun l => joinFirstTwo_iff_joinLastTwo h
    by_cases hl : ∃ l, JoinFirstTwo s t u l
    · obtain ⟨l, hl⟩ := hl
      exact .inl ⟨l, l, hl, (hiff l).mp hl, .alike h⟩
    · refine .inr ⟨hl, ?_⟩
      rintro ⟨r, hr⟩
      exact hl ⟨r, (hiff r).mpr hr⟩
  · simp only [not_or, Option.ne_none_iff_exists'] at h
    obtain ⟨hk, ⟨c, rfl⟩, ⟨d, rfl⟩, ⟨e, rfl⟩⟩ := h
    refine .inl ?_
    -- Two conditions can always be joined.
    cases c with
    | where_ x =>
      cases d with | where_ y => cases e with | where_ z =>
      exact ⟨_, _, ⟨_, rfl, rfl⟩, ⟨_, rfl, rfl⟩, .where_ x y z⟩
    | having x =>
      cases d with | having y => cases e with | having z =>
      exact ⟨_, _, ⟨_, rfl, rfl⟩, ⟨_, rfl, rfl⟩, .having x y z⟩
    | _ => exact absurd rfl hk

theorem regrouped_of_joins (hl : JoinFirstTwo s t u l) (hr : JoinLastTwo s t u r) :
    Regrouped s t u l r := by
  rcases regrouped s t u with ⟨l', r', hl', hr', h⟩ | ⟨hnot, -⟩
  · obtain ⟨x, hx, hl⟩ := hl
    obtain ⟨x', hx', hl'⟩ := hl'
    obtain ⟨y, hy, hr⟩ := hr
    obtain ⟨y', hy', hr'⟩ := hr'
    obtain rfl := Except.ok.inj (hx.symm.trans hx')
    obtain rfl := Except.ok.inj (hy.symm.trans hy')
    obtain rfl := Except.ok.inj (hl.symm.trans hl')
    obtain rfl := Except.ok.inj (hr.symm.trans hr')
    exact h
  · exact absurd ⟨l, hl⟩ hnot

namespace Regrouped

theorem eq_none_iff (h : Regrouped s t u l r) : l = none ↔ r = none := by
  cases h <;> simp

/-- However conditions are nested, a traversal meets the same. -/
theorem slotMarks_eq (h : Regrouped s t u l r) (d : Nat) : slotMarks d l = slotMarks d r := by
  cases h with
  | alike => rfl
  | where_ x y z | having x y z =>
    simp only [slotMarks, marks, Expr.marks_and_pair, List.append_assoc]

end Regrouped

end Clause

/-! ## Three maps -/

namespace Clauses

variable {k : ClauseKind} {ks : List ClauseKind}

theorem slotMarks_eq_flatMap (slot : Option (Clause k)) (d : Nat) :
    slot.toList.flatMap (Clause.marks d) = Clause.slotMarks d slot := by
  cases slot <;> simp [Clause.slotMarks]

theorem traversal_eq_of_slots {m n : ClauseMap} (hnone : ∀ k, m.get? k = none ↔ n.get? k = none)
    (hmarks : ∀ k, Clause.slotMarks 0 (m.get? k) = Clause.slotMarks 0 (n.get? k)) :
    m.traversal = n.traversal := by
  have hall : m.marks 0 = n.marks 0 := by
    rw [marks_eq_flatMap_slots ClauseKind.nodup_all, marks_eq_flatMap_slots ClauseKind.nodup_all]
    simp only [slotMarks_eq_flatMap, hmarks]
  have hempty : m.isEmpty = n.isEmpty := by
    rw [Bool.eq_iff_iff, ← not_iff_not, Bool.not_eq_true, Bool.not_eq_true, isEmpty_eq_false_iff,
      isEmpty_eq_false_iff]
    simp only [ne_eq, hnone]
  rw [traversal, traversal, hall, Mark.ofEmptiness, Mark.ofEmptiness, hempty]

/-- Whether a map renders, and with which values, is a matter of its traversal. -/
theorem render_values_congr {m n : Clauses ks} (h : m.traversal = n.traversal)
    (limit : DepthLimit) :
    (m.render limit).map Statement.values = (n.render limit).map Statement.values := by
  rw [render_eq, render_eq, h]
  cases hfault : firstFault limit n.traversal with
  | some e => rfl
  | none =>
    have hm : m.render limit = .ok (.ofPieces m.pieces) := by rw [render_eq, h, hfault]
    have hn : n.render limit = .ok (.ofPieces n.pieces) := by rw [render_eq, hfault]
    have hvalues : (Statement.ofPieces m.pieces).values = (Statement.ofPieces n.pieces).values := by
      rw [values_of_render hm, values_of_render hn, params, params, h]
    exact congrArg Except.ok hvalues

end Clauses

namespace ClauseMap

open Clause (JoinFirstTwo JoinLastTwo Regrouped)

variable {a b c m n : ClauseMap}

/-- The first two maps appended, and the third to what that comes to. -/
def appendFirstTwo (a b c : ClauseMap) : Except QueryError ClauseMap := do
  appendAll [← appendAll [a, b], c]

/-- The last two maps appended, and what that comes to to the first. -/
def appendLastTwo (a b c : ClauseMap) : Except QueryError ClauseMap := do
  appendAll [a, ← appendAll [b, c]]

theorem appendAll_pair (a b : ClauseMap) : appendAll [a, b] = a.appendNext b := by
  change (a.appendNext b >>= pure) = _
  exact bind_pure _

theorem appendFirstTwo_eq_ok_iff : appendFirstTwo a b c = .ok m ↔
    ∃ ab, a.appendNext b = .ok ab ∧ ab.appendNext c = .ok m := by
  rw [appendFirstTwo, appendAll_pair]
  cases a.appendNext b with
  | error e => exact iff_of_false (by rintro ⟨⟩) (by simp)
  | ok ab =>
    change appendAll [ab, c] = _ ↔ _
    simp [appendAll_pair]

theorem appendLastTwo_eq_ok_iff : appendLastTwo a b c = .ok n ↔
    ∃ bc, b.appendNext c = .ok bc ∧ a.appendNext bc = .ok n := by
  rw [appendLastTwo, appendAll_pair]
  cases b.appendNext c with
  | error e => exact iff_of_false (by rintro ⟨⟩) (by simp)
  | ok bc =>
    change appendAll [a, bc] = _ ↔ _
    simp [appendAll_pair]

theorem joinFirstTwo_of_appendFirstTwo (h : appendFirstTwo a b c = .ok m) (k : ClauseKind) :
    JoinFirstTwo (a.get? k) (b.get? k) (c.get? k) (m.get? k) := by
  obtain ⟨ab, hab, hm⟩ := appendFirstTwo_eq_ok_iff.mp h
  exact ⟨ab.get? k, appendSlot_of_appendNext hab k, appendSlot_of_appendNext hm k⟩

theorem joinLastTwo_of_appendLastTwo (h : appendLastTwo a b c = .ok n) (k : ClauseKind) :
    JoinLastTwo (a.get? k) (b.get? k) (c.get? k) (n.get? k) := by
  obtain ⟨bc, hbc, hn⟩ := appendLastTwo_eq_ok_iff.mp h
  exact ⟨bc.get? k, appendSlot_of_appendNext hbc k, appendSlot_of_appendNext hn k⟩

theorem exists_appendFirstTwo_eq_ok_iff : (∃ m, appendFirstTwo a b c = .ok m) ↔
    b.unappendable = [] ∧ c.unappendable = [] ∧
      ∀ k, ∃ l, JoinFirstTwo (a.get? k) (b.get? k) (c.get? k) l := by
  constructor
  · rintro ⟨m, hm⟩
    obtain ⟨ab, hab, habc⟩ := appendFirstTwo_eq_ok_iff.mp hm
    exact ⟨(exists_appendNext_eq_ok_iff.mp ⟨ab, hab⟩).1,
      (exists_appendNext_eq_ok_iff.mp ⟨m, habc⟩).1,
      fun k => ⟨_, joinFirstTwo_of_appendFirstTwo hm k⟩⟩
  · rintro ⟨hb, hc, hslots⟩
    have hfirst : ∃ ab, a.appendNext b = .ok ab := by
      refine exists_appendNext_eq_ok_iff.mpr ⟨hb, fun k => ?_⟩
      obtain ⟨l, x, hx, -⟩ := hslots k
      exact ⟨x, hx⟩
    obtain ⟨ab, hab⟩ := hfirst
    have hboth : ∃ m, ab.appendNext c = .ok m := by
      refine exists_appendNext_eq_ok_iff.mpr ⟨hc, fun k => ?_⟩
      obtain ⟨l, x, hx, hl⟩ := hslots k
      obtain rfl := Except.ok.inj (hx.symm.trans (appendSlot_of_appendNext hab k))
      exact ⟨l, hl⟩
    obtain ⟨m, hm⟩ := hboth
    exact ⟨m, appendFirstTwo_eq_ok_iff.mpr ⟨ab, hab, hm⟩⟩

/-- A map that is appended to may have clauses of any kind, but not where it is appended itself. -/
theorem unappendable_appendNext {bc : ClauseMap} (h : b.appendNext c = .ok bc) :
    bc.unappendable = [] ↔ b.unappendable = [] := by
  have hc := (exists_appendNext_eq_ok_iff.mp ⟨bc, h⟩).1
  have hkept : ∀ k, k.isAppendable = false → bc.get? k = b.get? k := by
    intro k hk
    have hslot := appendSlot_of_appendNext h k
    rw [Clauses.get?_eq_none_of_unappendable hc hk, Clause.appendSlot_none_right] at hslot
    exact (Except.ok.inj hslot).symm
  rw [Clauses.unappendable_eq_nil_iff, Clauses.unappendable_eq_nil_iff]
  constructor
  · exact fun h k hk => (hkept k hk).symm.trans (h k hk)
  · exact fun h k hk => (hkept k hk).trans (h k hk)

theorem exists_appendLastTwo_eq_ok_iff : (∃ n, appendLastTwo a b c = .ok n) ↔
    b.unappendable = [] ∧ c.unappendable = [] ∧
      ∀ k, ∃ r, JoinLastTwo (a.get? k) (b.get? k) (c.get? k) r := by
  constructor
  · rintro ⟨n, hn⟩
    obtain ⟨bc, hbc, habc⟩ := appendLastTwo_eq_ok_iff.mp hn
    have hunappendable := (exists_appendNext_eq_ok_iff.mp ⟨n, habc⟩).1
    exact ⟨(unappendable_appendNext hbc).mp hunappendable,
      (exists_appendNext_eq_ok_iff.mp ⟨bc, hbc⟩).1,
      fun k => ⟨_, joinLastTwo_of_appendLastTwo hn k⟩⟩
  · rintro ⟨hb, hc, hslots⟩
    have hlast : ∃ bc, b.appendNext c = .ok bc := by
      refine exists_appendNext_eq_ok_iff.mpr ⟨hc, fun k => ?_⟩
      obtain ⟨r, x, hx, -⟩ := hslots k
      exact ⟨x, hx⟩
    obtain ⟨bc, hbc⟩ := hlast
    have hboth : ∃ n, a.appendNext bc = .ok n := by
      refine exists_appendNext_eq_ok_iff.mpr ⟨(unappendable_appendNext hbc).mpr hb, fun k => ?_⟩
      obtain ⟨r, x, hx, hr⟩ := hslots k
      obtain rfl := Except.ok.inj (hx.symm.trans (appendSlot_of_appendNext hbc k))
      exact ⟨r, hr⟩
    obtain ⟨n, hn⟩ := hboth
    exact ⟨n, appendLastTwo_eq_ok_iff.mpr ⟨bc, hbc, hn⟩⟩

/-- Appending in one grouping succeeds if and only if it does in the other. The two results have the
same clauses but for three conditions, which are nested as they were grouped; and under any limit
both render to the same values, or neither does, for the same reason. -/
theorem appendFirstTwo_regrouped (a b c : ClauseMap) :
    ((∃ m, appendFirstTwo a b c = .ok m) ↔ ∃ n, appendLastTwo a b c = .ok n) ∧
    ∀ m n, appendFirstTwo a b c = .ok m → appendLastTwo a b c = .ok n →
      (∀ k, Regrouped (a.get? k) (b.get? k) (c.get? k) (m.get? k) (n.get? k)) ∧
      ∀ limit, (m.render limit).map Statement.values = (n.render limit).map Statement.values := by
  constructor
  · rw [exists_appendFirstTwo_eq_ok_iff, exists_appendLastTwo_eq_ok_iff]
    refine and_congr_right' (and_congr_right' (forall_congr' fun k => ?_))
    rcases Clause.regrouped (a.get? k) (b.get? k) (c.get? k) with ⟨l, r, hl, hr, -⟩ | ⟨hl, hr⟩
    · exact iff_of_true ⟨l, hl⟩ ⟨r, hr⟩
    · exact iff_of_false hl hr
  · intro m n hm hn
    have hslots : ∀ k, Regrouped (a.get? k) (b.get? k) (c.get? k) (m.get? k) (n.get? k) :=
      fun k => Clause.regrouped_of_joins (joinFirstTwo_of_appendFirstTwo hm k)
        (joinLastTwo_of_appendLastTwo hn k)
    refine ⟨hslots, Clauses.render_values_congr ?_⟩
    exact Clauses.traversal_eq_of_slots (fun k => (hslots k).eq_none_iff)
      fun k => (hslots k).slotMarks_eq 0

/-- Rows in two of the maps, conditions in all three, and a limit in the first only. -/
theorem appendFirstTwo_regrouped_conditions :
    let a := ofList [⟨_, .values [[.param (.int 1)]]⟩, ⟨_, .where_ (.param (.int 2))⟩, ⟨_, .limit 5⟩]
    let b := ofList [⟨_, .where_ (.param (.int 3))⟩, ⟨_, .having (.raw "h")⟩]
    let c := ofList [⟨_, .values [[.param (.int 4)]]⟩, ⟨_, .where_ (.param (.int 5))⟩]
    ∃ m n, appendFirstTwo a b c = .ok m ∧ appendLastTwo a b c = .ok n ∧ m ≠ n ∧
      Regrouped (a.get? .where_) (b.get? .where_) (c.get? .where_) (m.get? .where_)
        (n.get? .where_) ∧
      (m.render .default).map Statement.values = .ok [.int 1, .int 4, .int 2, .int 3, .int 5] ∧
      (n.render .default).map Statement.values = .ok [.int 1, .int 4, .int 2, .int 3, .int 5] := by
  intro a b c
  let m := ofList
    [⟨_, .values [[.param (.int 1), .param (.int 4)]]⟩,
      ⟨_, .where_ (.and [.and [.param (.int 2), .param (.int 3)], .param (.int 5)])⟩,
      ⟨_, .having (.raw "h")⟩, ⟨_, .limit 5⟩]
  let n := ofList
    [⟨_, .values [[.param (.int 1), .param (.int 4)]]⟩,
      ⟨_, .where_ (.and [.param (.int 2), .and [.param (.int 3), .param (.int 5)]])⟩,
      ⟨_, .having (.raw "h")⟩, ⟨_, .limit 5⟩]
  have hm : appendFirstTwo a b c = .ok m := rfl
  have hn : appendLastTwo a b c = .ok n := rfl
  obtain ⟨hslots, hvalues⟩ := (appendFirstTwo_regrouped a b c).2 m n hm hn
  have hrender : m.render .default = .ok (.ofPieces m.pieces) :=
    Clauses.render_eq_ok_iff.mpr ⟨rfl, rfl⟩
  have hmvalues : (m.render .default).map Statement.values
      = .ok [.int 1, .int 4, .int 2, .int 3, .int 5] := by
    rw [hrender]
    rfl
  refine ⟨m, n, hm, hn, ?_, hslots .where_, hmvalues, (hvalues _).symm.trans hmvalues⟩
  intro h
  have hwhere : some (Clause.where_ (.and [.and [_, _], _])) = some (.where_ (.and [_, _])) :=
    congrArg (Clauses.get? .where_) h
  cases hwhere

end ClauseMap

end Clausal

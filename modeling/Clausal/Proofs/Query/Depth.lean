import Clausal.Proofs.Query.Lookup

/-!
# Depth of clause maps

How many clause maps stand inside one another below a part. Operators, calls and lists count
nothing. The depth is the greatest of the levels that a traversal enters,
`Clauses.within_traversal`, and of the depths of the clauses, `ClauseMap.depth_ofList`.
-/

namespace Clausal

/-! ## Depth -/

mutual

def Expr.depth : Expr → Nat
  | .value _ => 0
  | .binary _ left right => max left.depth right.depth
  | .and operands => Expr.listDepth operands
  | .or operands => Expr.listDepth operands
  | .caseWhen operands => Expr.listDepth operands
  | .inList _ tested list => max tested.depth (Expr.listDepth list)
  | .isNull operand => operand.depth
  | .isNotNull operand => operand.depth
  | .not operand => operand.depth
  | .exists_ operand => operand.depth
  | .call _ args => Expr.listDepth args
  | .subquery m => m.depth + 1

def Expr.listDepth : List Expr → Nat
  | [] => 0
  | e :: es => max e.depth (Expr.listDepth es)

def Table.depth : Table → Nat
  | .named _ _ => 0
  | .derived m _ => m.depth + 1

def Join.depth : Join → Nat
  | .mk _ table on => max table.depth on.depth

def Join.listDepth : List Join → Nat
  | [] => 0
  | j :: js => max j.depth (Join.listDepth js)

def OrderItem.depth : OrderItem → Nat
  | .mk expr _ _ => expr.depth

def OrderItem.listDepth : List OrderItem → Nat
  | [] => 0
  | i :: is => max i.depth (OrderItem.listDepth is)

def Clause.depth : {k : ClauseKind} → Clause k → Nat
  | _, .select exprs => Expr.listDepth exprs
  | _, .selectDistinct on exprs => max (Expr.listDepth on) (Expr.listDepth exprs)
  | _, .insertInto table => table.depth
  | _, .update table => table.depth
  | _, .columns _ => 0
  | _, .values _ => 0
  | _, .onConflict _ => 0
  | _, .doUpdate exprs => Expr.listDepth exprs
  | _, .doNothing => 0
  | _, .set exprs => Expr.listDepth exprs
  | _, .from_ table => table.depth
  | _, .join joins => Join.listDepth joins
  | _, .where_ condition => condition.depth
  | _, .groupBy exprs => Expr.listDepth exprs
  | _, .having condition => condition.depth
  | _, .orderBy items => OrderItem.listDepth items
  | _, .limit _ => 0
  | _, .offset _ => 0
  | _, .forUpdate => 0
  | _, .returning exprs => Expr.listDepth exprs

/-- How many clause maps stand inside one another below this one. -/
def Clauses.depth : {ks : List ClauseKind} → Clauses ks → Nat
  | _, .nil => 0
  | _, .absent rest => rest.depth
  | _, .present c rest => max c.depth rest.depth

end

/-! ## Levels that a traversal enters -/

namespace Mark

/-- No clause map is entered beyond the level `n`. -/
def Within (n : Nat) (ms : List Mark) : Prop :=
  ∀ d, enter d ∈ ms → d ≤ n

variable {n d : Nat} {ms ns : List Mark}

@[simp] theorem within_nil : Within n [] := by
  simp [Within]

@[simp] theorem within_append : Within n (ms ++ ns) ↔ Within n ms ∧ Within n ns := by
  simp [Within, or_imp, forall_and]

@[simp] theorem within_enter : Within n (enter d :: ms) ↔ d ≤ n ∧ Within n ms := by
  simp [Within]

@[simp] theorem within_call {name : String} : Within n (call name :: ms) ↔ Within n ms := by
  simp [Within]

@[simp] theorem within_name {name : String} : Within n (.name name :: ms) ↔ Within n ms := by
  simp [Within]

@[simp] theorem within_names (names : List String) : Within n (names.map .name) := by
  simp [Within]

@[simp] theorem within_values (vs : List Value) : Within n (vs.map Value.mark) := by
  intro d hd
  obtain ⟨v, -, hv⟩ := List.mem_map.mp hd
  cases v <;> cases hv

@[simp] theorem within_ofOperands (tag : ExprTag) (es : List Expr) :
    Within n (ofOperands tag es) := by
  cases es <;> simp [ofOperands, Within]

@[simp] theorem within_ofAlias (alias? : Option String) : Within n (ofAlias alias?) := by
  cases alias? <;> simp [ofAlias, Within]

@[simp] theorem within_ofEmptiness {ks : List ClauseKind} (m : Clauses ks) :
    Within n (ofEmptiness m) := by
  rw [ofEmptiness]
  split <;> simp [Within]

end Mark

/-- A clause map inside a part, given that its clauses are as deep as said where it is entered. -/
theorem Clauses.within_inner {n d : Nat} {ks : List ClauseKind} {m : Clauses ks}
    (hm : d + 1 ≤ n → (Mark.Within n (m.marks (d + 1)) ↔ d + 1 + m.depth ≤ n)) :
    Mark.Within n (.enter (d + 1) :: (Mark.ofEmptiness m ++ m.marks (d + 1)))
      ↔ d + (m.depth + 1) ≤ n := by
  rw [Mark.within_enter, Mark.within_append]
  constructor
  · rintro ⟨hd, -, hinner⟩
    have := (hm hd).mp hinner
    omega
  · intro hdepth
    have hd : d + 1 ≤ n := by omega
    exact ⟨hd, Mark.within_ofEmptiness m, (hm hd).mpr (by omega)⟩

-- By recursion on the part. A part stands at a level that is itself within `n`; for the clause map
-- of a subquery that is what entering it says.
mutual

theorem Expr.within_marks {n d : Nat} (h : d ≤ n) :
    ∀ e : Expr, Mark.Within n (e.marks d) ↔ d + e.depth ≤ n
  | .value v => by simpa [Expr.marks, Expr.depth, h] using Mark.within_values [v]
  | .binary _ l r => by
    simp only [Expr.marks, Expr.depth, Mark.within_append, l.within_marks h, r.within_marks h]
    omega
  | .and es => by simp [Expr.marks, Expr.depth, Expr.within_listMarks h es]
  | .or es => by simp [Expr.marks, Expr.depth, Expr.within_listMarks h es]
  | .caseWhen es => by simp [Expr.marks, Expr.depth, Expr.within_listMarks h es]
  | .inList _ t es => by
    simp only [Expr.marks, Expr.depth, Mark.within_append, t.within_marks h,
      Expr.within_listMarks h es]
    omega
  | .isNull e => e.within_marks h
  | .isNotNull e => e.within_marks h
  | .not e => e.within_marks h
  | .exists_ e => e.within_marks h
  | .call _ es => by simp [Expr.marks, Expr.depth, Expr.within_listMarks h es]
  | .subquery m => Clauses.within_inner fun hd => m.within_marks hd

theorem Expr.within_listMarks {n d : Nat} (h : d ≤ n) : ∀ es : List Expr,
    Mark.Within n (Expr.listMarks d es) ↔ d + Expr.listDepth es ≤ n
  | [] => by simp [Expr.listMarks, Expr.listDepth, h]
  | e :: es => by
    simp only [Expr.listMarks, Expr.listDepth, Mark.within_append, e.within_marks h,
      Expr.within_listMarks h es]
    omega

theorem Table.within_marks {n d : Nat} (h : d ≤ n) :
    ∀ t : Table, Mark.Within n (t.marks d) ↔ d + t.depth ≤ n
  | .named _ _ => by simp [Table.marks, Table.depth, h]
  | .derived m _ => by
    have hm := Clauses.within_inner fun hd : d + 1 ≤ n => m.within_marks hd
    rw [Table.marks, Mark.within_append, hm, Table.depth]
    exact and_iff_left (Mark.within_ofAlias _)

theorem Join.within_marks {n d : Nat} (h : d ≤ n) :
    ∀ j : Join, Mark.Within n (j.marks d) ↔ d + j.depth ≤ n
  | .mk _ t on => by
    simp only [Join.marks, Join.depth, Mark.within_append, t.within_marks h, on.within_marks h]
    omega

theorem Join.within_listMarks {n d : Nat} (h : d ≤ n) : ∀ js : List Join,
    Mark.Within n (Join.listMarks d js) ↔ d + Join.listDepth js ≤ n
  | [] => by simp [Join.listMarks, Join.listDepth, h]
  | j :: js => by
    simp only [Join.listMarks, Join.listDepth, Mark.within_append, j.within_marks h,
      Join.within_listMarks h js]
    omega

theorem OrderItem.within_marks {n d : Nat} (h : d ≤ n) :
    ∀ i : OrderItem, Mark.Within n (i.marks d) ↔ d + i.depth ≤ n
  | .mk e _ _ => e.within_marks h

theorem OrderItem.within_listMarks {n d : Nat} (h : d ≤ n) : ∀ is : List OrderItem,
    Mark.Within n (OrderItem.listMarks d is) ↔ d + OrderItem.listDepth is ≤ n
  | [] => by simp [OrderItem.listMarks, OrderItem.listDepth, h]
  | i :: is => by
    simp only [OrderItem.listMarks, OrderItem.listDepth, Mark.within_append, i.within_marks h,
      OrderItem.within_listMarks h is]
    omega

theorem Clause.within_marks {n d : Nat} (h : d ≤ n) :
    ∀ {k : ClauseKind} (c : Clause k), Mark.Within n (c.marks d) ↔ d + c.depth ≤ n
  | _, .select es => Expr.within_listMarks h es
  | _, .selectDistinct on es => by
    simp only [Clause.marks, Clause.depth, Mark.within_append, Expr.within_listMarks h on,
      Expr.within_listMarks h es]
    omega
  | _, .insertInto t => t.within_marks h
  | _, .update t => t.within_marks h
  | _, .columns _ => by simp [Clause.marks, Clause.depth, h]
  | _, .values rows => iff_of_true (Mark.within_values rows.flatten) h
  | _, .onConflict _ => by simp [Clause.marks, Clause.depth, h]
  | _, .doUpdate es => Expr.within_listMarks h es
  | _, .doNothing => by simp [Clause.marks, Clause.depth, h]
  | _, .set es => Expr.within_listMarks h es
  | _, .from_ t => t.within_marks h
  | _, .join js => Join.within_listMarks h js
  | _, .where_ e => e.within_marks h
  | _, .groupBy es => Expr.within_listMarks h es
  | _, .having e => e.within_marks h
  | _, .orderBy is => OrderItem.within_listMarks h is
  | _, .limit _ => by simp [Clause.marks, Clause.depth, h]
  | _, .offset _ => by simp [Clause.marks, Clause.depth, h]
  | _, .forUpdate => by simp [Clause.marks, Clause.depth, h]
  | _, .returning es => Expr.within_listMarks h es

theorem Clauses.within_marks {n d : Nat} (h : d ≤ n) :
    ∀ {ks : List ClauseKind} (m : Clauses ks), Mark.Within n (m.marks d) ↔ d + m.depth ≤ n
  | _, .nil => by simp [Clauses.marks, Clauses.depth, h]
  | _, .absent rest => rest.within_marks h
  | _, .present c rest => by
    simp only [Clauses.marks, Clauses.depth, Mark.within_append, c.within_marks h,
      rest.within_marks h]
    omega

end

theorem Clauses.within_traversal {ks : List ClauseKind} (m : Clauses ks) {n : Nat} :
    Mark.Within n m.traversal ↔ m.depth ≤ n := by
  simp [traversal, m.within_marks (Nat.zero_le n)]

/-! ## Maps made of clauses -/

namespace AnyClause

def depth (c : AnyClause) : Nat :=
  c.clause.depth

def listDepth : List AnyClause → Nat
  | [] => 0
  | c :: cs => max c.depth (listDepth cs)

end AnyClause

namespace Clauses

variable {j k : ClauseKind} {ks : List ClauseKind}

@[simp] theorem depth_empty : ∀ ks : List ClauseKind, (empty ks).depth = 0
  | [] => rfl
  | _ :: ks => depth_empty ks

theorem depth_insert (hk : k ∈ ks) {m : Clauses ks} (hm : m.get? k = none) (c : Clause k) :
    (m.insert c).depth = max c.depth m.depth := by
  induction ks with
  | nil => cases hk
  | cons j ks ih =>
    obtain ⟨slot, rest, rfl⟩ := m.exists_eq_cons
    by_cases hj : k = j
    · subst hj
      rw [get?_cons_self] at hm
      subst hm
      rw [insert_cons_self]
      rfl
    · rw [get?_cons_of_ne (Ne.symm hj)] at hm
      have hrest := ih (List.mem_of_ne_of_mem hj hk) hm
      rw [insert_cons_of_ne hj]
      cases slot with
      | none => exact hrest
      | some d => simp only [cons, depth, hrest, Nat.max_left_comm]

end Clauses

namespace ClauseMap

/-- Clauses of different kinds do not displace one another, so all of them count. -/
theorem depth_insertAll {cs : List AnyClause} (hkinds : (cs.map AnyClause.kind).Nodup)
    {m : ClauseMap} (hm : ∀ c ∈ cs, m.get? c.kind = none) :
    (m.insertAll cs).depth = max (AnyClause.listDepth cs) m.depth := by
  induction cs generalizing m with
  | nil => exact (Nat.zero_max _).symm
  | cons c cs ih =>
    obtain ⟨hc, hcs⟩ := List.nodup_cons.mp hkinds
    -- The slots of the clauses to come are still empty.
    have hrest : ∀ d ∈ cs, (m.insert c.clause).get? d.kind = none := by
      intro d hd
      rw [Clauses.get?_insert_of_ne (ne_of_mem_of_not_mem (List.mem_map_of_mem hd) hc).symm]
      exact hm d (List.mem_cons_of_mem _ hd)
    have hinsert := Clauses.depth_insert c.kind.mem_all (hm c (List.mem_cons_self ..)) c.clause
    change ((m.insert c.clause).insertAll cs).depth = _
    rw [ih hcs hrest, hinsert, AnyClause.listDepth, ← AnyClause.depth, Nat.max_left_comm,
      Nat.max_assoc]

theorem depth_ofList {cs : List AnyClause} (hkinds : (cs.map AnyClause.kind).Nodup) :
    (ofList cs).depth = AnyClause.listDepth cs := by
  have hslots : ∀ c ∈ cs, empty.get? c.kind = none := fun c _ => Clauses.get?_empty _
  have hdepth : empty.depth = 0 := Clauses.depth_empty _
  rw [ofList, depth_insertAll hkinds hslots, hdepth, Nat.max_zero]

end ClauseMap

end Clausal

import Clausal.Proofs.Query.Traversal

/-!
# Places of clause maps

A clause map can stand at many places inside another one: in parentheses, as a derived table, as an
operand of an operand. `ClauseMap.places` lists them in the order in which things are written, and
each place comes with what the whole becomes when another clause map is put there. There is a place
for every clause map that a traversal enters: `ClauseMap.length_places`.
-/

namespace Clausal

/-- A place in `x` where a clause map stands, and what `x` is with any clause map at that place. -/
structure Place {α : Type} (x : α) where
  map : ClauseMap
  fill : ClauseMap → α
  fill_map : fill map = x

namespace Place

variable {α β : Type} {x : α}

/-- The place that a clause map is itself. -/
def whole (m : ClauseMap) : Place m :=
  ⟨m, id, rfl⟩

@[simp] theorem map_whole (m : ClauseMap) : (whole m).map = m := rfl

@[simp] theorem fill_whole (m n : ClauseMap) : (whole m).fill n = n := rfl

/-- The same place, seen from something built around `x`. -/
def under (f : α → β) (p : Place x) : Place (f x) :=
  ⟨p.map, f ∘ p.fill, congrArg f p.fill_map⟩

def allUnder (f : α → β) (ps : List (Place x)) : List (Place (f x)) :=
  ps.map (under f)

@[simp] theorem length_allUnder (f : α → β) (ps : List (Place x)) :
    (allUnder f ps).length = ps.length :=
  List.length_map _

end Place

open Place (whole allUnder)

mutual

def Expr.places : (e : Expr) → List (Place e)
  | .value _ => []
  | .binary op left right =>
    allUnder (Expr.binary op · right) left.places ++ allUnder (Expr.binary op left) right.places
  | .and operands => allUnder Expr.and (Expr.listPlaces operands)
  | .or operands => allUnder Expr.or (Expr.listPlaces operands)
  | .caseWhen operands => allUnder Expr.caseWhen (Expr.listPlaces operands)
  | .inList negated tested list =>
    allUnder (Expr.inList negated · list) tested.places ++
      allUnder (Expr.inList negated tested) (Expr.listPlaces list)
  | .isNull operand => allUnder Expr.isNull operand.places
  | .isNotNull operand => allUnder Expr.isNotNull operand.places
  | .not operand => allUnder Expr.not operand.places
  | .exists_ operand => allUnder Expr.exists_ operand.places
  | .call name args => allUnder (Expr.call name) (Expr.listPlaces args)
  | .subquery m => allUnder Expr.subquery (whole m :: m.inner)

def Expr.listPlaces : (es : List Expr) → List (Place es)
  | [] => []
  | e :: es => allUnder (· :: es) e.places ++ allUnder (e :: ·) (Expr.listPlaces es)

def Table.places : (t : Table) → List (Place t)
  | .named _ _ => []
  | .derived m alias? => allUnder (Table.derived · alias?) (whole m :: m.inner)

def Join.places : (j : Join) → List (Place j)
  | .mk kind table on =>
    allUnder (Join.mk kind · on) table.places ++ allUnder (Join.mk kind table) on.places

def Join.listPlaces : (js : List Join) → List (Place js)
  | [] => []
  | j :: js => allUnder (· :: js) j.places ++ allUnder (j :: ·) (Join.listPlaces js)

def OrderItem.places : (i : OrderItem) → List (Place i)
  | .mk expr direction nulls => allUnder (OrderItem.mk · direction nulls) expr.places

def OrderItem.listPlaces : (is : List OrderItem) → List (Place is)
  | [] => []
  | i :: is => allUnder (· :: is) i.places ++ allUnder (i :: ·) (OrderItem.listPlaces is)

def Clause.places : {k : ClauseKind} → (c : Clause k) → List (Place c)
  | _, .select exprs => allUnder Clause.select (Expr.listPlaces exprs)
  | _, .selectDistinct on exprs =>
    allUnder (Clause.selectDistinct · exprs) (Expr.listPlaces on) ++
      allUnder (Clause.selectDistinct on) (Expr.listPlaces exprs)
  | _, .insertInto table => allUnder Clause.insertInto table.places
  | _, .update table => allUnder Clause.update table.places
  | _, .columns _ => []
  | _, .values _ => []
  | _, .onConflict _ => []
  | _, .doUpdate exprs => allUnder Clause.doUpdate (Expr.listPlaces exprs)
  | _, .doNothing => []
  | _, .set exprs => allUnder Clause.set (Expr.listPlaces exprs)
  | _, .from_ table => allUnder Clause.from_ table.places
  | _, .join joins => allUnder Clause.join (Join.listPlaces joins)
  | _, .where_ condition => allUnder Clause.where_ condition.places
  | _, .groupBy exprs => allUnder Clause.groupBy (Expr.listPlaces exprs)
  | _, .having condition => allUnder Clause.having condition.places
  | _, .orderBy items => allUnder Clause.orderBy (OrderItem.listPlaces items)
  | _, .limit _ => []
  | _, .offset _ => []
  | _, .forUpdate => []
  | _, .returning exprs => allUnder Clause.returning (Expr.listPlaces exprs)

/-- The places inside the clauses of a map. -/
def Clauses.inner : {ks : List ClauseKind} → (m : Clauses ks) → List (Place m)
  | _, .nil => []
  | _, .absent rest => allUnder Clauses.absent rest.inner
  | _, .present c rest =>
    allUnder (Clauses.present · rest) c.places ++ allUnder (Clauses.present c) rest.inner

end

/-- Every place of a clause map, the whole map included. -/
def ClauseMap.places (m : ClauseMap) : List (Place m) :=
  whole m :: m.inner

/-! ## Places and the traversal -/

namespace Mark

/-- The number of clause maps that begin among marks. -/
def entered (ms : List Mark) : Nat :=
  ms.countP fun
    | enter _ => true
    | _ => false

@[simp] theorem entered_append (ms ns : List Mark) : entered (ms ++ ns) = entered ms + entered ns :=
  List.countP_append

@[simp] theorem entered_enter (d : Nat) (ms : List Mark) :
    entered (enter d :: ms) = entered ms + 1 :=
  List.countP_cons_of_pos rfl

theorem entered_ofOperands (tag : ExprTag) (es : List Expr) : entered (ofOperands tag es) = 0 := by
  cases es <;> rfl

theorem entered_ofAlias (alias? : Option String) : entered (ofAlias alias?) = 0 := by
  cases alias? <;> rfl

theorem entered_ofEmptiness {ks : List ClauseKind} (m : Clauses ks) :
    entered (ofEmptiness m) = 0 := by
  unfold ofEmptiness
  split <;> rfl

theorem entered_names (ns : List String) : entered (ns.map name) = 0 := by
  induction ns with
  | nil => rfl
  | cons s ns ih => exact ih

theorem entered_values (vs : List Value) : entered (vs.map Value.mark) = 0 := by
  induction vs with
  | nil => rfl
  | cons v vs ih => cases v <;> exact ih

end Mark

open Mark (entered)

mutual

theorem Expr.length_places (d : Nat) : ∀ e : Expr, e.places.length = entered (e.marks d)
  | .value v => (Mark.entered_values [v]).symm
  | .binary op l r => by
    simp [Expr.places, Expr.marks, l.length_places d, r.length_places d]
  | .and es | .or es | .caseWhen es => by
    simp [Expr.places, Expr.marks, Mark.entered_ofOperands, Expr.length_listPlaces d es]
  | .inList negated t es => by
    simp [Expr.places, Expr.marks, t.length_places d, Expr.length_listPlaces d es]
  | .isNull e | .isNotNull e | .not e | .exists_ e => by
    simp [Expr.places, Expr.marks, e.length_places d]
  | .call name es => by
    have hname : entered (.call name :: Expr.listMarks d es) = entered (Expr.listMarks d es) := rfl
    simp [Expr.places, Expr.marks, hname, Expr.length_listPlaces d es]
  | .subquery m => by
    simp [Expr.places, Expr.marks, Mark.entered_ofEmptiness, m.length_inner (d + 1)]

theorem Expr.length_listPlaces (d : Nat) : ∀ es : List Expr,
    (Expr.listPlaces es).length = entered (Expr.listMarks d es)
  | [] => rfl
  | e :: es => by
    simp [Expr.listPlaces, Expr.listMarks, e.length_places d, Expr.length_listPlaces d es]

theorem Table.length_places (d : Nat) : ∀ t : Table, t.places.length = entered (t.marks d)
  | .named name alias? => (Mark.entered_ofAlias alias?).symm
  | .derived m alias? => by
    simp [Table.places, Table.marks, Mark.entered_ofEmptiness, Mark.entered_ofAlias,
      m.length_inner (d + 1)]

theorem Join.length_places (d : Nat) : ∀ j : Join, j.places.length = entered (j.marks d)
  | .mk kind t on => by
    simp [Join.places, Join.marks, t.length_places d, on.length_places d]

theorem Join.length_listPlaces (d : Nat) : ∀ js : List Join,
    (Join.listPlaces js).length = entered (Join.listMarks d js)
  | [] => rfl
  | j :: js => by
    simp [Join.listPlaces, Join.listMarks, j.length_places d, Join.length_listPlaces d js]

theorem OrderItem.length_places (d : Nat) : ∀ i : OrderItem,
    i.places.length = entered (i.marks d)
  | .mk e direction nulls => by
    simp [OrderItem.places, OrderItem.marks, e.length_places d]

theorem OrderItem.length_listPlaces (d : Nat) : ∀ is : List OrderItem,
    (OrderItem.listPlaces is).length = entered (OrderItem.listMarks d is)
  | [] => rfl
  | i :: is => by
    simp [OrderItem.listPlaces, OrderItem.listMarks, i.length_places d,
      OrderItem.length_listPlaces d is]

theorem Clause.length_places (d : Nat) : ∀ {k : ClauseKind} (c : Clause k),
    c.places.length = entered (c.marks d)
  | _, .select es | _, .doUpdate es | _, .set es | _, .groupBy es | _, .returning es => by
    simp [Clause.places, Clause.marks, Expr.length_listPlaces d es]
  | _, .selectDistinct on es => by
    simp [Clause.places, Clause.marks, Expr.length_listPlaces d on, Expr.length_listPlaces d es]
  | _, .insertInto t | _, .update t | _, .from_ t => by
    simp [Clause.places, Clause.marks, t.length_places d]
  | _, .columns ns | _, .onConflict ns => (Mark.entered_names ns).symm
  | _, .values rows => (Mark.entered_values rows.flatten).symm
  | _, .doNothing | _, .limit _ | _, .offset _ | _, .forUpdate => rfl
  | _, .join js => by simp [Clause.places, Clause.marks, Join.length_listPlaces d js]
  | _, .where_ e | _, .having e => by simp [Clause.places, Clause.marks, e.length_places d]
  | _, .orderBy is => by simp [Clause.places, Clause.marks, OrderItem.length_listPlaces d is]

theorem Clauses.length_inner (d : Nat) : ∀ {ks : List ClauseKind} (m : Clauses ks),
    m.inner.length = entered (m.marks d)
  | _, .nil => rfl
  | _, .absent rest => by simp [Clauses.inner, Clauses.marks, rest.length_inner d]
  | _, .present c rest => by
    simp [Clauses.inner, Clauses.marks, c.length_places d, rest.length_inner d]

end

/-- No clause map is left out. -/
theorem ClauseMap.length_places (m : ClauseMap) :
    m.places.length = entered m.traversal + 1 := by
  rw [Clauses.traversal, Mark.entered_append, Mark.entered_ofEmptiness, Nat.zero_add,
    ← Clauses.length_inner 0 m]
  rfl

end Clausal

import Clausal.Query.ClauseMap

/-!
# Traversals of clause maps

`Clauses.marks` lists what a traversal of a clause map meets, depth first and in the order in which
things are written: names, raw texts and parameters, the places where another clause map begins,
and the two things that leave a place empty. Questions about "anywhere in the map" are questions
about this list. `Clauses.mapParams` changes the parameters of a map and nothing else; on the
list it changes the marks of parameters in their places.
-/

namespace Clausal

/-- What a traversal of a clause map meets. -/
inductive Mark where
  /-- An identifier, an alias or a column name. -/
  | name (s : String)
  | raw (sql : String)
  | call (name : String)
  | param (p : Param)
  /-- A conjunction, a disjunction or a case expression without operands. -/
  | hollow (tag : ExprTag)
  /-- The start of a clause map that stands at the given depth. -/
  | enter (depth : Nat)
  /-- A clause map without clauses. -/
  | emptyMap
  deriving DecidableEq

namespace Mark

def param? : Mark → Option Param
  | param p => some p
  | _ => none

def mapParam (f : Param → Param) : Mark → Mark
  | param p => param (f p)
  | m => m

def ofOperands (tag : ExprTag) (operands : List Expr) : List Mark :=
  if operands.isEmpty then [hollow tag] else []

def ofAlias : Option String → List Mark
  | none => []
  | some s => [name s]

/-- Whether a clause map is empty cannot be read off the marks of its clauses, so it has a mark. -/
def ofEmptiness {ks : List ClauseKind} (m : Clauses ks) : List Mark :=
  if m.isEmpty then [emptyMap] else []

end Mark

def Value.mark : Value → Mark
  | .ident name => .name name
  | .param p => .param p
  | .raw sql => .raw sql

/-! ## Marks -/

mutual

def Expr.marks (depth : Nat) : Expr → List Mark
  | .value v => [v.mark]
  | .binary _ left right => left.marks depth ++ right.marks depth
  | .and operands => Mark.ofOperands .and operands ++ Expr.listMarks depth operands
  | .or operands => Mark.ofOperands .or operands ++ Expr.listMarks depth operands
  | .caseWhen operands => Mark.ofOperands .caseWhen operands ++ Expr.listMarks depth operands
  | .inList _ tested list => tested.marks depth ++ Expr.listMarks depth list
  | .isNull operand => operand.marks depth
  | .isNotNull operand => operand.marks depth
  | .not operand => operand.marks depth
  | .exists_ operand => operand.marks depth
  | .call name args => .call name :: Expr.listMarks depth args
  | .subquery m => .enter (depth + 1) :: (Mark.ofEmptiness m ++ m.marks (depth + 1))

def Expr.listMarks (depth : Nat) : List Expr → List Mark
  | [] => []
  | e :: es => e.marks depth ++ Expr.listMarks depth es

def Table.marks (depth : Nat) : Table → List Mark
  | .named name alias? => .name name :: Mark.ofAlias alias?
  | .derived m alias? =>
    .enter (depth + 1) :: (Mark.ofEmptiness m ++ m.marks (depth + 1)) ++ Mark.ofAlias alias?

def Join.marks (depth : Nat) : Join → List Mark
  | .mk _ table on => table.marks depth ++ on.marks depth

def Join.listMarks (depth : Nat) : List Join → List Mark
  | [] => []
  | j :: js => j.marks depth ++ Join.listMarks depth js

def OrderItem.marks (depth : Nat) : OrderItem → List Mark
  | .mk expr _ _ => expr.marks depth

def OrderItem.listMarks (depth : Nat) : List OrderItem → List Mark
  | [] => []
  | i :: is => i.marks depth ++ OrderItem.listMarks depth is

def Clause.marks (depth : Nat) : {k : ClauseKind} → Clause k → List Mark
  | _, .select exprs => Expr.listMarks depth exprs
  | _, .selectDistinct on exprs => Expr.listMarks depth on ++ Expr.listMarks depth exprs
  | _, .insertInto table => table.marks depth
  | _, .update table => table.marks depth
  | _, .columns names => names.map .name
  | _, .values rows => rows.flatten.map Value.mark
  | _, .onConflict names => names.map .name
  | _, .doUpdate exprs => Expr.listMarks depth exprs
  | _, .doNothing => []
  | _, .set exprs => Expr.listMarks depth exprs
  | _, .from_ table => table.marks depth
  | _, .join joins => Join.listMarks depth joins
  | _, .where_ condition => condition.marks depth
  | _, .groupBy exprs => Expr.listMarks depth exprs
  | _, .having condition => condition.marks depth
  | _, .orderBy items => OrderItem.listMarks depth items
  | _, .limit _ => []
  | _, .offset _ => []
  | _, .forUpdate => []
  | _, .returning exprs => Expr.listMarks depth exprs

/-- The marks of the clauses of a map that stands at the given depth. -/
def Clauses.marks (depth : Nat) : {ks : List ClauseKind} → Clauses ks → List Mark
  | _, .nil => []
  | _, .absent rest => rest.marks depth
  | _, .present c rest => c.marks depth ++ rest.marks depth

end

/-- What a traversal of a whole clause map meets. -/
def Clauses.traversal {ks : List ClauseKind} (m : Clauses ks) : List Mark :=
  Mark.ofEmptiness m ++ m.marks 0

/-- The parameters of a clause map, in the order of the traversal. -/
def Clauses.params {ks : List ClauseKind} (m : Clauses ks) : List Param :=
  m.traversal.filterMap Mark.param?

/-! ## Change of parameters -/

def Value.mapParams (f : Param → Param) : Value → Value
  | .ident name => .ident name
  | .param p => .param (f p)
  | .raw sql => .raw sql

mutual

def Expr.mapParams (f : Param → Param) : Expr → Expr
  | .value v => .value (v.mapParams f)
  | .binary op left right => .binary op (left.mapParams f) (right.mapParams f)
  | .and operands => .and (Expr.listMapParams f operands)
  | .or operands => .or (Expr.listMapParams f operands)
  | .caseWhen operands => .caseWhen (Expr.listMapParams f operands)
  | .inList negated tested list =>
    .inList negated (tested.mapParams f) (Expr.listMapParams f list)
  | .isNull operand => .isNull (operand.mapParams f)
  | .isNotNull operand => .isNotNull (operand.mapParams f)
  | .not operand => .not (operand.mapParams f)
  | .exists_ operand => .exists_ (operand.mapParams f)
  | .call name args => .call name (Expr.listMapParams f args)
  | .subquery m => .subquery (m.mapParams f)

def Expr.listMapParams (f : Param → Param) : List Expr → List Expr
  | [] => []
  | e :: es => e.mapParams f :: Expr.listMapParams f es

def Table.mapParams (f : Param → Param) : Table → Table
  | .named name alias? => .named name alias?
  | .derived m alias? => .derived (m.mapParams f) alias?

def Join.mapParams (f : Param → Param) : Join → Join
  | .mk kind table on => .mk kind (table.mapParams f) (on.mapParams f)

def Join.listMapParams (f : Param → Param) : List Join → List Join
  | [] => []
  | j :: js => j.mapParams f :: Join.listMapParams f js

def OrderItem.mapParams (f : Param → Param) : OrderItem → OrderItem
  | .mk expr direction nulls => .mk (expr.mapParams f) direction nulls

def OrderItem.listMapParams (f : Param → Param) : List OrderItem → List OrderItem
  | [] => []
  | i :: is => i.mapParams f :: OrderItem.listMapParams f is

def Clause.mapParams (f : Param → Param) : {k : ClauseKind} → Clause k → Clause k
  | _, .select exprs => .select (Expr.listMapParams f exprs)
  | _, .selectDistinct on exprs =>
    .selectDistinct (Expr.listMapParams f on) (Expr.listMapParams f exprs)
  | _, .insertInto table => .insertInto (table.mapParams f)
  | _, .update table => .update (table.mapParams f)
  | _, .columns names => .columns names
  | _, .values rows => .values (rows.map (·.map (Value.mapParams f)))
  | _, .onConflict names => .onConflict names
  | _, .doUpdate exprs => .doUpdate (Expr.listMapParams f exprs)
  | _, .doNothing => .doNothing
  | _, .set exprs => .set (Expr.listMapParams f exprs)
  | _, .from_ table => .from_ (table.mapParams f)
  | _, .join joins => .join (Join.listMapParams f joins)
  | _, .where_ condition => .where_ (condition.mapParams f)
  | _, .groupBy exprs => .groupBy (Expr.listMapParams f exprs)
  | _, .having condition => .having (condition.mapParams f)
  | _, .orderBy items => .orderBy (OrderItem.listMapParams f items)
  | _, .limit n => .limit n
  | _, .offset n => .offset n
  | _, .forUpdate => .forUpdate
  | _, .returning exprs => .returning (Expr.listMapParams f exprs)

/-- The clause map with `f` done to each of its parameters. -/
def Clauses.mapParams (f : Param → Param) : {ks : List ClauseKind} → Clauses ks → Clauses ks
  | _, .nil => .nil
  | _, .absent rest => .absent (rest.mapParams f)
  | _, .present c rest => .present (c.mapParams f) (rest.mapParams f)

end

@[simp] theorem Mark.map_ofAlias (f : Param → Param) (alias? : Option String) :
    (ofAlias alias?).map (mapParam f) = ofAlias alias? := by
  cases alias? <;> rfl

@[simp] theorem Mark.map_ofOperands (f : Param → Param) (tag : ExprTag) (es : List Expr) :
    (ofOperands tag es).map (mapParam f) = ofOperands tag (Expr.listMapParams f es) := by
  cases es <;> rfl

@[simp] theorem Clauses.isEmpty_mapParams (f : Param → Param) {ks : List ClauseKind}
    (m : Clauses ks) : (m.mapParams f).isEmpty = m.isEmpty := by
  cases m with
  | nil => rfl
  | absent rest => exact rest.isEmpty_mapParams f
  | present c rest => rfl

@[simp] theorem Mark.map_ofEmptiness (f : Param → Param) {ks : List ClauseKind} (m : Clauses ks) :
    (ofEmptiness m).map (mapParam f) = ofEmptiness (m.mapParams f) := by
  simp only [ofEmptiness, Clauses.isEmpty_mapParams]
  split <;> rfl

@[simp] theorem Value.mark_mapParams (f : Param → Param) (v : Value) :
    (v.mapParams f).mark = v.mark.mapParam f := by
  cases v <;> rfl

/-! ## The marks of a changed map

A change of parameters leaves every mark in its place. -/

mutual

theorem Expr.marks_mapParams (f : Param → Param) (d : Nat) :
    ∀ e : Expr, (e.mapParams f).marks d = (e.marks d).map (Mark.mapParam f)
  | .value v => by simp [Expr.mapParams, Expr.marks]
  | .binary _ l r => by
    simp [Expr.mapParams, Expr.marks, Expr.marks_mapParams f d l, Expr.marks_mapParams f d r]
  | .and es => by simp [Expr.mapParams, Expr.marks, Expr.listMarks_mapParams f d es]
  | .or es => by simp [Expr.mapParams, Expr.marks, Expr.listMarks_mapParams f d es]
  | .caseWhen es => by simp [Expr.mapParams, Expr.marks, Expr.listMarks_mapParams f d es]
  | .inList _ t es => by
    simp [Expr.mapParams, Expr.marks, Expr.marks_mapParams f d t, Expr.listMarks_mapParams f d es]
  | .isNull e => by simp [Expr.mapParams, Expr.marks, Expr.marks_mapParams f d e]
  | .isNotNull e => by simp [Expr.mapParams, Expr.marks, Expr.marks_mapParams f d e]
  | .not e => by simp [Expr.mapParams, Expr.marks, Expr.marks_mapParams f d e]
  | .exists_ e => by simp [Expr.mapParams, Expr.marks, Expr.marks_mapParams f d e]
  | .call _ es => by
    simp [Expr.mapParams, Expr.marks, Mark.mapParam, Expr.listMarks_mapParams f d es]
  | .subquery m => by
    simp [Expr.mapParams, Expr.marks, Mark.mapParam, Clauses.marks_mapParams f (d + 1) m]

theorem Expr.listMarks_mapParams (f : Param → Param) (d : Nat) : ∀ es : List Expr,
    Expr.listMarks d (Expr.listMapParams f es) = (Expr.listMarks d es).map (Mark.mapParam f)
  | [] => rfl
  | e :: es => by
    simp [Expr.listMapParams, Expr.listMarks, Expr.marks_mapParams f d e,
      Expr.listMarks_mapParams f d es]

theorem Table.marks_mapParams (f : Param → Param) (d : Nat) :
    ∀ t : Table, (t.mapParams f).marks d = (t.marks d).map (Mark.mapParam f)
  | .named _ _ => by simp [Table.mapParams, Table.marks, Mark.mapParam]
  | .derived m _ => by
    simp [Table.mapParams, Table.marks, Mark.mapParam, Clauses.marks_mapParams f (d + 1) m]

theorem Join.marks_mapParams (f : Param → Param) (d : Nat) :
    ∀ j : Join, (j.mapParams f).marks d = (j.marks d).map (Mark.mapParam f)
  | .mk _ t on => by
    simp [Join.mapParams, Join.marks, Table.marks_mapParams f d t, Expr.marks_mapParams f d on]

theorem Join.listMarks_mapParams (f : Param → Param) (d : Nat) : ∀ js : List Join,
    Join.listMarks d (Join.listMapParams f js) = (Join.listMarks d js).map (Mark.mapParam f)
  | [] => rfl
  | j :: js => by
    simp [Join.listMapParams, Join.listMarks, Join.marks_mapParams f d j,
      Join.listMarks_mapParams f d js]

theorem OrderItem.marks_mapParams (f : Param → Param) (d : Nat) :
    ∀ i : OrderItem, (i.mapParams f).marks d = (i.marks d).map (Mark.mapParam f)
  | .mk e _ _ => by simp [OrderItem.mapParams, OrderItem.marks, Expr.marks_mapParams f d e]

theorem OrderItem.listMarks_mapParams (f : Param → Param) (d : Nat) : ∀ is : List OrderItem,
    OrderItem.listMarks d (OrderItem.listMapParams f is)
      = (OrderItem.listMarks d is).map (Mark.mapParam f)
  | [] => rfl
  | i :: is => by
    simp [OrderItem.listMapParams, OrderItem.listMarks, OrderItem.marks_mapParams f d i,
      OrderItem.listMarks_mapParams f d is]

theorem Clause.marks_mapParams (f : Param → Param) (d : Nat) :
    ∀ {k : ClauseKind} (c : Clause k), (c.mapParams f).marks d = (c.marks d).map (Mark.mapParam f)
  | _, .select es => Expr.listMarks_mapParams f d es
  | _, .selectDistinct on es => by
    simp [Clause.mapParams, Clause.marks, Expr.listMarks_mapParams f d on,
      Expr.listMarks_mapParams f d es]
  | _, .insertInto t => Table.marks_mapParams f d t
  | _, .update t => Table.marks_mapParams f d t
  | _, .columns ns => by simp [Clause.mapParams, Clause.marks, Mark.mapParam]
  | _, .values rows => by
    simp [Clause.mapParams, Clause.marks, List.map_flatten, Function.comp_def]
  | _, .onConflict ns => by simp [Clause.mapParams, Clause.marks, Mark.mapParam]
  | _, .doUpdate es => Expr.listMarks_mapParams f d es
  | _, .doNothing => rfl
  | _, .set es => Expr.listMarks_mapParams f d es
  | _, .from_ t => Table.marks_mapParams f d t
  | _, .join js => Join.listMarks_mapParams f d js
  | _, .where_ e => Expr.marks_mapParams f d e
  | _, .groupBy es => Expr.listMarks_mapParams f d es
  | _, .having e => Expr.marks_mapParams f d e
  | _, .orderBy is => OrderItem.listMarks_mapParams f d is
  | _, .limit _ => rfl
  | _, .offset _ => rfl
  | _, .forUpdate => rfl
  | _, .returning es => Expr.listMarks_mapParams f d es

theorem Clauses.marks_mapParams (f : Param → Param) (d : Nat) :
    ∀ {ks : List ClauseKind} (m : Clauses ks),
      (m.mapParams f).marks d = (m.marks d).map (Mark.mapParam f)
  | _, .nil => rfl
  | _, .absent rest => Clauses.marks_mapParams f d rest
  | _, .present c rest => by
    simp [Clauses.mapParams, Clauses.marks, Clause.marks_mapParams f d c,
      Clauses.marks_mapParams f d rest]

end

theorem Clauses.traversal_mapParams (f : Param → Param) {ks : List ClauseKind} (m : Clauses ks) :
    (m.mapParams f).traversal = m.traversal.map (Mark.mapParam f) := by
  simp [traversal, Clauses.marks_mapParams]

/-! ## Maps that a change keeps

A change that keeps each parameter of a map keeps the map. -/

/-- `f` keeps the parameters among the marks. -/
def Mark.KeptBy (f : Param → Param) (ms : List Mark) : Prop :=
  ∀ p, param p ∈ ms → f p = p

namespace Mark

@[simp] theorem keptBy_append {f : Param → Param} {ms ns : List Mark} :
    KeptBy f (ms ++ ns) ↔ KeptBy f ms ∧ KeptBy f ns := by
  simp [KeptBy, or_imp, forall_and]

@[simp] theorem keptBy_call {f : Param → Param} {name : String} {ms : List Mark} :
    KeptBy f (call name :: ms) ↔ KeptBy f ms := by
  simp [KeptBy]

@[simp] theorem keptBy_enter {f : Param → Param} {d : Nat} {ms : List Mark} :
    KeptBy f (enter d :: ms) ↔ KeptBy f ms := by
  simp [KeptBy]

end Mark

theorem Value.mapParams_eq_self {f : Param → Param} {v : Value}
    (h : Mark.KeptBy f [v.mark]) : v.mapParams f = v := by
  cases v <;> simp_all [Mark.KeptBy, Value.mark, Value.mapParams]

mutual

theorem Expr.mapParams_eq_self {f : Param → Param} {d : Nat} :
    ∀ e : Expr, Mark.KeptBy f (e.marks d) → e.mapParams f = e
  | .value v, h => by rw [Expr.mapParams, Value.mapParams_eq_self h]
  | .binary _ l r, h => by
    simp only [Expr.marks, Mark.keptBy_append] at h
    rw [Expr.mapParams, Expr.mapParams_eq_self l h.1, Expr.mapParams_eq_self r h.2]
  | .and es, h => by
    simp only [Expr.marks, Mark.keptBy_append] at h
    rw [Expr.mapParams, Expr.listMapParams_eq_self es h.2]
  | .or es, h => by
    simp only [Expr.marks, Mark.keptBy_append] at h
    rw [Expr.mapParams, Expr.listMapParams_eq_self es h.2]
  | .caseWhen es, h => by
    simp only [Expr.marks, Mark.keptBy_append] at h
    rw [Expr.mapParams, Expr.listMapParams_eq_self es h.2]
  | .inList _ t es, h => by
    simp only [Expr.marks, Mark.keptBy_append] at h
    rw [Expr.mapParams, Expr.mapParams_eq_self t h.1, Expr.listMapParams_eq_self es h.2]
  | .isNull e, h => by rw [Expr.mapParams, Expr.mapParams_eq_self e h]
  | .isNotNull e, h => by rw [Expr.mapParams, Expr.mapParams_eq_self e h]
  | .not e, h => by rw [Expr.mapParams, Expr.mapParams_eq_self e h]
  | .exists_ e, h => by rw [Expr.mapParams, Expr.mapParams_eq_self e h]
  | .call _ es, h => by
    simp only [Expr.marks, Mark.keptBy_call] at h
    rw [Expr.mapParams, Expr.listMapParams_eq_self es h]
  | .subquery m, h => by
    simp only [Expr.marks, Mark.keptBy_enter, Mark.keptBy_append] at h
    rw [Expr.mapParams, Clauses.mapParams_eq_self m h.2]

theorem Expr.listMapParams_eq_self {f : Param → Param} {d : Nat} :
    ∀ es : List Expr, Mark.KeptBy f (Expr.listMarks d es) → Expr.listMapParams f es = es
  | [], _ => rfl
  | e :: es, h => by
    simp only [Expr.listMarks, Mark.keptBy_append] at h
    rw [Expr.listMapParams, Expr.mapParams_eq_self e h.1, Expr.listMapParams_eq_self es h.2]

theorem Table.mapParams_eq_self {f : Param → Param} {d : Nat} :
    ∀ t : Table, Mark.KeptBy f (t.marks d) → t.mapParams f = t
  | .named _ _, _ => rfl
  | .derived m _, h => by
    simp only [Table.marks, List.cons_append, Mark.keptBy_enter, Mark.keptBy_append] at h
    rw [Table.mapParams, Clauses.mapParams_eq_self m h.1.2]

theorem Join.mapParams_eq_self {f : Param → Param} {d : Nat} :
    ∀ j : Join, Mark.KeptBy f (j.marks d) → j.mapParams f = j
  | .mk _ t on, h => by
    simp only [Join.marks, Mark.keptBy_append] at h
    rw [Join.mapParams, Table.mapParams_eq_self t h.1, Expr.mapParams_eq_self on h.2]

theorem Join.listMapParams_eq_self {f : Param → Param} {d : Nat} :
    ∀ js : List Join, Mark.KeptBy f (Join.listMarks d js) → Join.listMapParams f js = js
  | [], _ => rfl
  | j :: js, h => by
    simp only [Join.listMarks, Mark.keptBy_append] at h
    rw [Join.listMapParams, Join.mapParams_eq_self j h.1, Join.listMapParams_eq_self js h.2]

theorem OrderItem.mapParams_eq_self {f : Param → Param} {d : Nat} :
    ∀ i : OrderItem, Mark.KeptBy f (i.marks d) → i.mapParams f = i
  | .mk e _ _, h => by rw [OrderItem.mapParams, Expr.mapParams_eq_self e h]

theorem OrderItem.listMapParams_eq_self {f : Param → Param} {d : Nat} :
    ∀ is : List OrderItem, Mark.KeptBy f (OrderItem.listMarks d is) →
      OrderItem.listMapParams f is = is
  | [], _ => rfl
  | i :: is, h => by
    simp only [OrderItem.listMarks, Mark.keptBy_append] at h
    rw [OrderItem.listMapParams, OrderItem.mapParams_eq_self i h.1,
      OrderItem.listMapParams_eq_self is h.2]

theorem Clause.mapParams_eq_self {f : Param → Param} {d : Nat} :
    ∀ {k : ClauseKind} (c : Clause k), Mark.KeptBy f (c.marks d) → c.mapParams f = c
  | _, .select es, h => by rw [Clause.mapParams, Expr.listMapParams_eq_self es h]
  | _, .selectDistinct on es, h => by
    simp only [Clause.marks, Mark.keptBy_append] at h
    rw [Clause.mapParams, Expr.listMapParams_eq_self on h.1, Expr.listMapParams_eq_self es h.2]
  | _, .insertInto t, h => by rw [Clause.mapParams, Table.mapParams_eq_self t h]
  | _, .update t, h => by rw [Clause.mapParams, Table.mapParams_eq_self t h]
  | _, .columns _, _ => rfl
  | _, .values rows, h => by
    -- The marks of the rows are those of their values, so the map is kept value by value.
    have hvalue : ∀ row ∈ rows, ∀ v ∈ row, v.mapParams f = v := by
      intro row hrow v hv
      apply Value.mapParams_eq_self
      intro p hp
      apply h p
      simp only [Clause.marks, List.mem_map, List.mem_flatten]
      exact ⟨v, ⟨row, hrow, hv⟩, (List.mem_singleton.mp hp).symm⟩
    have hrow : ∀ row ∈ rows, row.map (Value.mapParams f) = row := fun row hmem =>
      (List.map_congr_left (hvalue row hmem)).trans (List.map_id' row)
    rw [Clause.mapParams, List.map_congr_left hrow, List.map_id']
  | _, .onConflict _, _ => rfl
  | _, .doUpdate es, h => by rw [Clause.mapParams, Expr.listMapParams_eq_self es h]
  | _, .doNothing, _ => rfl
  | _, .set es, h => by rw [Clause.mapParams, Expr.listMapParams_eq_self es h]
  | _, .from_ t, h => by rw [Clause.mapParams, Table.mapParams_eq_self t h]
  | _, .join js, h => by rw [Clause.mapParams, Join.listMapParams_eq_self js h]
  | _, .where_ e, h => by rw [Clause.mapParams, Expr.mapParams_eq_self e h]
  | _, .groupBy es, h => by rw [Clause.mapParams, Expr.listMapParams_eq_self es h]
  | _, .having e, h => by rw [Clause.mapParams, Expr.mapParams_eq_self e h]
  | _, .orderBy is, h => by rw [Clause.mapParams, OrderItem.listMapParams_eq_self is h]
  | _, .limit _, _ => rfl
  | _, .offset _, _ => rfl
  | _, .forUpdate, _ => rfl
  | _, .returning es, h => by rw [Clause.mapParams, Expr.listMapParams_eq_self es h]

theorem Clauses.mapParams_eq_self {f : Param → Param} {d : Nat} :
    ∀ {ks : List ClauseKind} (m : Clauses ks), Mark.KeptBy f (m.marks d) → m.mapParams f = m
  | _, .nil, _ => rfl
  | _, .absent rest, h => by rw [Clauses.mapParams, Clauses.mapParams_eq_self rest h]
  | _, .present c rest, h => by
    simp only [Clauses.marks, Mark.keptBy_append] at h
    rw [Clauses.mapParams, Clause.mapParams_eq_self c h.1, Clauses.mapParams_eq_self rest h.2]

end

end Clausal

import Clausal.Query.Basic

/-!
# Documents of clause maps

The JSON form of clause maps. A clause map is an object with the clause names as keys, a value is
a string or an object with the one key `ip` or `r`, and every other expression is an array that
starts with its tag.
-/

namespace Clausal

def Value.toJson : Value → Json
  | .ident name => .string name
  | .param p => .object [("ip", p.toJson)]
  | .raw sql => .object [("r", .string sql)]

/-- The form of an expression with a tag. -/
def tagged (tag : String) (operands : List Json) : Json :=
  .array (.string tag :: operands)

/-- A table without alias is its source alone. -/
def aliased (source : Json) : Option String → Json
  | none => source
  | some name => .array [source, .string name]

mutual

def Expr.toJson : Expr → Json
  | .value v => v.toJson
  | .binary op left right => tagged op.tag [left.toJson, right.toJson]
  | .and operands => tagged "and" (Expr.listToJson operands)
  | .or operands => tagged "or" (Expr.listToJson operands)
  | .caseWhen operands => tagged "case_when" (Expr.listToJson operands)
  | .inList negated tested list =>
    tagged (if negated then "not_in" else "in") (tested.toJson :: Expr.listToJson list)
  | .isNull operand => tagged "null" [operand.toJson]
  | .isNotNull operand => tagged "not_null" [operand.toJson]
  | .not operand => tagged "not" [operand.toJson]
  | .exists_ operand => tagged "exists" [operand.toJson]
  | .call name args => tagged "%" (.string name :: Expr.listToJson args)
  | .subquery m => .ofFields m.fields

def Expr.listToJson : List Expr → List Json
  | [] => []
  | e :: es => e.toJson :: Expr.listToJson es

def Table.toJson : Table → Json
  | .named name alias? => aliased (.string name) alias?
  | .derived m alias? => aliased (.ofFields m.fields) alias?

def Join.toJson : Join → Json
  | .mk kind table on => .array [.string kind.sql, table.toJson, on.toJson]

def Join.listToJson : List Join → List Json
  | [] => []
  | j :: js => j.toJson :: Join.listToJson js

def OrderItem.toJson : OrderItem → Json
  | .mk expr direction nulls =>
    .array [expr.toJson, .string direction.sql, .string nulls.sql]

def OrderItem.listToJson : List OrderItem → List Json
  | [] => []
  | i :: is => i.toJson :: OrderItem.listToJson is

/-- What stands under the name of a clause. -/
def Clause.payload : {k : ClauseKind} → Clause k → Json
  | _, .select exprs => .array (Expr.listToJson exprs)
  | _, .selectDistinct on exprs =>
    .object [("exprs", .array (Expr.listToJson exprs)), ("on", .array (Expr.listToJson on))]
  | _, .insertInto table => table.toJson
  | _, .update table => table.toJson
  | _, .columns names => .ofStrings names
  | _, .values rows => .array (rows.map fun row => .array (row.map Value.toJson))
  | _, .onConflict names => .ofStrings names
  | _, .doUpdate exprs => .array (Expr.listToJson exprs)
  | _, .doNothing => .null
  | _, .set exprs => .array (Expr.listToJson exprs)
  | _, .from_ table => table.toJson
  | _, .join joins => .array (Join.listToJson joins)
  | _, .where_ condition => condition.toJson
  | _, .groupBy exprs => .array (Expr.listToJson exprs)
  | _, .having condition => condition.toJson
  | _, .orderBy items => .array (OrderItem.listToJson items)
  | _, .limit n => .ofUInt64 n
  | _, .offset n => .ofUInt64 n
  | _, .forUpdate => .bool true
  | _, .returning exprs => .array (Expr.listToJson exprs)

/-- The fields of a clause map, in priority order. -/
def Clauses.fields : {ks : List ClauseKind} → Clauses ks → List (String × Json)
  | _, .nil => []
  | _, .absent rest => rest.fields
  | _, .present (k := k) c rest => (k.name, c.payload) :: rest.fields

end

/-- The document of a clause map. -/
def Clauses.toJson {ks : List ClauseKind} (m : Clauses ks) : Json :=
  .ofFields m.fields

@[simp] theorem Expr.listToJson_eq_map (es : List Expr) :
    Expr.listToJson es = es.map Expr.toJson := by
  induction es with
  | nil => rfl
  | cons e es ih => simp [Expr.listToJson, ih]

@[simp] theorem Join.listToJson_eq_map (js : List Join) :
    Join.listToJson js = js.map Join.toJson := by
  induction js with
  | nil => rfl
  | cons j js ih => simp [Join.listToJson, ih]

@[simp] theorem OrderItem.listToJson_eq_map (is : List OrderItem) :
    OrderItem.listToJson is = is.map OrderItem.toJson := by
  induction is with
  | nil => rfl
  | cons i is ih => simp [OrderItem.listToJson, ih]

end Clausal

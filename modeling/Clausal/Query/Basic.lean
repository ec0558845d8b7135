import Clausal.Param.Basic
import Clausal.Query.Kind
import Clausal.Query.Operator

/-!
# Clause maps

A statement is a clause map: at most one clause of each kind. Clauses hold expressions and tables,
and both may hold clause maps again, so the types are defined together.

`Clauses ks` has one slot, empty or filled, for each kind in `ks`. The order of the kinds is part
of the type, and so is the kind of the clause in a slot: two maps with the same clauses are equal,
whatever the order in which the clauses were put in.
-/

namespace Clausal

/-- A leaf of an expression. A name is quoted when it is written, a parameter is bound, and raw
text is written as it is. -/
inductive Value where
  | ident (name : String)
  | param (p : Param)
  | raw (sql : String)
  deriving DecidableEq

mutual

inductive Expr where
  | value (v : Value)
  | binary (op : BinaryOp) (left right : Expr)
  /-- A conjunction in parentheses; without operands it is true. -/
  | and (operands : List Expr)
  /-- A disjunction in parentheses; without operands it is false. -/
  | or (operands : List Expr)
  /-- Conditions and results in turn; an operand left over is the result of last resort. -/
  | caseWhen (operands : List Expr)
  | inList (negated : Bool) (tested : Expr) (list : List Expr)
  | isNull (operand : Expr)
  | isNotNull (operand : Expr)
  | not (operand : Expr)
  | exists_ (operand : Expr)
  | call (name : String) (args : List Expr)
  | subquery (m : Clauses ClauseKind.all)

/-- A table reference: a named or a derived table, with or without an alias. -/
inductive Table where
  | named (name : String) (alias? : Option String)
  | derived (m : Clauses ClauseKind.all) (alias? : Option String)

inductive Join where
  | mk (kind : JoinKind) (table : Table) (on : Expr)

inductive OrderItem where
  | mk (expr : Expr) (direction : Direction) (nulls : NullsPlacement)

/-- A clause of the given kind. -/
inductive Clause : ClauseKind → Type where
  | select (exprs : List Expr) : Clause .select
  | selectDistinct (on exprs : List Expr) : Clause .selectDistinct
  | insertInto (table : Table) : Clause .insertInto
  | update (table : Table) : Clause .update
  | columns (names : List String) : Clause .columns
  | values (rows : List (List Value)) : Clause .values
  | onConflict (names : List String) : Clause .onConflict
  | doUpdate (exprs : List Expr) : Clause .doUpdate
  | doNothing : Clause .doNothing
  | set (exprs : List Expr) : Clause .set
  | from_ (table : Table) : Clause .from_
  | join (joins : List Join) : Clause .join
  | where_ (condition : Expr) : Clause .where_
  | groupBy (exprs : List Expr) : Clause .groupBy
  | having (condition : Expr) : Clause .having
  | orderBy (items : List OrderItem) : Clause .orderBy
  | limit (n : UInt64) : Clause .limit
  | offset (n : UInt64) : Clause .offset
  | forUpdate : Clause .forUpdate
  | returning (exprs : List Expr) : Clause .returning

/-- A slot for each of the given kinds. -/
inductive Clauses : List ClauseKind → Type where
  | nil : Clauses []
  | absent {k : ClauseKind} {ks : List ClauseKind} (rest : Clauses ks) : Clauses (k :: ks)
  | present {k : ClauseKind} {ks : List ClauseKind} (c : Clause k) (rest : Clauses ks) :
    Clauses (k :: ks)

end

/-- A clause map has a slot for each kind there is. -/
abbrev ClauseMap := Clauses ClauseKind.all

/-- A clause with its kind. -/
structure AnyClause where
  kind : ClauseKind
  clause : Clause kind

namespace Expr

def ident (name : String) : Expr :=
  .value (.ident name)

def param (p : Param) : Expr :=
  .value (.param p)

def raw (sql : String) : Expr :=
  .value (.raw sql)

/-- The test whether a subquery has rows. -/
def existsIn (m : ClauseMap) : Expr :=
  .exists_ (.subquery m)

def isValue : Expr → Bool
  | .value _ => true
  | _ => false

def isSubquery : Expr → Bool
  | .subquery _ => true
  | _ => false

/-- The tag that the expression starts with in a document; values and subqueries have none. -/
def tag? : Expr → Option ExprTag
  | .value _ => none
  | .subquery _ => none
  | .binary op _ _ => some (.binary op)
  | .and _ => some .and
  | .or _ => some .or
  | .caseWhen _ => some .caseWhen
  | .inList negated _ _ => some (.inList negated)
  | .isNull _ => some .isNull
  | .isNotNull _ => some .isNotNull
  | .not _ => some .not
  | .exists_ _ => some .exists_
  | .call _ _ => some .call

end Expr

namespace OrderItem

/-- An order item with the placement of null values that its direction has by default. -/
def ofDirection (expr : Expr) (direction : Direction) : OrderItem :=
  .mk expr direction (.ofDirection direction)

end OrderItem

end Clausal

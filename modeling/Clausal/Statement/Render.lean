import Clausal.Query.ClauseMap
import Clausal.Statement.Writer
import Clausal.Text.Uppercase

/-!
# Rendering

`ClauseMap.render` writes the clauses of a map in priority order and gives the statement: a text
with numbered placeholders and the values for them.
-/

namespace Clausal

/-- A text with placeholders, and the values that they stand for in the order of their numbers. -/
structure Statement where
  text : String
  values : List Param
  deriving DecidableEq

/-- A statement is shown as its text. -/
instance : ToString Statement := ⟨Statement.text⟩

open Clausal.Action (skip fail put putIdent putIdents bind separated phrases nested)

def Value.write : Value → Action
  | .ident name => putIdent name
  | .param p => bind p
  | .raw sql => put sql

/-- A row of values in parentheses. -/
def writeRow (row : List Value) : Action :=
  .all [put "(", separated ", " (row.map Value.write), put ")"]

/-- Rows of values; without rows the defaults are inserted. -/
def writeRows : List (List Value) → Action
  | [] => put "DEFAULT VALUES"
  | rows => .all [put "VALUES ", separated ", " (rows.map writeRow)]

/-- A keyword and what follows it, if anything does. -/
def keywordList (keyword : String) : List Action → Action
  | [] => put keyword
  | items => .all [put keyword, put " ", separated ", " items]

/-- Operands in parentheses, or `neutral` where there are none. -/
def group (operator neutral : String) : List Action → Action
  | [] => put neutral
  | operands => .all [put "(", separated operator operands, put ")"]

def aliasSuffix : Option String → Action
  | none => skip
  | some name => .all [put " ", putIdent name]

/-- The clauses of one clause map; there has to be one. -/
def statement : List Action → Action
  | [] => fail .emptyClauseMap
  | clauses => phrases true clauses

/-- The clauses of a clause map in parentheses, one level deeper. -/
def parenthesized (clauses : List Action) : Action :=
  nested (.all [put "(", statement clauses, put ")"])

mutual

def Expr.write : Expr → Action
  | .value v => v.write
  | .binary op left right =>
    .all [left.write, put " ", put op.sql, put " ", right.write]
  | .and operands => group " AND " "TRUE" (Expr.writeList operands)
  | .or operands => group " OR " "FALSE" (Expr.writeList operands)
  | .caseWhen operands =>
    match operands with
    | [] => fail (.malformed .noOperands)
    | _ :: _ => .all [put "CASE", .all (Expr.writeCases operands), put " END"]
  | .inList negated tested list =>
    .all [tested.write, put (if negated then " NOT IN(" else " IN("), Expr.writeMembers list,
      put ")"]
  | .isNull operand => .all [operand.write, put " IS NULL"]
  | .isNotNull operand => .all [operand.write, put " IS NOT NULL"]
  | .not operand => .all [put "NOT (", operand.write, put ")"]
  | .exists_ operand =>
    if operand.isSubquery then .all [put "EXISTS ", operand.write]
    else .all [put "EXISTS ", put "(", operand.write, put ")"]
  | .call name args =>
    .all [put (upperText name), put "(", separated ", " (Expr.writeList args), put ")"]
  | .subquery m => parenthesized m.write

def Expr.writeList : List Expr → List Action
  | [] => []
  | e :: es => e.write :: Expr.writeList es

/-- What stands between the parentheses of a list to look in. -/
def Expr.writeMembers : List Expr → Action
  -- An empty list would be no valid text; a comparison with null never holds.
  | [] => put "NULL"
  | [e] =>
    match e with
    -- The parentheses of the list serve the subquery too.
    | .subquery m => nested (statement m.write)
    | e => e.write
  | e :: es => separated ", " (e.write :: Expr.writeList es)

/-- The branches of a case expression: pairs of a condition and a result, and a last result. -/
def Expr.writeCases : List Expr → List Action
  | [] => []
  | [otherwise] => [.all [put " ELSE ", otherwise.write]]
  | condition :: result :: rest =>
    .all [put " WHEN ", condition.write, put " THEN ", result.write] :: Expr.writeCases rest

def Table.write : Table → Action
  | .named name alias? => .all [putIdent name, aliasSuffix alias?]
  | .derived m alias? => .all [parenthesized m.write, aliasSuffix alias?]

def Join.write : Join → Action
  | .mk kind table on => .all [put kind.sql, put " JOIN ", table.write, put " ON ", on.write]

def Join.writeList : List Join → List Action
  | [] => []
  | j :: js => j.write :: Join.writeList js

def OrderItem.write : OrderItem → Action
  | .mk expr direction nulls =>
    .all [expr.write, put " ", put direction.sql, put " ", put nulls.sql]

def OrderItem.writeList : List OrderItem → List Action
  | [] => []
  | i :: is => i.write :: OrderItem.writeList is

def Clause.write : {k : ClauseKind} → Clause k → Action
  | _, .select exprs => keywordList "SELECT" (Expr.writeList exprs)
  | _, .selectDistinct on exprs =>
    .all [put "SELECT DISTINCT",
      match on with
      | [] => skip
      | _ :: _ => .all [put " ON (", separated ", " (Expr.writeList on), put ")"],
      match exprs with
      | [] => skip
      | _ :: _ => .all [put " ", separated ", " (Expr.writeList exprs)]]
  | _, .insertInto table => .all [put "INSERT INTO ", table.write]
  | _, .update table => .all [put "UPDATE ", table.write]
  | _, .columns names => if names.isEmpty then skip else putIdents names
  | _, .values rows => writeRows rows
  | _, .onConflict names =>
    if names.isEmpty then put "ON CONFLICT"
    else .all [put "ON CONFLICT", put " ", putIdents names]
  | _, .doUpdate exprs => keywordList "DO UPDATE SET" (Expr.writeList exprs)
  | _, .doNothing => put "DO NOTHING"
  | _, .set exprs => keywordList "SET" (Expr.writeList exprs)
  | _, .from_ table => .all [put "FROM ", table.write]
  | _, .join joins => separated " " (Join.writeList joins)
  | _, .where_ condition => .all [put "WHERE ", condition.write]
  | _, .groupBy exprs => keywordList "GROUP BY" (Expr.writeList exprs)
  | _, .having condition => .all [put "HAVING ", condition.write]
  | _, .orderBy items => keywordList "ORDER BY" (OrderItem.writeList items)
  | _, .limit n => .all [put "LIMIT ", put (natText n.toNat)]
  | _, .offset n => .all [put "OFFSET ", put (natText n.toNat)]
  | _, .forUpdate => put "FOR UPDATE"
  | _, .returning exprs => keywordList "RETURNING" (Expr.writeList exprs)

/-- The clauses in priority order. -/
def Clauses.write : {ks : List ClauseKind} → Clauses ks → List Action
  | _, .nil => []
  | _, .absent rest => rest.write
  | _, .present c rest => c.write :: rest.write

end

/-- The statement that a clause map stands for. An error leaves no part of it. -/
def Clauses.render {ks : List ClauseKind} (limit : DepthLimit) (m : Clauses ks) :
    Except QueryError Statement :=
  match statement m.write (Writer.start limit) with
  | (w, none) => .ok ⟨w.text, w.params.toList⟩
  | (_, some e) => .error e

end Clausal

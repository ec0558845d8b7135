import Clausal.Query.ClauseMap
import Clausal.Query.Error
import Clausal.Query.Limit

/-!
# Reading documents

`ClauseMap.ofJson` reads the clause map that a JSON value stands for. The fields of an object are
read in their order and the first fault found is the answer. Every clause map inside another one
counts as one level of depth; arrays of operands count nothing, and neither does what stands under
`ip` or `r`.
-/

namespace Clausal

namespace Document

/-! ## Leaves -/

/-- The value that an object with the key `ip` or `r` stands for; `ip` comes first, and other keys
do not matter. -/
def wrapped? (fields : List (String × Json)) : Option Value :=
  match Json.field? "ip" fields with
  | some v => some (.param (.ofJson v))
  | none =>
    match Json.field? "r" fields with
    | some (.string sql) => some (.raw sql)
    | some v => some (.raw v.compact)
    | none => none

/-- An expression in a place that takes values only. -/
def readValue : Json → Except QueryError Value
  | .string name => .ok (.ident name)
  | .object fields =>
    match wrapped? fields with
    | some v => .ok v
    | none => .error (.invalidValue (.object fields))
  | v => .error (.invalidValue v)

def malformed {α : Type} (fault : ShapeFault) : Except QueryError α :=
  .error (.malformed fault)

/-- The items of an array; `what` says what the array is. -/
def readItems (what : String) : Json → Except QueryError (List Json)
  | .array items => .ok items
  | v => malformed (.notArray what v)

def readName (kind : ClauseKind) : Json → Except QueryError String
  | .string name => .ok name
  | v => malformed (.notName kind v)

def readNames (kind : ClauseKind) (v : Json) : Except QueryError (List String) := do
  (← readItems kind.name v).mapM (readName kind)

def readRow (v : Json) : Except QueryError (List Value) := do
  (← readItems "values row" v).mapM readValue

def readRows (v : Json) : Except QueryError (List (List Value)) := do
  (← readItems ClauseKind.values.name v).mapM readRow

def readCount (kind : ClauseKind) : Json → Except QueryError UInt64
  | .integer n =>
    if 0 ≤ n.val then .ok (UInt64.ofNat n.val.toNat) else malformed (.notCount kind (.integer n))
  | v => malformed (.notCount kind v)

def readDirection : Option Json → Except QueryError Direction
  | none => .ok .default
  | some (.string text) =>
    match Direction.ofSql? text with
    | some d => .ok d
    | none => malformed (.unknownDirection text)
  | some v => malformed (.badDirection v)

def readNulls (direction : Direction) : Option Json → Except QueryError NullsPlacement
  | none => .ok (.ofDirection direction)
  | some (.string text) =>
    match NullsPlacement.ofSql? text with
    | some n => .ok n
    | none => malformed (.unknownNulls text)
  | some v => malformed (.badNulls v)

/-- What may follow the expression of an order item. -/
def readOrder (rest : List Json) : Except QueryError (Direction × NullsPlacement) := do
  let direction ← readDirection rest[0]?
  let nulls ← readNulls direction rest[1]?
  if 2 < rest.length then
    malformed (.arity "order item" "at most 3 elements" (rest.length + 1))
  else return (direction, nulls)

def readJoinKind (text : String) : Except QueryError JoinKind :=
  match JoinKind.ofSql? text with
  | some kind => .ok kind
  | none => malformed (.unknownJoin text)

def readKind (name : String) : Except QueryError ClauseKind :=
  match ClauseKind.ofName? name with
  | some kind => .ok kind
  | none => .error (.unsupportedClause name)

def readTag (text : String) : Except QueryError ExprTag :=
  match ExprTag.ofText? text with
  | some tag => .ok tag
  | none => .error (.unsupportedExpression text)

/-- The depth inside a clause map that stands at the given depth. -/
def enter (limit : DepthLimit) (depth : Nat) : Except QueryError Nat :=
  match limit with
  | none => .ok (depth + 1)
  | some n => if n < depth + 1 then .error (.depthExceeded n) else .ok (depth + 1)

/-! ## Expressions, tables and clause maps -/

section

variable (limit : DepthLimit)

mutual

def readExpr (depth : Nat) : Json → Except QueryError Expr
  | .string name => .ok (.ident name)
  | .object fields =>
    match wrapped? fields with
    | some v => .ok (.value v)
    | none => do
      let inner ← enter limit depth
      return .subquery (← readClauses inner .empty fields)
  | .array items =>
    match items with
    | [] => malformed .noTag
    | .string text :: args => do
      match ← readTag text with
      | .binary op =>
        let (left, right) ← readPair depth text args
        return .binary op left right
      | .and => return .and (← readOperands depth text args)
      | .or => return .or (← readOperands depth text args)
      | .caseWhen => return .caseWhen (← readOperands depth text args)
      | .inList negated =>
        let (tested, list) ← readTested depth text args
        return .inList negated tested list
      | .isNull => return .isNull (← readOperand depth text args)
      | .isNotNull => return .isNotNull (← readOperand depth text args)
      | .not => return .not (← readOperand depth text args)
      | .exists_ => return .exists_ (← readOperand depth text args)
      | .call =>
        let (name, args) ← readCall depth args
        return .call name args
    | head :: _ => malformed (.badTag head)
  | v => .error (.invalidValue v)

def readExprs (depth : Nat) : List Json → Except QueryError (List Expr)
  | [] => .ok []
  | item :: items => do return (← readExpr depth item) :: (← readExprs depth items)

/-- The operand of a tag that takes one. -/
def readOperand (depth : Nat) (tag : String) : List Json → Except QueryError Expr
  | [operand] => readExpr depth operand
  | args => malformed (.arity tag "1 operand" args.length)

/-- The operands of a tag that takes two. -/
def readPair (depth : Nat) (tag : String) : List Json → Except QueryError (Expr × Expr)
  | [left, right] => do return (← readExpr depth left, ← readExpr depth right)
  | args => malformed (.arity tag "2 operands" args.length)

/-- The operands of a tag that takes one or more. -/
def readOperands (depth : Nat) (tag : String) : List Json → Except QueryError (List Expr)
  | [] => malformed (.arity tag "at least 1 operand" 0)
  | first :: rest => do return (← readExpr depth first) :: (← readExprs depth rest)

/-- A tested expression and the list it is looked for in. -/
def readTested (depth : Nat) (tag : String) : List Json → Except QueryError (Expr × List Expr)
  | [] => malformed (.arity tag "at least 1 operand" 0)
  | tested :: list => do return (← readExpr depth tested, ← readExprs depth list)

/-- The name of a function and its arguments. -/
def readCall (depth : Nat) : List Json → Except QueryError (String × List Expr)
  | .string name :: args => do return (name, ← readExprs depth args)
  | _ => malformed .badCall

/-- An array of expressions. -/
def readExprList (depth : Nat) : Json → Except QueryError (List Expr)
  | .array items => readExprs depth items
  | v => malformed (.notArray "expression list" v)

/-- The array of expressions under `key`, empty where the key is missing. -/
def readExprField (depth : Nat) (key : String) :
    List (String × Json) → Except QueryError (List Expr)
  | [] => .ok []
  | (name, v) :: fields =>
    if key = name then readExprList depth v else readExprField depth key fields

def readTable (depth : Nat) : Json → Except QueryError Table
  | .string name => .ok (.named name none)
  | .object fields => do
    let inner ← enter limit depth
    return .derived (← readClauses inner .empty fields) none
  | .array items =>
    match items with
    | [.string name, .string short] => .ok (.named name (some short))
    | [.object fields, .string short] => do
      let inner ← enter limit depth
      return .derived (← readClauses inner .empty fields) (some short)
    | [source, .string _] => malformed (.badSource source)
    | _ => malformed (.badAlias (.array items))
  | v => malformed (.badTable v)

def readJoin (depth : Nat) : Json → Except QueryError Join
  | .array items =>
    match items with
    | [.string kind, table, on] => do
      let kind ← readJoinKind kind
      return .mk kind (← readTable depth table) (← readExpr depth on)
    | _ => malformed (.badJoin (.array items))
  | v => malformed (.notArray "join" v)

def readJoins (depth : Nat) : List Json → Except QueryError (List Join)
  | [] => .ok []
  | item :: items => do return (← readJoin depth item) :: (← readJoins depth items)

def readOrderItem (depth : Nat) : Json → Except QueryError OrderItem
  | .array items =>
    match items with
    | [] => malformed .emptyOrderItem
    | expr :: rest => do
      let (direction, nulls) ← readOrder rest
      return .mk (← readExpr depth expr) direction nulls
  | v => malformed (.notArray "order item" v)

def readOrderItems (depth : Nat) : List Json → Except QueryError (List OrderItem)
  | [] => .ok []
  | item :: items => do return (← readOrderItem depth item) :: (← readOrderItems depth items)

/-- The expressions to be distinct on, and those to select. -/
def readDistinct (depth : Nat) : Json → Except QueryError (List Expr × List Expr)
  | .object parts => do
    return (← readExprField depth "on" parts, ← readExprField depth "exprs" parts)
  | v => malformed (.notDistinct v)

def readJoinList (depth : Nat) : Json → Except QueryError (List Join)
  | .array items => readJoins depth items
  | v => malformed (.notArray ClauseKind.join.name v)

def readOrderList (depth : Nat) : Json → Except QueryError (List OrderItem)
  | .array items => readOrderItems depth items
  | v => malformed (.notArray ClauseKind.orderBy.name v)

/-- The clause that a field of a clause map stands for. -/
def readField (depth : Nat) : String × Json → Except QueryError AnyClause
  | (name, v) => do
    match ← readKind name with
    | .select => return ⟨_, .select (← readExprList depth v)⟩
    | .selectDistinct =>
      let (on, exprs) ← readDistinct depth v
      return ⟨_, .selectDistinct on exprs⟩
    | .insertInto => return ⟨_, .insertInto (← readTable depth v)⟩
    | .update => return ⟨_, .update (← readTable depth v)⟩
    | .columns => return ⟨_, .columns (← readNames .columns v)⟩
    | .values => return ⟨_, .values (← readRows v)⟩
    | .onConflict => return ⟨_, .onConflict (← readNames .onConflict v)⟩
    | .doUpdate => return ⟨_, .doUpdate (← readExprList depth v)⟩
    | .doNothing => return ⟨_, .doNothing⟩
    | .set => return ⟨_, .set (← readExprList depth v)⟩
    | .from_ => return ⟨_, .from_ (← readTable depth v)⟩
    | .join => return ⟨_, .join (← readJoinList depth v)⟩
    | .where_ => return ⟨_, .where_ (← readExpr depth v)⟩
    | .groupBy => return ⟨_, .groupBy (← readExprList depth v)⟩
    | .having => return ⟨_, .having (← readExpr depth v)⟩
    | .orderBy => return ⟨_, .orderBy (← readOrderList depth v)⟩
    | .limit => return ⟨_, .limit (← readCount .limit v)⟩
    | .offset => return ⟨_, .offset (← readCount .offset v)⟩
    | .forUpdate => return ⟨_, .forUpdate⟩
    | .returning => return ⟨_, .returning (← readExprList depth v)⟩

/-- Put the clauses that the fields stand for into a clause map. -/
def readClauses (depth : Nat) (m : ClauseMap) :
    List (String × Json) → Except QueryError ClauseMap
  | [] => .ok m
  | field :: fields => do
    let c ← readField depth field
    readClauses depth (m.insert c.clause) fields

end

end

end Document

/-- Read the clause map that a document stands for. -/
def ClauseMap.ofJson (limit : DepthLimit) : Json → Except QueryError ClauseMap
  | .object fields => Document.readClauses limit 0 .empty fields
  | v => .error (.malformed (.notMap v))

end Clausal

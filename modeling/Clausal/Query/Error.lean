import Clausal.Json.Equality
import Clausal.Json.Printer
import Clausal.Query.Operator
import Clausal.Query.Kind

/-!
# Errors

What can be wrong with a document, a combination or a clause map, and the text that tells it.
-/

namespace Clausal

/-- How the shape of a document can be wrong. JSON values are the offending parts. -/
inductive ShapeFault where
  | notMap (got : Json)
  | notDistinct (got : Json)
  | notArray (what : String) (got : Json)
  | notName (kind : ClauseKind) (got : Json)
  | notCount (kind : ClauseKind) (got : Json)
  | arity (what expected : String) (got : Nat)
  | noTag
  | badTag (got : Json)
  | badCall
  | badAlias (got : Json)
  | badSource (got : Json)
  | badTable (got : Json)
  | badJoin (got : Json)
  | unknownJoin (kind : String)
  | emptyOrderItem
  | unknownDirection (text : String)
  | badDirection (got : Json)
  | unknownNulls (text : String)
  | badNulls (got : Json)
  | noOperands
  deriving DecidableEq

namespace ShapeFault

def message : ShapeFault → String
  | notMap got => "expected a clause map object, got " ++ got.compact
  | notDistinct got =>
    "select_distinct: expected \x7b\"on\": [...], \"exprs\": [...]\x7d, got " ++ got.compact
  | notArray what got => what ++ ": expected an array, got " ++ got.compact
  | notName kind got => kind.name ++ ": expected column names, got " ++ got.compact
  | notCount kind got => kind.name ++ ": expected a non-negative integer, got " ++ got.compact
  | arity what expected got =>
    what ++ ": expected " ++ expected ++ ", got " ++ natText got
  | noTag => "empty expression array"
  | badTag got => "expression must start with an operator tag, got " ++ got.compact
  | badCall => "function call must be [\"%\", name, args...]"
  | badAlias got => "aliased table must be [table, alias], got " ++ got.compact
  | badSource got => "table must be a name or a clause map, got " ++ got.compact
  | badTable got => "table must be a name, [table, alias] or a clause map, got " ++ got.compact
  | badJoin got => "join must be [kind, table, condition], got " ++ got.compact
  | unknownJoin kind => "unknown join kind " ++ kind
  | emptyOrderItem => "empty order item"
  | unknownDirection text => "unknown sort direction " ++ text
  | badDirection got => "sort direction must be a string, got " ++ got.compact
  | unknownNulls text => "unknown nulls placement " ++ text
  | badNulls got => "nulls placement must be a string, got " ++ got.compact
  | noOperands => "case_when requires at least 1 operand"

end ShapeFault

inductive QueryError where
  | unsupportedClause (name : String)
  | unsupportedExpression (tag : String)
  | invalidValue (got : Json)
  | unsupportedAppend (kinds : List ClauseKind)
  | valuesShapeMismatch (left right : Nat)
  | malformed (fault : ShapeFault)
  | depthExceeded (limit : Nat)
  | emptyClauseMap
  deriving DecidableEq

/-- The kinds of error, without their details. -/
inductive ErrorKind where
  | unsupportedClause
  | unsupportedExpression
  | invalidValue
  | unsupportedAppend
  | valuesShapeMismatch
  | malformed
  | depthExceeded
  | emptyClauseMap
  deriving DecidableEq, Repr

/-- The texts with a comma between neighbours. -/
def commaSeparated (texts : List String) : String :=
  ", ".intercalate texts

namespace QueryError

def kind : QueryError → ErrorKind
  | unsupportedClause _ => .unsupportedClause
  | unsupportedExpression _ => .unsupportedExpression
  | invalidValue _ => .invalidValue
  | unsupportedAppend _ => .unsupportedAppend
  | valuesShapeMismatch _ _ => .valuesShapeMismatch
  | malformed _ => .malformed
  | depthExceeded _ => .depthExceeded
  | emptyClauseMap => .emptyClauseMap

def message : QueryError → String
  | unsupportedClause name =>
    "Unknown clause " ++ name ++ ". Supported clauses: "
      ++ commaSeparated (ClauseKind.names ClauseKind.all) ++ "."
  | unsupportedExpression tag =>
    "Unknown expr " ++ tag ++ ". Supported exprs: " ++ commaSeparated ExprTag.texts
  | invalidValue got => "Invalid expr value: " ++ got.compact
  | unsupportedAppend kinds =>
    "Trying to append following unsupported clauses: " ++ commaSeparated (ClauseKind.names kinds)
      ++ ". Only following clauses are supported: "
      ++ commaSeparated (ClauseKind.names ClauseKind.appendable)
  | valuesShapeMismatch left right =>
    "Cannot append values: left side has " ++ natText left
      ++ " rows, right side has " ++ natText right
  | malformed fault => "Malformed clause map: " ++ fault.message
  | depthExceeded limit => "Nesting depth exceeds the limit of " ++ natText limit
  | emptyClauseMap => "Cannot render an empty clause map"

/-- Whether the error is about a clause or an operator that is not known or not allowed. -/
def isUnsupported : QueryError → Bool
  | unsupportedClause _ => true
  | unsupportedExpression _ => true
  | unsupportedAppend _ => true
  | _ => false

end QueryError

end Clausal

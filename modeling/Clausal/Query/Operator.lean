/-!
# Operators and keywords

The small vocabularies of expressions, joins and sort orders: each a closed set with its spelling
in documents and in statements.
-/

namespace Clausal

/-! ## Binary operators -/

inductive BinaryOp where
  | eq
  | neq
  | gt
  | gte
  | lt
  | lte
  | as_
  | like
  | ilike
  | overlaps
  deriving DecidableEq, Repr

namespace BinaryOp

def all : List BinaryOp :=
  [eq, neq, gt, gte, lt, lte, as_, like, ilike, overlaps]

/-- The tag of an operator in a document. -/
def tag : BinaryOp → String
  | eq => "="
  | neq => "!="
  | gt => ">"
  | gte => ">="
  | lt => "<"
  | lte => "<="
  | as_ => "as"
  | like => "like"
  | ilike => "ilike"
  | overlaps => "&&"

/-- The operator as it stands between its operands. -/
def sql : BinaryOp → String
  | like => "LIKE"
  | ilike => "ILIKE"
  | op => op.tag

def ofTag? (tag : String) : Option BinaryOp :=
  all.find? (·.tag == tag)

theorem ofTag?_tag (op : BinaryOp) : ofTag? op.tag = some op := by
  cases op <;> rfl

theorem tag_of_ofTag? {tag : String} {op : BinaryOp} (h : ofTag? tag = some op) : op.tag = tag := by
  simpa using List.find?_some h

end BinaryOp

/-! ## Tags -/

/-- What an expression is, apart from its operands. -/
inductive ExprTag where
  | binary (op : BinaryOp)
  | and
  | or
  | caseWhen
  | inList (negated : Bool)
  | isNull
  | isNotNull
  | not
  | exists_
  | call
  deriving DecidableEq, Repr

namespace ExprTag

/-- The spelling of a tag at the start of an expression. -/
def text : ExprTag → String
  | binary op => op.tag
  | and => "and"
  | or => "or"
  | caseWhen => "case_when"
  | inList false => "in"
  | inList true => "not_in"
  | isNull => "null"
  | isNotNull => "not_null"
  | not => "not"
  | exists_ => "exists"
  | call => "%"

/-- The tag that is spelled so. Binary operators have a list of their own, which comes first. -/
def ofText? (text : String) : Option ExprTag :=
  match BinaryOp.ofTag? text with
  | some op => some (binary op)
  | none =>
    match text with
    | "and" => some and
    | "or" => some or
    | "case_when" => some caseWhen
    | "in" => some (inList false)
    | "not_in" => some (inList true)
    | "null" => some isNull
    | "not_null" => some isNotNull
    | "not" => some not
    | "exists" => some exists_
    | "%" => some call
    | _ => none

/-- The spellings that are listed to users, in the order of the list. -/
def texts : List String :=
  ["=", "!=", ">", ">=", "<", "<=", "as", "%", "and", "or", "null", "not_null", "case_when", "in",
    "like", "ilike", "not_in", "&&", "not", "exists"]

theorem ofText?_text (tag : ExprTag) : ofText? tag.text = some tag := by
  cases tag with
  | binary op =>
    unfold ofText?
    rw [text, BinaryOp.ofTag?_tag]
  | inList negated => cases negated <;> rfl
  | _ => rfl

theorem text_of_ofText? {text : String} {tag : ExprTag} (h : ofText? text = some tag) :
    tag.text = text := by
  unfold ofText? at h
  split at h
  · next hop =>
    cases h
    exact BinaryOp.tag_of_ofTag? hop
  · split at h <;> cases h <;> rfl

theorem ofText?_eq_some_iff {text : String} {tag : ExprTag} :
    ofText? text = some tag ↔ tag.text = text := by
  constructor
  · exact text_of_ofText?
  · rintro rfl
    exact ofText?_text tag

end ExprTag

/-! ## Joins -/

inductive JoinKind where
  | inner
  | left
  | right
  | full
  | cross
  deriving DecidableEq, Repr

namespace JoinKind

def all : List JoinKind :=
  [inner, left, right, full, cross]

def sql : JoinKind → String
  | inner => "INNER"
  | left => "LEFT"
  | right => "RIGHT"
  | full => "FULL"
  | cross => "CROSS"

def ofSql? (text : String) : Option JoinKind :=
  all.find? (·.sql == text)

theorem ofSql?_eq_some_iff {text : String} {kind : JoinKind} :
    ofSql? text = some kind ↔ kind.sql = text := by
  constructor
  · intro h
    simpa using List.find?_some h
  · rintro rfl
    cases kind <;> rfl

end JoinKind

/-! ## Sort orders -/

inductive Direction where
  | asc
  | desc
  deriving DecidableEq, Repr

namespace Direction

def sql : Direction → String
  | asc => "ASC"
  | desc => "DESC"

def ofSql? : String → Option Direction
  | "ASC" => some asc
  | "DESC" => some desc
  | _ => none

theorem ofSql?_eq_some_iff {text : String} {d : Direction} :
    ofSql? text = some d ↔ d.sql = text := by
  constructor
  · intro h
    unfold ofSql? at h
    split at h <;> cases h <;> rfl
  · rintro rfl
    cases d <;> rfl

/-- The direction of an order item that names none. -/
def default : Direction := asc

end Direction

/-- Where the null values of a sort order stand. -/
inductive NullsPlacement where
  | first
  | last
  deriving DecidableEq, Repr

namespace NullsPlacement

def sql : NullsPlacement → String
  | first => "NULLS FIRST"
  | last => "NULLS LAST"

def ofSql? : String → Option NullsPlacement
  | "NULLS FIRST" => some first
  | "NULLS LAST" => some last
  | _ => none

theorem ofSql?_eq_some_iff {text : String} {n : NullsPlacement} :
    ofSql? text = some n ↔ n.sql = text := by
  constructor
  · intro h
    unfold ofSql? at h
    split at h <;> cases h <;> rfl
  · rintro rfl
    cases n <;> rfl

/-- Null values count as larger than all others. -/
def ofDirection : Direction → NullsPlacement
  | .asc => last
  | .desc => first

end NullsPlacement

end Clausal

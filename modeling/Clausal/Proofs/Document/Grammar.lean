import Clausal.Document.Decode
import Clausal.Proofs.Query.Lookup
import Mathlib.Data.List.Forall2

/-!
# The grammar of documents

Which JSON values are documents of clause maps, and which map each of them denotes. The grammar has
four sorts, namely clause maps, expressions, tables and values. It is given as relations between
JSON values and what they denote, with no order of reading, no state and no errors.
-/

namespace Clausal

/-! ## Lists and values -/

/-- An array whose elements denote the elements of a list, in their order. -/
inductive ArrayOf {α : Type} (R : Json → α → Prop) : Json → List α → Prop
  | mk {items : List Json} {as : List α} (h : List.Forall₂ R items as) : ArrayOf R (.array items) as

inductive DenotesName : Json → String → Prop
  | mk (s : String) : DenotesName (.string s) s

/-- Raw text is given as a string; any other value stands for its own text. -/
def Json.rawText : Json → String
  | .string sql => sql
  | v => v.compact

/-- An object with the key `ip` or `r`. With both keys it is a parameter, and other keys do not
matter. -/
inductive DenotesWrapped : List (String × Json) → Value → Prop
  | param {fields : List (String × Json)} {v : Json} (h : Json.field? "ip" fields = some v) :
    DenotesWrapped fields (.param (.ofJson v))
  | raw {fields : List (String × Json)} {v : Json} (hip : Json.field? "ip" fields = none)
    (h : Json.field? "r" fields = some v) : DenotesWrapped fields (.raw v.rawText)

inductive DenotesValue : Json → Value → Prop
  | ident (name : String) : DenotesValue (.string name) (.ident name)
  | wrapped {fields : List (String × Json)} {v : Value} (h : DenotesWrapped fields v) :
    DenotesValue (.object fields) v

/-- An integer of an unsigned word. -/
inductive DenotesCount : Json → UInt64 → Prop
  | mk {n : WordInteger} {count : UInt64} (h : n.val = count.toNat) :
    DenotesCount (.integer n) count

/-- What may follow the expression of an order item. -/
inductive DenotesOrder : List Json → Direction → NullsPlacement → Prop
  | default : DenotesOrder [] .default (.ofDirection .default)
  | direction (d : Direction) : DenotesOrder [.string d.sql] d (.ofDirection d)
  | full (d : Direction) (n : NullsPlacement) :
    DenotesOrder [.string d.sql, .string n.sql] d n

/-! ## Expressions, tables and clause maps -/

mutual

/-- An expression is a value, a clause map, or an array of a tag and its operands. -/
inductive DenotesExpr : Json → Expr → Prop
  | value {j : Json} {v : Value} (h : DenotesValue j v) : DenotesExpr j (.value v)
  | subquery {fields : List (String × Json)} {m : ClauseMap} (h : DenotesMap fields m) :
    DenotesExpr (.object fields) (.subquery m)
  | tagged {tag : ExprTag} {args : List Json} {e : Expr} (h : DenotesTagged tag args e) :
    DenotesExpr (.array (.string tag.text :: args)) e

/-- What stands after a tag. Binary operators take two operands, tests and negation take one, and
conjunctions, disjunctions and case expressions take one or more. A list that an expression is
looked for in may be empty, and so may the arguments of a call. -/
inductive DenotesTagged : ExprTag → List Json → Expr → Prop
  | binary {op : BinaryOp} {args : List Json} {e e' : Expr}
    (h : List.Forall₂ DenotesExpr args [e, e']) : DenotesTagged (.binary op) args (.binary op e e')
  | and {args : List Json} {es : List Expr} (hne : args ≠ [])
    (h : List.Forall₂ DenotesExpr args es) : DenotesTagged .and args (.and es)
  | or {args : List Json} {es : List Expr} (hne : args ≠ [])
    (h : List.Forall₂ DenotesExpr args es) : DenotesTagged .or args (.or es)
  | caseWhen {args : List Json} {es : List Expr} (hne : args ≠ [])
    (h : List.Forall₂ DenotesExpr args es) : DenotesTagged .caseWhen args (.caseWhen es)
  | inList {negated : Bool} {args : List Json} {e : Expr} {es : List Expr}
    (h : List.Forall₂ DenotesExpr args (e :: es)) :
    DenotesTagged (.inList negated) args (.inList negated e es)
  | isNull {args : List Json} {e : Expr} (h : List.Forall₂ DenotesExpr args [e]) :
    DenotesTagged .isNull args (.isNull e)
  | isNotNull {args : List Json} {e : Expr} (h : List.Forall₂ DenotesExpr args [e]) :
    DenotesTagged .isNotNull args (.isNotNull e)
  | not {args : List Json} {e : Expr} (h : List.Forall₂ DenotesExpr args [e]) :
    DenotesTagged .not args (.not e)
  | exists_ {args : List Json} {e : Expr} (h : List.Forall₂ DenotesExpr args [e]) :
    DenotesTagged .exists_ args (.exists_ e)
  | call {name : String} {args : List Json} {es : List Expr}
    (h : List.Forall₂ DenotesExpr args es) :
    DenotesTagged .call (.string name :: args) (.call name es)

/-- A name or a clause map, alone or in an array with an alias. -/
inductive DenotesTable : Json → Table → Prop
  | named (name : String) : DenotesTable (.string name) (.named name none)
  | derived {fields : List (String × Json)} {m : ClauseMap} (h : DenotesMap fields m) :
    DenotesTable (.object fields) (.derived m none)
  | namedAs (name short : String) :
    DenotesTable (.array [.string name, .string short]) (.named name (some short))
  | derivedAs {fields : List (String × Json)} {m : ClauseMap} (h : DenotesMap fields m)
    (short : String) :
    DenotesTable (.array [.object fields, .string short]) (.derived m (some short))

inductive DenotesJoin : Json → Join → Prop
  | mk (kind : JoinKind) {t on : Json} {table : Table} {e : Expr} (ht : DenotesTable t table)
    (hon : DenotesExpr on e) : DenotesJoin (.array [.string kind.sql, t, on]) (.mk kind table e)

inductive DenotesOrderItem : Json → OrderItem → Prop
  | mk {j : Json} {rest : List Json} {e : Expr} {d : Direction} {n : NullsPlacement}
    (he : DenotesExpr j e) (hrest : DenotesOrder rest d n) :
    DenotesOrderItem (.array (j :: rest)) (.mk e d n)

/-- An array of expressions that may be left out. -/
inductive DenotesPart : Option Json → List Expr → Prop
  | missing : DenotesPart none []
  | present {v : Json} {es : List Expr} (h : ArrayOf DenotesExpr v es) : DenotesPart (some v) es

/-- What stands under the name of a clause. -/
inductive DenotesPayload : (k : ClauseKind) → Json → Clause k → Prop
  | select {v : Json} {es : List Expr} (h : ArrayOf DenotesExpr v es) :
    DenotesPayload .select v (.select es)
  | selectDistinct {parts : List (String × Json)} {on es : List Expr}
    (hon : DenotesPart (Json.field? "on" parts) on)
    (hes : DenotesPart (Json.field? "exprs" parts) es) :
    DenotesPayload .selectDistinct (.object parts) (.selectDistinct on es)
  | insertInto {v : Json} {t : Table} (h : DenotesTable v t) :
    DenotesPayload .insertInto v (.insertInto t)
  | update {v : Json} {t : Table} (h : DenotesTable v t) : DenotesPayload .update v (.update t)
  | columns {v : Json} {names : List String} (h : ArrayOf DenotesName v names) :
    DenotesPayload .columns v (.columns names)
  | values {v : Json} {rows : List (List Value)} (h : ArrayOf (ArrayOf DenotesValue) v rows) :
    DenotesPayload .values v (.values rows)
  | onConflict {v : Json} {names : List String} (h : ArrayOf DenotesName v names) :
    DenotesPayload .onConflict v (.onConflict names)
  | doUpdate {v : Json} {es : List Expr} (h : ArrayOf DenotesExpr v es) :
    DenotesPayload .doUpdate v (.doUpdate es)
  | doNothing (v : Json) : DenotesPayload .doNothing v .doNothing
  | set {v : Json} {es : List Expr} (h : ArrayOf DenotesExpr v es) :
    DenotesPayload .set v (.set es)
  | from_ {v : Json} {t : Table} (h : DenotesTable v t) : DenotesPayload .from_ v (.from_ t)
  | join {v : Json} {js : List Join} (h : ArrayOf DenotesJoin v js) :
    DenotesPayload .join v (.join js)
  | where_ {v : Json} {e : Expr} (h : DenotesExpr v e) : DenotesPayload .where_ v (.where_ e)
  | groupBy {v : Json} {es : List Expr} (h : ArrayOf DenotesExpr v es) :
    DenotesPayload .groupBy v (.groupBy es)
  | having {v : Json} {e : Expr} (h : DenotesExpr v e) : DenotesPayload .having v (.having e)
  | orderBy {v : Json} {is : List OrderItem} (h : ArrayOf DenotesOrderItem v is) :
    DenotesPayload .orderBy v (.orderBy is)
  | limit {v : Json} {n : UInt64} (h : DenotesCount v n) : DenotesPayload .limit v (.limit n)
  | offset {v : Json} {n : UInt64} (h : DenotesCount v n) : DenotesPayload .offset v (.offset n)
  | forUpdate (v : Json) : DenotesPayload .forUpdate v .forUpdate
  | returning {v : Json} {es : List Expr} (h : ArrayOf DenotesExpr v es) :
    DenotesPayload .returning v (.returning es)

inductive DenotesField : String × Json → AnyClause → Prop
  | mk {k : ClauseKind} {v : Json} {c : Clause k} (h : DenotesPayload k v c) :
    DenotesField (k.name, v) ⟨k, c⟩

/-- An object of which every field denotes a clause. -/
inductive DenotesMap : List (String × Json) → ClauseMap → Prop
  | mk {fields : List (String × Json)} {cs : List AnyClause}
    (h : List.Forall₂ DenotesField fields cs) : DenotesMap fields (.ofList cs)

end

/-! ## Clauses of documents -/

theorem DenotesField.name_eq {field : String × Json} {c : AnyClause} (h : DenotesField field c) :
    c.kind.name = field.1 := by
  cases h
  rfl

theorem names_eq_of_forall₂ {fields : List (String × Json)} {cs : List AnyClause}
    (h : List.Forall₂ DenotesField fields cs) :
    cs.map (fun c => c.kind.name) = fields.map Prod.fst := by
  induction h with
  | nil => rfl
  | cons hfield _ ih => rw [List.map_cons, List.map_cons, hfield.name_eq, ih]

end Clausal

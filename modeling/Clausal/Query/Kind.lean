/-!
# Clause kinds

The closed set of clause kinds. `ClauseKind.all` lists them in priority order, which is the order
in which the clauses of a statement are written.
-/

namespace Clausal

inductive ClauseKind where
  | select
  | selectDistinct
  | insertInto
  | update
  | columns
  | values
  | onConflict
  | doUpdate
  | doNothing
  | set
  | from_
  | join
  | where_
  | groupBy
  | having
  | orderBy
  | limit
  | offset
  | forUpdate
  | returning
  deriving DecidableEq, Repr

namespace ClauseKind

/-- All kinds in priority order. -/
def all : List ClauseKind :=
  [select, selectDistinct, insertInto, update, columns, values, onConflict, doUpdate, doNothing,
    set, from_, join, where_, groupBy, having, orderBy, limit, offset, forUpdate, returning]

/-- The kinds that an append accumulates. -/
def appendable : List ClauseKind :=
  [columns, values, where_, having, set, orderBy, select, join, groupBy]

/-- The key of a kind in a document. -/
def name : ClauseKind → String
  | select => "select"
  | selectDistinct => "select_distinct"
  | insertInto => "insert_into"
  | update => "update"
  | columns => "columns"
  | values => "values"
  | onConflict => "on_conflict"
  | doUpdate => "do_update"
  | doNothing => "do_nothing"
  | set => "set"
  | from_ => "from"
  | join => "join"
  | where_ => "where"
  | groupBy => "group_by"
  | having => "having"
  | orderBy => "order_by"
  | limit => "limit"
  | offset => "offset"
  | forUpdate => "for_update"
  | returning => "returning"

def ofName? (name : String) : Option ClauseKind :=
  all.find? (·.name == name)

/-- The place of a kind in the priority order, counted from zero. -/
def priority (k : ClauseKind) : Nat :=
  all.idxOf k

def isAppendable (k : ClauseKind) : Bool :=
  appendable.contains k

def names (ks : List ClauseKind) : List String :=
  ks.map name

theorem mem_all (k : ClauseKind) : k ∈ all := by
  cases k <;> decide

theorem nodup_all : all.Nodup := by
  decide

theorem ofName?_name (k : ClauseKind) : ofName? k.name = some k := by
  cases k <;> decide

theorem name_of_ofName? {s : String} {k : ClauseKind} (h : ofName? s = some k) : k.name = s := by
  have := List.find?_some h
  simpa using this

theorem ofName?_eq_some_iff {s : String} {k : ClauseKind} : ofName? s = some k ↔ k.name = s :=
  ⟨name_of_ofName?, fun h => h ▸ ofName?_name k⟩

theorem name_injective : Function.Injective name := by
  intro j k h
  have hj := ofName?_name j
  rw [h, ofName?_name k] at hj
  exact (Option.some.inj hj).symm

end ClauseKind

end Clausal

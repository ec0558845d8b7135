/-!
# TOML tables

Values of a TOML document, and the rules by which keys and headers build up its tables. How a
table came about decides what may still be added to it, so every table remembers it.
-/

namespace Clausal

/-- How a table came about. -/
inductive TableForm where
  /-- It is the root, or has a header of its own. -/
  | headed
  /-- It stands in the path of a header and has no header yet. -/
  | implied
  /-- It stands in the path of a dotted key. -/
  | dotted
  /-- It is written as a value. -/
  | inline
  deriving DecidableEq, Repr

/-- A value. Numbers are kept as they are written, without underscores, and so are dates and times;
`integer` has the base of its digits. -/
inductive Toml where
  | string (s : String)
  | integer (base : Nat) (text : String)
  | float (text : String)
  | boolean (b : Bool)
  | moment (text : String)
  | array (items : List Toml)
  | tables (items : List (List (String × Toml)))
  | table (form : TableForm) (entries : List (String × Toml))

namespace Toml

abbrev Entries := List (String × Toml)

def setEntry (key : String) (value : Toml) (entries : Entries) : Entries :=
  entries.map fun entry => if entry.1 = key then (key, value) else entry

/-- Follow a path to a table, making the tables that are missing, and change what is found there.
A path ends in the last element of an array of tables, may not enter a value, and where it is
part of a dotted key may not enter a table that has a header. -/
def changeAt (dotted : Bool) (change : TableForm → Entries → Option Entries) :
    List String → TableForm → Entries → Option Entries
  | [], form, entries => change form entries
  | key :: path, _, entries =>
    match entries.lookup key with
    | none => do
      let form := if dotted then TableForm.dotted else TableForm.implied
      let inner ← changeAt dotted change path form []
      some (entries ++ [(key, .table form inner)])
    | some (.table form inner) =>
      if form = .inline ∨ (dotted ∧ form = .headed) then none
      else do
        let inner ← changeAt dotted change path form inner
        some (setEntry key (.table form inner) entries)
    | some (.tables items) =>
      -- Each header of an array of tables begins a new element, and later lines add to it.
      match items.getLast? with
      | none => none
      | some inner => do
        let inner ← changeAt dotted change path .headed inner
        some (setEntry key (.tables (items.dropLast ++ [inner])) entries)
    | some _ => none

/-- Give a key a value. The last table of a dotted key has to be one that dotted keys made. -/
def define (path : List String) (key : String) (value : Toml) : Entries → Option Entries :=
  changeAt true (fun form entries =>
    if (form = .dotted) ↔ path.isEmpty then none
    else if (entries.lookup key).isSome then none
    else some (entries ++ [(key, value)])) path .headed

/-- Begin a table by its header. A table that other headers implied is completed. -/
def openTable (path : List String) (key : String) : Entries → Option Entries :=
  changeAt false (fun _ entries =>
    match entries.lookup key with
    | none => some (entries ++ [(key, .table .headed [])])
    | some (.table .implied inner) => some (setEntry key (.table .headed inner) entries)
    | some _ => none) path .headed

/-- Begin a further element of an array of tables. -/
def openElement (path : List String) (key : String) : Entries → Option Entries :=
  changeAt false (fun _ entries =>
    match entries.lookup key with
    | none => some (entries ++ [(key, .tables [[]])])
    | some (.tables items) => some (setEntry key (.tables (items ++ [[]])) entries)
    | some _ => none) path .headed

/-- Give a key a value in the table of the last header. -/
def defineUnder (header path : List String) (key : String) (value : Toml) :
    Entries → Option Entries :=
  changeAt false (fun _ entries => define path key value entries) header .headed

end Toml

end Clausal

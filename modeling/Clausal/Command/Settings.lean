import Clausal.Command.Args
import Clausal.Query.Limit
import Clausal.Toml.Reader

/-!
# Settings

What the configuration file says, and the settings of a run: options override the file, and a
depth of zero is no limit. Keys that are not known do not matter, but their values have to be
numbers that can be represented.
-/

namespace Clausal

structure ConfigFile where
  version : String
  maxDepth : Nat
  format : OutputFormat
  deriving DecidableEq, Repr

namespace ConfigFile

/-- What holds where the file says nothing. -/
def default : ConfigFile :=
  ⟨"1", 128, .json⟩

/-! ## Values -/

/-- Whether a float is written so that a double can hold it. -/
def isRepresentable (text : String) : Bool :=
  match FloatLiteral.read? text with
  | some (.number negative d) =>
    FloatFormat.binary64.isFinite (FloatLiteral.toWord .binary64 (.number negative d))
  | _ => true

mutual

/-- Whether all numbers in a value can be represented: integers in 128 bits, with or without a
sign, and floats in a double. -/
def representable : Toml → Bool
  | .integer base text =>
    match Toml.integerValue? base text with
    | some n => -(1 <<< 127 : Nat) ≤ n && n < (1 <<< 128 : Nat)
    | none => false
  | .float text => isRepresentable text
  | .array items => representableItems items
  | .tables items => representableTables items
  | .table _ entries => representableEntries entries
  | .string _ => true
  | .boolean _ => true
  | .moment _ => true

def representableItems : List Toml → Bool
  | [] => true
  | item :: items => representable item && representableItems items

def representableTables : List (List (String × Toml)) → Bool
  | [] => true
  | entries :: tables => representableEntries entries && representableTables tables

def representableEntries : List (String × Toml) → Bool
  | [] => true
  | (_, value) :: entries => representable value && representableEntries entries

end

/-- The entries whose keys are not known are representable. -/
def othersRepresentable (known : List String) (entries : Toml.Entries) : Bool :=
  representableEntries (entries.filter fun entry => !known.contains entry.1)

def depth? : Toml → Option Nat
  | .integer base text => do
    let n ← Toml.integerValue? base text
    if 0 ≤ n ∧ n < 0x10000000000000000 then some n.toNat else none
  | _ => none

def formatOfName? (name : String) : Option OutputFormat :=
  if name = "json" then some .json
  else if name = "text" then some .text
  else none

def isEmptyValue : Toml → Bool
  | .array items => items.isEmpty
  | .table _ entries => entries.isEmpty
  | _ => false

/-- A format is a name, or a table with the name as its one key and nothing under it. -/
def format? : Toml → Option OutputFormat
  | .string name => formatOfName? name
  | .table _ [(name, value)] => if isEmptyValue value then formatOfName? name else none
  | _ => none

/-- Read a section with one known key. An array, also one of tables, gives the value by its place; a
date has no key that is known. -/
def section? {α : Type} (key : String) (read? : Toml → Option α) (absent : α) :
    Option Toml → Option α
  | none => some absent
  | some (.table _ entries) =>
    if othersRepresentable [key] entries then
      match entries.lookup key with
      | none => some absent
      | some value => read? value
    else none
  | some (.array []) => some absent
  | some (.array (value :: _)) => read? value
  | some (.tables (entries :: _)) => read? (.table .headed entries)
  | some (.moment _) => some absent
  | some _ => none

def version? : Option Toml → Option String
  | none => some default.version
  | some (.string s) => some s
  | some _ => none

/-- What the entries of a document say. -/
def ofEntries? (entries : Toml.Entries) : Option ConfigFile := do
  let version ← version? (entries.lookup "version")
  let maxDepth ← section? "max_depth" depth? default.maxDepth (entries.lookup "render")
  let format ← section? "format" format? default.format (entries.lookup "output")
  if othersRepresentable ["version", "render", "output"] entries then
    some ⟨version, maxDepth, format⟩
  else none

def ofText? (text : String) : Option ConfigFile := do
  ofEntries? (← Toml.parse? text)

/-- There is one version so far; blanks around it do not matter. -/
def isSupported (c : ConfigFile) : Bool :=
  trimText c.version == "1"

end ConfigFile

structure Settings where
  limit : DepthLimit
  format : OutputFormat
  deriving DecidableEq, Repr

namespace Settings

def ofDepth (depth : Nat) : DepthLimit :=
  if depth = 0 then .unbounded else some depth

/-- The settings of a run with the given options. -/
def resolve (file : ConfigFile) (maxDepth : Option Nat) (format : Option OutputFormat) :
    Settings :=
  ⟨ofDepth (maxDepth.getD file.maxDepth), format.getD file.format⟩

end Settings

end Clausal

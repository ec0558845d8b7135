import Clausal.Number.Shortest

/-!
# JSON values

Numbers come in two kinds: integers of a word, which are kept exactly, and finite doubles. The
fields of an object are a list of pairs; `Json.object` brings them into the order of their keys.
-/

namespace Clausal

/-- An integer that fits a signed or an unsigned 64-bit word. -/
structure WordInteger where
  val : Int
  lower : -0x8000000000000000 ≤ val := by omega
  upper : val < 0x10000000000000000 := by omega
  deriving DecidableEq

/-- A double that is neither infinite nor not-a-number. -/
structure FiniteBinary64 where
  val : Binary64
  finite : val.isFinite = true
  deriving DecidableEq

inductive Json where
  | null
  | bool (b : Bool)
  | integer (n : WordInteger)
  | float (x : FiniteBinary64)
  | string (s : String)
  | array (items : List Json)
  | object (fields : List (String × Json))

namespace Json

instance : Inhabited Json := ⟨null⟩

/-- The integer of a signed word. -/
def ofInt64 (n : Int64) : Json :=
  .integer ⟨n.toInt, by have := n.le_toInt; omega, by have := n.toInt_lt; omega⟩

/-- The integer of an unsigned word. -/
def ofUInt64 (n : UInt64) : Json :=
  .integer ⟨n.toNat, by omega, by have := n.toNat_lt; omega⟩

/-- The integer `n` if it fits a word. -/
def ofInt? (n : Int) : Option Json :=
  if h : -0x8000000000000000 ≤ n ∧ n < 0x10000000000000000 then some (.integer ⟨n, h.1, h.2⟩)
  else none

/-- The number `x` if it is finite. -/
def ofBinary64? (x : Binary64) : Option Json :=
  if h : x.isFinite = true then some (.float ⟨x, h⟩) else none

def ofStrings (ss : List String) : Json :=
  .array (ss.map .string)

/-! ## Fields -/

/-- Put `value` under `key` into fields that are in ascending order of their keys, replacing the
value the key has there. -/
def insertField (key : String) (value : Json) : List (String × Json) → List (String × Json)
  | [] => [(key, value)]
  | field :: fields =>
    if key < field.1 then (key, value) :: field :: fields
    else if key = field.1 then (key, value) :: fields
    else field :: insertField key value fields

/-- The object of the given fields, in ascending order of keys; of fields with one key the last
counts. -/
def ofFields (fields : List (String × Json)) : Json :=
  .object (fields.foldl (fun sorted field => insertField field.1 field.2 sorted) [])

/-- The value under `key`. -/
def field? (key : String) (fields : List (String × Json)) : Option Json :=
  fields.lookup key

end Json

end Clausal

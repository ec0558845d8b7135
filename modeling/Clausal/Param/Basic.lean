import Clausal.Json.Equality
import Clausal.Json.Printer
import Clausal.Param.Instant
import Clausal.Param.Uuid

/-!
# Bound values

The value behind one placeholder, and its JSON form. Reading a JSON value as a parameter keeps
null, truth values, texts, arrays and objects as they are; an integer beyond the signed words
becomes a float.
-/

namespace Clausal

inductive Param where
  | null
  | bool (b : Bool)
  | int (n : Int64)
  | float (x : Binary64)
  | text (s : String)
  | json (v : Json)
  | uuid (u : Uuid)
  | timestamp (t : Instant)
  deriving DecidableEq

namespace Param

/-- The parameter that a number is bound as. -/
def ofWordInteger (n : WordInteger) : Param :=
  if n.val < 0x8000000000000000 then .int (Int64.ofInt n.val)
  else .float (Binary64.ofNat n.val.toNat)

def ofJson : Json → Param
  | .null => .null
  | .bool b => .bool b
  | .integer n => ofWordInteger n
  | .float x => .float x.val
  | .string s => .text s
  | .array items => .json (.array items)
  | .object fields => .json (.object fields)

/-- UUIDs and instants become strings; infinities and not-a-number become null. -/
def toJson : Param → Json
  | .null => .null
  | .bool b => .bool b
  | .int n => .ofInt64 n
  | .float x => (Json.ofBinary64? x).getD .null
  | .text s => .string s
  | .json v => v
  | .uuid u => .string u.text
  | .timestamp t => .string t.text

/-- The text that a parameter is shown as. -/
def display (p : Param) : String :=
  p.toJson.compact

def isNull : Param → Bool
  | .null => true
  | _ => false

end Param

end Clausal

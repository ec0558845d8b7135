import Clausal.Param.Basic

/-!
# Binary encoding of bound values

What is sent for a parameter when the server asks for a column of some type. Null is sent for
every type; any other parameter is encoded or refused, by its kind. Words are sent with the most
significant byte first.
-/

namespace Clausal

/-- A column type of the server. Types of extensions are known by their name. -/
inductive ColumnType where
  | bool | bytea | int2 | int4 | int8 | oid | float4 | float8 | numeric
  | text | varchar | bpchar | name | unknown
  | json | jsonb | uuid | date | timestamp | timestamptz
  | named (name : String)
  deriving DecidableEq, Repr

/-- What is sent: the null marker or bytes. -/
inductive Wire where
  | null
  | bytes (bs : List UInt8)
  deriving DecidableEq, Repr

inductive WireError where
  | wrongType
  | tooLarge
  | tooSmall
  deriving DecidableEq, Repr

/-- Why a value is not sent. -/
def WireError.message : WireError → String
  | wrongType => "the value cannot be sent as this type"
  | tooLarge => "number too large to fit in target type"
  | tooSmall => "number too small to fit in target type"

namespace Wire

/-- The low `count` bytes of a natural number, the most significant first. -/
def bigEndian (count n : Nat) : List UInt8 :=
  (List.range count).map fun i => UInt8.ofNat (n >>> (8 * (count - 1 - i)))

/-- An integer in two's complement. -/
def ofInt (count : Nat) (n : Int) : List UInt8 :=
  bigEndian count (n.emod (1 <<< (8 * count) : Nat)).toNat

def ofText (s : String) : List UInt8 :=
  s.toUTF8.toList

end Wire

/-! ## Values of one type -/

/-- How the values of a type are sent: which columns take them, and the bytes for such a column. -/
structure Encoding (α : Type) where
  takes : ColumnType → Bool
  bytes : ColumnType → α → List UInt8

namespace Encoding

variable {α : Type}

/-- Send a value, unless the column does not take it. -/
def send (e : Encoding α) (x : α) (type : ColumnType) : Except WireError Wire :=
  if e.takes type then .ok (.bytes (e.bytes type x)) else .error .wrongType

/-- Values that columns of one type take. -/
def only (type : ColumnType) (bytes : α → List UInt8) : Encoding α :=
  ⟨(· == type), fun _ => bytes⟩

def bool : Encoding Bool :=
  only .bool fun b => [if b then 1 else 0]

def int16 : Encoding Int16 :=
  only .int2 fun n => Wire.ofInt 2 n.toInt

def int32 : Encoding Int32 :=
  only .int4 fun n => Wire.ofInt 4 n.toInt

def int64 : Encoding Int64 :=
  only .int8 fun n => Wire.ofInt 8 n.toInt

/-- Floats of single precision, by their words. -/
def float32 : Encoding UInt32 :=
  only .float4 fun word => Wire.bigEndian 4 word.toNat

def float64 : Encoding Binary64 :=
  only .float8 fun x => Wire.bigEndian 8 x.bits.toNat

/-- The types of labels in a tree and of patterns over them. Their texts start with a version
byte. -/
def versionedTexts : List String :=
  ["ltree", "lquery", "ltxtquery"]

def text : Encoding String where
  takes
    | .text | .varchar | .bpchar | .name | .unknown => true
    | .named type => type == "citext" || versionedTexts.contains type
    | _ => false
  bytes
    | .named type, s => if versionedTexts.contains type then 1 :: Wire.ofText s else Wire.ofText s
    | _, s => Wire.ofText s

def json : Encoding Json where
  takes
    | .json | .jsonb => true
    | _ => false
  bytes
    | .jsonb, v => 1 :: Wire.ofText v.compact
    | _, v => Wire.ofText v.compact

def uuid : Encoding Uuid :=
  only .uuid Uuid.bytes

def timestamp : Encoding Instant :=
  only .timestamptz fun t => Wire.ofInt 8 t.microseconds

end Encoding

/-! ## Parameters -/

namespace Param

/-- An integer, unless it is beyond the words of `count` bytes. -/
def fitting (count : Nat) (n : Int) : Except WireError Int :=
  if n < -(1 <<< (8 * count - 1) : Nat) then .error .tooSmall
  else if (1 <<< (8 * count - 1) : Nat) ≤ n then .error .tooLarge
  else .ok n

/-- Integers are narrowed for the columns that are narrower than they. -/
def encodeInt (n : Int64) : ColumnType → Except WireError Wire
  | .int2 => do Encoding.int16.send (Int16.ofInt (← fitting 2 n.toInt)) .int2
  | .int4 => do Encoding.int32.send (Int32.ofInt (← fitting 4 n.toInt)) .int4
  | type => Encoding.int64.send n type

def encodeFloat (x : Binary64) : ColumnType → Except WireError Wire
  | .float4 => Encoding.float32.send x.toBinary32 .float4
  | type => Encoding.float64.send x type

/-- Encode a parameter by its kind. -/
def encodeKind : Param → ColumnType → Except WireError Wire
  | .null, _ => .ok .null
  | .bool b, type => Encoding.bool.send b type
  | .int n, type => encodeInt n type
  | .float x, type => encodeFloat x type
  | .text s, type => Encoding.text.send s type
  | .json v, type => Encoding.json.send v type
  | .uuid u, type => Encoding.uuid.send u type
  | .timestamp t, type => Encoding.timestamp.send t type

/-- Whether any parameter may be sent as a column of the given type. No type is turned away here; it
is up to the kind of the parameter. -/
def accepts (_ : ColumnType) : Bool :=
  true

/-- What is sent for a parameter in a column of the given type. -/
def encode (p : Param) (type : ColumnType) : Except WireError Wire :=
  if accepts type then p.encodeKind type else .error .wrongType

end Param

end Clausal

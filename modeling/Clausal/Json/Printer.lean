import Clausal.Json.Basic
import Clausal.Number.Digits

/-!
# JSON text

Two layouts of one value: `Json.compact` has no blanks at all, `Json.pretty` puts every element on
a line of its own, indented by two blanks a level.
-/

namespace Clausal

/-! ## Numbers -/

/-- How a double is laid out: `d` are its shortest digits and `e` is the exponent of the first of
them. From `10 ^ -5` to below `10 ^ 16` it is written with a point and at least one digit after it,
outside that range with an exponent that always has a sign. -/
def layoutFloat (d : List Char) (e : Int) : List Char :=
  if -5 ≤ e ∧ e < 0 then
    '0' :: '.' :: List.replicate (-e - 1).toNat '0' ++ d
  else if 0 ≤ e ∧ e ≤ 15 then
    let whole := e.toNat + 1
    if d.length ≤ whole then d ++ List.replicate (whole - d.length) '0' ++ ['.', '0']
    else d.take whole ++ '.' :: d.drop whole
  else
    let fraction := match d.drop 1 with
      | [] => []
      | ds => '.' :: ds
    d.take 1 ++ fraction ++ 'e' :: (if e < 0 then '-' else '+') :: digitsOf e.natAbs

/-- The text of a finite double: the shortest digits that read back as the same number. -/
def FiniteBinary64.text (x : FiniteBinary64) : String :=
  let d := Decimal.shortest x.val
  let digits := digitsOf d.digits
  let body := layoutFloat digits (d.exponent + ((digits.length : Int) - 1))
  String.ofList (if x.val.isNegative then '-' :: body else body)

def WordInteger.text (n : WordInteger) : String :=
  String.ofList (if n.val < 0 then '-' :: digitsOf n.val.natAbs else digitsOf n.val.natAbs)

/-! ## Strings -/

/-- A character inside a JSON string. Only the quote, the backslash and the control characters
below the blank are escaped. -/
def Json.escapeChar (c : Char) : List Char :=
  if c = '"' then ['\\', '"']
  else if c = '\\' then ['\\', '\\']
  else if c = '\x08' then ['\\', 'b']
  else if c = '\x0c' then ['\\', 'f']
  else if c = '\n' then ['\\', 'n']
  else if c = '\r' then ['\\', 'r']
  else if c = '\t' then ['\\', 't']
  else if c.toNat < 0x20 then
    ['\\', 'u', '0', '0', hexDigit (c.toNat / 16), hexDigit (c.toNat % 16)]
  else [c]

def Json.quote (s : String) : String :=
  String.ofList ('"' :: s.toList.flatMap Json.escapeChar ++ ['"'])

namespace Json

/-! ## Compact layout -/

mutual

/-- The text of a value without blanks. -/
def compact : Json → String
  | .null => "null"
  | .bool true => "true"
  | .bool false => "false"
  | .integer n => n.text
  | .float x => x.text
  | .string s => quote s
  | .array items => "[" ++ compactItems items ++ "]"
  | .object fields => "\x7b" ++ compactFields fields ++ "\x7d"

/-- The elements of an array, separated by commas. -/
def compactItems : List Json → String
  | [] => ""
  | item :: items =>
    match items with
    | [] => compact item
    | _ :: _ => compact item ++ "," ++ compactItems items

/-- The fields of an object, separated by commas. -/
def compactFields : List (String × Json) → String
  | [] => ""
  | (key, value) :: fields =>
    match fields with
    | [] => quote key ++ ":" ++ compact value
    | _ :: _ => quote key ++ ":" ++ compact value ++ "," ++ compactFields fields

end

/-! ## Pretty layout -/

/-- A line break and the indentation of `level`. -/
def lineBreak (level : Nat) : String :=
  "\n" ++ String.ofList (List.replicate (2 * level) ' ')

mutual

/-- The text of a value at an indentation level; empty arrays and objects stay on one line. -/
def prettyAt (level : Nat) : Json → String
  | .array items =>
    match items with
    | [] => "[]"
    | _ :: _ => "[" ++ prettyItems (level + 1) items ++ lineBreak level ++ "]"
  | .object fields =>
    match fields with
    | [] => "\x7b\x7d"
    | _ :: _ => "\x7b" ++ prettyFields (level + 1) fields ++ lineBreak level ++ "\x7d"
  | .null => compact .null
  | .bool b => compact (.bool b)
  | .integer n => compact (.integer n)
  | .float x => compact (.float x)
  | .string s => compact (.string s)

/-- The elements of an array, each on a line of its own. -/
def prettyItems (level : Nat) : List Json → String
  | [] => ""
  | item :: items =>
    match items with
    | [] => lineBreak level ++ prettyAt level item
    | _ :: _ => lineBreak level ++ prettyAt level item ++ "," ++ prettyItems level items

/-- The fields of an object, each on a line of its own. -/
def prettyFields (level : Nat) : List (String × Json) → String
  | [] => ""
  | (key, value) :: fields =>
    match fields with
    | [] => lineBreak level ++ quote key ++ ": " ++ prettyAt level value
    | _ :: _ =>
      lineBreak level ++ quote key ++ ": " ++ prettyAt level value ++ ","
        ++ prettyFields level fields

end

def pretty (value : Json) : String :=
  prettyAt 0 value

end Json

end Clausal

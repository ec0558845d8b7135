import Clausal.Json.Number

/-!
# Reading JSON text

`Json.readValue?` reads one value and gives the text after it; `Json.parse?` reads a text that is
one value, `Json.nextDocument?` the first value of a stream. How deep arrays and objects may nest
is a parameter.
-/

namespace Clausal.Json

/-! ## Characters -/

def isBlank (c : Char) : Bool :=
  c == ' ' || c == '\t' || c == '\n' || c == '\r'

def skipBlanks (cs : List Char) : List Char :=
  cs.dropWhile isBlank

/-! ## Strings -/

/-- Read four hexadecimal digits. -/
def readUnit? : List Char → Option (Nat × List Char)
  | a :: b :: c :: d :: rest => do
    let a ← hexValue? a
    let b ← hexValue? b
    let c ← hexValue? c
    let d ← hexValue? d
    some (((a * 16 + b) * 16 + c) * 16 + d, rest)
  | _ => none

/-- Read the unit or the pair of units after a first `\u`. Surrogates count in pairs only. -/
def readUnits? (cs : List Char) : Option (Char × List Char) := do
  let (unit, rest) ← readUnit? cs
  if 0xD800 ≤ unit ∧ unit < 0xDC00 then
    match rest with
    | '\\' :: 'u' :: rest =>
      let (low, rest) ← readUnit? rest
      if 0xDC00 ≤ low ∧ low < 0xE000 then
        some (Char.ofNat (0x10000 + (unit - 0xD800) * 0x400 + (low - 0xDC00)), rest)
      else none
    | _ => none
  else if 0xDC00 ≤ unit ∧ unit < 0xE000 then none
  else some (Char.ofNat unit, rest)

/-- Read the rest of an escape, after its backslash. -/
def readEscape? : List Char → Option (Char × List Char)
  | '"' :: rest => some ('"', rest)
  | '\\' :: rest => some ('\\', rest)
  | '/' :: rest => some ('/', rest)
  | 'b' :: rest => some ('\x08', rest)
  | 'f' :: rest => some ('\x0c', rest)
  | 'n' :: rest => some ('\n', rest)
  | 'r' :: rest => some ('\r', rest)
  | 't' :: rest => some ('\t', rest)
  | 'u' :: rest => readUnits? rest
  | _ => none

/-- Read a string after its opening quote. `done` holds the characters before, the last first. -/
def readString? : Nat → List Char → List Char → Option (String × List Char)
  | 0, _, _ => none
  | _ + 1, _, [] => none
  | fuel + 1, done, c :: rest =>
    if c = '"' then some (String.ofList done.reverse, rest)
    else if c = '\\' then
      match readEscape? rest with
      | none => none
      | some (c, rest) => readString? fuel (c :: done) rest
    else if c.toNat < 0x20 then none
    else readString? fuel (c :: done) rest

/-! ## Values -/

/-- `rest` if the text is `word` followed by `rest`. -/
def readWord? (word : List Char) (cs : List Char) : Option (List Char) :=
  if word.isPrefixOf cs then some (cs.drop word.length) else none

/-- The room for nesting inside a value that is itself an array or an object. `none` is room
without end. -/
def enter? : Option Nat → Option (Option Nat)
  | none => some none
  | some 0 => none
  | some (n + 1) => some (some n)

mutual

/-- Read one value; `room` is how many arrays and objects may still stand inside one another. -/
def readValue? : Nat → Option Nat → List Char → Option (Json × List Char)
  | 0, _, _ => none
  | fuel + 1, room, cs =>
    match skipBlanks cs with
    | [] => none
    | c :: rest =>
      if c = 'n' then (readWord? ['u', 'l', 'l'] rest).map (.null, ·)
      else if c = 't' then (readWord? ['r', 'u', 'e'] rest).map (.bool true, ·)
      else if c = 'f' then (readWord? ['a', 'l', 's', 'e'] rest).map (.bool false, ·)
      else if c = '"' then
        (readString? (rest.length + 1) [] rest).map fun (s, rest) => (.string s, rest)
      else if c = '[' then
        match enter? room with
        | none => none
        | some room =>
          match skipBlanks rest with
          | ']' :: rest => some (.array [], rest)
          | rest => readItems? fuel room [] rest
      else if c = '\x7b' then
        match enter? room with
        | none => none
        | some room =>
          match skipBlanks rest with
          | '\x7d' :: rest => some (.object [], rest)
          | rest => readFields? fuel room [] rest
      else readNumber? (c :: rest)

/-- Read the elements of an array up to its end; `done` holds those before, the last first. -/
def readItems? : Nat → Option Nat → List Json → List Char → Option (Json × List Char)
  | 0, _, _, _ => none
  | fuel + 1, room, done, cs =>
    match readValue? fuel room cs with
    | none => none
    | some (item, rest) =>
      match skipBlanks rest with
      | ',' :: rest => readItems? fuel room (item :: done) rest
      | ']' :: rest => some (.array (item :: done).reverse, rest)
      | _ => none

/-- Read the fields of an object up to its end; `done` holds those before, the last first. -/
def readFields? : Nat → Option Nat → List (String × Json) → List Char →
    Option (Json × List Char)
  | 0, _, _, _ => none
  | fuel + 1, room, done, cs =>
    match skipBlanks cs with
    | '"' :: rest =>
      match readString? (rest.length + 1) [] rest with
      | none => none
      | some (key, rest) =>
        match skipBlanks rest with
        | ':' :: rest =>
          match readValue? fuel room rest with
          | none => none
          | some (value, rest) =>
            match skipBlanks rest with
            | ',' :: rest => readFields? fuel room ((key, value) :: done) rest
            | '\x7d' :: rest => some (.ofFields ((key, value) :: done).reverse, rest)
            | _ => none
        | _ => none
    | _ => none

end

/-- Read the value at the start of a text. Each level of the reader takes a character, so twice
the length of the text is more than it can use. -/
def readFirst? (room : Option Nat) (cs : List Char) : Option (Json × List Char) :=
  readValue? (2 * cs.length + 2) room cs

/-- The value that the whole text is. -/
def parse? (room : Option Nat) (text : String) : Option Json :=
  match readFirst? room text.toList with
  | some (value, rest) => if rest.all isBlank then some value else none
  | none => none

/-! ## Streams -/

/-- How deep the arrays and objects of a document may nest. -/
def documentRoom : Option Nat := some 127

/-- Strings, arrays and objects show where they end. -/
def endsItself : Json → Bool
  | .string _ => true
  | .array _ => true
  | .object _ => true
  | _ => false

/-- What may stand directly after a number or a literal. -/
def separates (c : Char) : Bool :=
  isBlank c || c == '"' || c == '[' || c == ']' || c == '\x7b' || c == '\x7d'
    || c == ',' || c == ':'

/-- The next document of a stream and the text after it. -/
def nextDocument? (cs : List Char) : Option (Json × List Char) :=
  match readFirst? documentRoom cs with
  | none => none
  | some (value, rest) =>
    if endsItself value || rest.head?.all separates then some (value, rest) else none

end Clausal.Json

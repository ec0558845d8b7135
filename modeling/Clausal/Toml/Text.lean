import Clausal.Number.Digits
import Clausal.Toml.Basic

/-!
# TOML strings and keys

Four kinds of string: with escapes or literal, on one line or on several. Readers are given the
text after the opening quotes.
-/

namespace Clausal.Toml

/-- Characters that may stand nowhere but in a line break; the tab is none of them. -/
def isControl (c : Char) : Bool :=
  (c.toNat < 0x20 && c != '\t') || c.toNat == 0x7F

def isSpace (c : Char) : Bool :=
  c == ' ' || c == '\t'

def skipSpaces (cs : List Char) : List Char :=
  cs.dropWhile isSpace

/-- What follows a line break. -/
def lineBreak? : List Char → Option (List Char)
  | '\n' :: rest => some rest
  | '\r' :: '\n' :: rest => some rest
  | _ => none

/-! ## Escapes -/

/-- The character with a code of `width` hexadecimal digits. -/
def readCode? (width : Nat) (cs : List Char) : Option (Char × List Char) := do
  let ds := cs.take width
  if ds.length ≠ width then none
  else
    let values ← ds.mapM hexValue?
    let code := values.foldl (fun n v => 16 * n + v) 0
    if code < 0xD800 ∨ (0xE000 ≤ code ∧ code < 0x110000) then
      some (Char.ofNat code, cs.drop width)
    else none

/-- Read the rest of an escape, after its backslash. -/
def readEscape? : List Char → Option (Char × List Char)
  | 'b' :: rest => some ('\x08', rest)
  | 't' :: rest => some ('\t', rest)
  | 'n' :: rest => some ('\n', rest)
  | 'f' :: rest => some ('\x0c', rest)
  | 'r' :: rest => some ('\r', rest)
  | 'e' :: rest => some ('\x1b', rest)
  | '"' :: rest => some ('"', rest)
  | '\\' :: rest => some ('\\', rest)
  | 'x' :: rest => readCode? 2 rest
  | 'u' :: rest => readCode? 4 rest
  | 'U' :: rest => readCode? 8 rest
  | _ => none

/-! ## Strings on one line -/

def readBasic? : Nat → List Char → List Char → Option (String × List Char)
  | 0, _, _ => none
  | _ + 1, _, [] => none
  | fuel + 1, done, c :: rest =>
    if c = '"' then some (String.ofList done.reverse, rest)
    else if c = '\\' then
      match readEscape? rest with
      | none => none
      | some (c, rest) => readBasic? fuel (c :: done) rest
    else if isControl c then none
    else readBasic? fuel (c :: done) rest

def readLiteral? (cs : List Char) : Option (String × List Char) :=
  let content := cs.takeWhile (· != '\x27')
  match cs.dropWhile (· != '\x27') with
  | _ :: rest => if content.any isControl then none else some (String.ofList content, rest)
  | [] => none

/-! ## Strings on several lines -/

/-- Whether only blanks stand before the next line break. -/
def endsLine (cs : List Char) : Bool :=
  (lineBreak? (skipSpaces cs)).isSome

/-- What follows blanks and line breaks. -/
def skipBreaks : List Char → List Char
  | ' ' :: cs => skipBreaks cs
  | '\t' :: cs => skipBreaks cs
  | '\n' :: cs => skipBreaks cs
  | '\r' :: '\n' :: cs => skipBreaks cs
  | cs => cs

/-- Read up to three quotes in a row; one or two may stand in the text, also just before the end. A
backslash at the end of a line takes away all blanks and breaks up to the next text; other line
breaks are kept as they are. -/
def readMultiline? (quote : Char) (escapes : Bool) :
    Nat → List Char → List Char → Option (String × List Char)
  | 0, _, _ => none
  | _ + 1, _, [] => none
  | fuel + 1, done, c :: rest =>
    if c = quote then
      let run := 1 + (rest.takeWhile (· == quote)).length
      if run < 3 then readMultiline? quote escapes fuel (c :: done) rest
      else
        -- The last three quotes of the run end the string; those before belong to it.
        let kept := min (run - 3) 2
        some (String.ofList (done.reverse ++ List.replicate kept quote), rest.drop (kept + 2))
    else if escapes && c == '\\' then
      if endsLine rest then readMultiline? quote escapes fuel done (skipBreaks rest)
      else
        match readEscape? rest with
        | none => none
        | some (c, rest) => readMultiline? quote escapes fuel (c :: done) rest
    else if isControl c && (lineBreak? (c :: rest)).isNone then none
    else readMultiline? quote escapes fuel (c :: done) rest

/-- Read a string on several lines; a break directly after the opening quotes does not count. -/
def readLines? (quote : Char) (escapes : Bool) (cs : List Char) : Option (String × List Char) :=
  let content := (lineBreak? cs).getD cs
  readMultiline? quote escapes (content.length + 1) [] content

/-- Read a string with its opening quotes. -/
def readString? : List Char → Option (String × List Char)
  | '"' :: '"' :: '"' :: rest => readLines? '"' true rest
  | '\x27' :: '\x27' :: '\x27' :: rest => readLines? '\x27' false rest
  | '"' :: rest => readBasic? (rest.length + 1) [] rest
  | '\x27' :: rest => readLiteral? rest
  | _ => none

/-! ## Keys -/

def isBareKeyChar (c : Char) : Bool :=
  c.isAlphanum || c == '_' || c == '-'

def readKey? : List Char → Option (String × List Char)
  | '"' :: rest => readBasic? (rest.length + 1) [] rest
  | '\x27' :: rest => readLiteral? rest
  | cs =>
    let name := cs.takeWhile isBareKeyChar
    if name.isEmpty then none else some (String.ofList name, cs.dropWhile isBareKeyChar)

/-- How many keys with dots between them may follow one another. -/
def pathLimit : Nat := 80

/-- Read at most `room` keys with dots between them, and the blanks around the dots; `done` holds
the keys before, the last first. -/
def readKeys? : Nat → List String → List Char → Option (List String × String × List Char)
  | 0, _, _ => none
  | room + 1, done, cs => do
    let (key, rest) ← readKey? (skipSpaces cs)
    match skipSpaces rest with
    | '.' :: rest => readKeys? room (key :: done) rest
    | rest => some (done.reverse, key, rest)

/-- Read the path to a place in a table. Gives the keys before the last, the last, and what
follows. -/
def readPath? (cs : List Char) : Option (List String × String × List Char) :=
  readKeys? pathLimit [] cs

end Clausal.Toml

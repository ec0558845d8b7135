import Clausal.Toml.Scalar
import Clausal.Toml.Text

/-!
# Reading TOML

`Toml.parse?` reads a document: a sequence of lines, each a header, a key with a value, or
nothing, with comments. Arrays and tables that are values may run over several lines.
-/

namespace Clausal.Toml

/-- How deep arrays and tables may stand inside one another within a value. -/
def nestingLimit : Nat := 80

/-! ## Lines -/

/-- What follows a comment, which is its line break. -/
def afterComment? (cs : List Char) : Option (List Char) :=
  let content := cs.takeWhile (· != '\n')
  let rest := cs.dropWhile (· != '\n')
  -- The carriage return of a line break is no part of the comment.
  let shown := if content.getLast? = some '\r' ∧ !rest.isEmpty then content.dropLast else content
  if shown.any isControl then none else some rest

/-- What follows the rest of a line, where nothing but a comment stands on it. -/
def afterLine? (cs : List Char) : Option (List Char) := do
  match skipSpaces cs with
  | [] => some []
  | '#' :: rest =>
    match ← afterComment? rest with
    | [] => some []
    | rest => lineBreak? rest
  | rest => lineBreak? rest

/-- What follows blanks, comments and line breaks. -/
def skipLines? : Nat → List Char → Option (List Char)
  | 0, _ => none
  | fuel + 1, cs =>
    match skipSpaces cs with
    | '#' :: rest => do skipLines? fuel (← afterComment? rest)
    | rest =>
      match lineBreak? rest with
      | some rest => skipLines? fuel rest
      | none => some rest

/-! ## Values -/

/-- Read the key of an entry up to the value. The equals sign may stand on a line of its own, but
not the parts of the key. -/
def readEntryKey? (cs : List Char) : Option (List String × String × List Char) := do
  let (path, key, rest) ← readPath? cs
  match ← skipLines? (rest.length + 1) rest with
  | '=' :: rest => some (path, key, ← skipLines? (rest.length + 1) rest)
  | _ => none

mutual

/-- Read a value; `room` is how many arrays and tables may still stand inside one another. -/
def readValue? : Nat → Nat → List Char → Option (Toml × List Char)
  | 0, _, _ => none
  | fuel + 1, room, cs =>
    match cs with
    | '[' :: rest => if room = 0 then none else readArray? fuel (room - 1) [] rest
    | '\x7b' :: rest => if room = 0 then none else readTable? fuel (room - 1) [] rest
    | '"' :: _ => (readString? cs).map fun (s, rest) => (.string s, rest)
    | '\x27' :: _ => (readString? cs).map fun (s, rest) => (.string s, rest)
    | _ =>
      let (word, rest) := readWord cs
      (scalar? word).map (·, rest)

/-- Read the elements of an array up to its end; `done` holds those before, the last first. -/
def readArray? : Nat → Nat → List Toml → List Char → Option (Toml × List Char)
  | 0, _, _, _ => none
  | fuel + 1, room, done, cs =>
    match skipLines? (cs.length + 1) cs with
    | none => none
    | some (']' :: rest) => some (.array done.reverse, rest)
    | some cs =>
      match readValue? fuel room cs with
      | none => none
      | some (item, rest) =>
        match skipLines? (rest.length + 1) rest with
        | some (',' :: rest) => readArray? fuel room (item :: done) rest
        | some (']' :: rest) => some (.array (item :: done).reverse, rest)
        | _ => none

/-- Read the entries of a table that is a value, up to its end. -/
def readTable? : Nat → Nat → Entries → List Char → Option (Toml × List Char)
  | 0, _, _, _ => none
  | fuel + 1, room, entries, cs =>
    match skipLines? (cs.length + 1) cs with
    | none => none
    | some ('\x7d' :: rest) => some (.table .inline entries, rest)
    | some cs =>
      match readEntryKey? cs with
      | none => none
      | some (path, key, rest) =>
        match readValue? fuel room rest with
        | none => none
        | some (value, rest) =>
          match define path key value entries, skipLines? (rest.length + 1) rest with
          | some entries, some (',' :: rest) => readTable? fuel room entries rest
          | some entries, some ('\x7d' :: rest) => some (.table .inline entries, rest)
          | _, _ => none

end

/-! ## Documents -/

/-- Read the lines of a document. `header` is the path of the last header, `root` what the lines
before have defined. -/
def readDocument? : Nat → List String → Entries → List Char → Option Entries
  | 0, _, _, _ => none
  | fuel + 1, header, root, cs =>
    match skipLines? (cs.length + 1) cs with
    | none => none
    | some [] => some root
    | some ('[' :: '[' :: rest) =>
      match readPath? rest with
      | some (path, key, ']' :: ']' :: rest) => do
        let root ← openElement path key root
        readDocument? fuel (path ++ [key]) root (← afterLine? rest)
      | _ => none
    | some ('[' :: rest) =>
      match readPath? rest with
      | some (path, key, ']' :: rest) => do
        let root ← openTable path key root
        readDocument? fuel (path ++ [key]) root (← afterLine? rest)
      | _ => none
    | some cs =>
      match readPath? cs with
      | some (path, key, '=' :: rest) => do
        let (value, rest) ← readValue? (2 * rest.length + 2) nestingLimit (skipSpaces rest)
        let root ← defineUnder header path key value root
        readDocument? fuel header root (← afterLine? rest)
      | _ => none

/-- The entries of a document. A byte order mark may stand before it. -/
def parse? (text : String) : Option Entries :=
  let cs := match text.toList with
    | '\uFEFF' :: cs => cs
    | cs => cs
  readDocument? (cs.length + 1) [] [] cs

end Clausal.Toml

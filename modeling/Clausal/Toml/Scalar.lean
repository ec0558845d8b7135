import Clausal.Number.Literal
import Clausal.Toml.Basic

/-!
# TOML scalars

Booleans, integers, floats, and dates and times: the values that are written without quotes. Each
reader looks at a whole word.
-/

namespace Clausal.Toml

open FloatLiteral (splitSign)

/-! ## Numbers -/

def isHexDigit (c : Char) : Bool :=
  (hexValue? c).isSome

/-- Whether every underscore has a digit on both sides. `before` says whether there is one before
the first character. -/
def underscoresFit (digit : Char → Bool) : Bool → List Char → Bool
  | _, [] => true
  | before, c :: cs =>
    if c = '_' then before && cs.head?.any digit && underscoresFit digit false cs
    else underscoresFit digit (digit c) cs

def withoutUnderscores (cs : List Char) : List Char :=
  cs.filter (· != '_')

/-- An unsigned integer in a base of at most sixteen. It may have no digits. -/
def based? (base : Nat) (cs : List Char) : Option Toml :=
  if cs.all (fun c => c == '_' || (hexValue? c).any (· < base))
      && underscoresFit isHexDigit false cs then
    some (.integer base (String.ofList (withoutUnderscores cs)))
  else none

/-- An integer in base ten, which has no leading zero. From the first underscore on, only the
characters next to underscores are looked at, and they may be digits of base sixteen. A sign
counts as a digit before an underscore. -/
def decimal? (sign cs : List Char) : Option Toml :=
  let tail := cs.dropWhile Char.isDigit
  if cs.isEmpty ∨ (cs.head? = some '0' ∧ cs ≠ ['0']) then none
  else if tail.head?.all (· == '_') && underscoresFit isHexDigit (!sign.isEmpty) cs then
    some (.integer 10 (String.ofList (sign ++ withoutUnderscores cs)))
  else none

def isDigitOrUnderscore (c : Char) : Bool :=
  c.isDigit || c == '_'

/-- What follows a run of digits and underscores with a digit in it. Where `zeros` is false a zero
may lead no other digit. -/
def afterDigits? (zeros : Bool) (cs : List Char) : Option (List Char) :=
  let count := ((cs.takeWhile isDigitOrUnderscore).filter Char.isDigit).length
  if count = 0 ∨ (!zeros ∧ 1 < count ∧ cs.head? = some '0') then none
  else some (cs.dropWhile isDigitOrUnderscore)

def afterFraction? : List Char → Option (List Char)
  | '.' :: cs => afterDigits? true cs
  | cs => some cs

def isExponentMark (c : Char) : Bool :=
  c == 'e' || c == 'E'

def afterExponent? : List Char → Option (List Char)
  | [] => some []
  | c :: cs => if isExponentMark c then afterDigits? true (splitSign cs).2 else some (c :: cs)

/-- A float: digits, and a fraction or an exponent or both. -/
def float? (sign cs : List Char) : Option Toml :=
  let rest := do afterExponent? (← afterFraction? (← afterDigits? false cs))
  if rest = some [] && underscoresFit Char.isDigit (!sign.isEmpty) cs then
    some (.float (String.ofList (sign ++ withoutUnderscores cs)))
  else none

/-- An integer in base ten or a float, without its sign. -/
def unsigned? (sign cs : List Char) : Option Toml :=
  if cs = ['i', 'n', 'f'] ∨ cs = ['n', 'a', 'n'] then some (.float (String.ofList (sign ++ cs)))
  else if cs.any fun c => c == '.' || isExponentMark c then float? sign cs
  else decimal? sign cs

def number? : List Char → Option Toml
  | '0' :: 'x' :: cs => based? 16 cs
  | '0' :: 'o' :: cs => based? 8 cs
  | '0' :: 'b' :: cs => based? 2 cs
  | '+' :: cs => unsigned? ['+'] cs
  | '-' :: cs => unsigned? ['-'] cs
  | cs => unsigned? [] cs

/-- The number that the text of an integer denotes. -/
def integerValue? (base : Nat) (text : String) : Option Int :=
  let (negative, ds) := splitSign text.toList
  if ds.isEmpty || !ds.all (fun c => (hexValue? c).any (· < base)) then none
  else
    let n := ds.foldl (fun n c => base * n + (hexValue? c).getD 0) 0
    some (if negative then -n else n)

/-! ## Dates and times -/

/-- A number of `width` digits and what follows it. -/
def fixed? (width : Nat) (cs : List Char) : Option (Nat × List Char) :=
  let ds := cs.take width
  if ds.length = width ∧ ds.all Char.isDigit then some (natOfDigits ds, cs.drop width) else none

def expect? (c : Char) : List Char → Option (List Char)
  | d :: rest => if d = c then some rest else none
  | [] => none

def daysIn (year month : Nat) : Nat :=
  if month = 2 then
    if year % 4 = 0 ∧ (year % 100 ≠ 0 ∨ year % 400 = 0) then 29 else 28
  else if month = 4 ∨ month = 6 ∨ month = 9 ∨ month = 11 then 30
  else 31

/-- What follows a date. -/
def afterDate? (cs : List Char) : Option (List Char) := do
  let (year, cs) ← fixed? 4 cs
  let (month, cs) ← fixed? 2 (← expect? '-' cs)
  let (day, cs) ← fixed? 2 (← expect? '-' cs)
  if 1 ≤ month ∧ month ≤ 12 ∧ 1 ≤ day ∧ day ≤ daysIn year month then some cs else none

/-- What follows the hour and the minute. -/
def afterMinute? (cs : List Char) : Option (List Char) := do
  let (hour, cs) ← fixed? 2 cs
  let (minute, cs) ← fixed? 2 (← expect? ':' cs)
  if hour ≤ 23 ∧ minute ≤ 59 then some cs else none

/-- What follows a time of day. Seconds may be left out. -/
def afterTime? (cs : List Char) : Option (List Char) := do
  match ← afterMinute? cs with
  | ':' :: cs =>
    let (second, cs) ← fixed? 2 cs
    if 60 < second then none
    else match cs with
      | '.' :: cs => if cs.head?.any Char.isDigit then some (cs.dropWhile Char.isDigit) else none
      | cs => some cs
  | cs => some cs

def isOffset : List Char → Bool
  | [] => true
  | ['Z'] => true
  | ['z'] => true
  | c :: cs => (c == '+' || c == '-') && afterMinute? cs == some []

def isMoment (cs : List Char) : Bool :=
  match afterDate? cs with
  | some [] => true
  | some (c :: cs) =>
    (c == 'T' || c == 't' || c == ' ') && (afterTime? cs).any isOffset
  | none => afterTime? cs == some []

/-! ## Words -/

def scalar? (cs : List Char) : Option Toml :=
  if cs = ['t', 'r', 'u', 'e'] then some (.boolean true)
  else if cs = ['f', 'a', 'l', 's', 'e'] then some (.boolean false)
  else if isMoment cs then some (.moment (String.ofList cs))
  else number? cs

/-- The characters that end a word. -/
def wordEnds : List Char :=
  ['=', ',', '[', ']', '\x7b', '\x7d', ' ', '\t', '#', '\r', '\n']

def isWordChar (c : Char) : Bool :=
  !wordEnds.contains c

/-- Read a word. A date and a time may have a blank between them. -/
def readWord (cs : List Char) : List Char × List Char :=
  let word := cs.takeWhile isWordChar
  match cs.dropWhile isWordChar with
  | ' ' :: rest =>
    if afterDate? word = some [] ∧ rest.head?.any Char.isDigit then
      (word ++ ' ' :: rest.takeWhile isWordChar, rest.dropWhile isWordChar)
    else (word, ' ' :: rest)
  | rest => (word, rest)

end Clausal.Toml

import Clausal.Json.Basic
import Clausal.Number.Literal

/-!
# JSON numbers

A literal is read in two steps. Its digits are collected into a significand of at most 64 bits and
a power of ten; integer digits that do not fit raise the power, fraction digits that do not fit
are dropped. The significand is then rounded to a double and multiplied or divided by the power,
each step rounding once more.
-/

namespace Clausal.Json

/-- The greatest significand that digits are collected into. -/
def significandLimit : Nat := 0xFFFFFFFFFFFFFFFF

/-- Append digits to a significand as long as it stays within the limit. Gives the significand, how
many digits it took, and the rest. -/
def readSignificand (m : Nat) : List Char → Nat × Nat × List Char
  | [] => (m, 0, [])
  | c :: cs =>
    if c.isDigit && 10 * m + digitValue c ≤ significandLimit then
      let (m, taken, rest) := readSignificand (10 * m + digitValue c) cs
      (m, taken + 1, rest)
    else (m, 0, c :: cs)

/-- The greatest power of ten that is applied in one step. -/
def powerLimit : Nat := 308

/-- `x · 10 ^ e`, with a rounding after each step; `none` where it is too large. A power below
`-powerLimit` is applied in several steps, and two of them leave nothing of any significand. -/
def scale? : Nat → Binary64 → Int → Option Binary64
  | 0, x, _ => some x
  | fuel + 1, x, e =>
    if e.natAbs ≤ powerLimit then
      if 0 ≤ e then
        let y := x.mul (.tenPow e.toNat)
        if y.isFinite then some y else none
      else some (x.div (.tenPow e.natAbs))
    -- Zero is zero at any power; anything else is too large or takes another step down.
    else if x.isZero then some x
    else if 0 ≤ e then none
    else scale? fuel (x.div (.tenPow powerLimit)) (e + powerLimit)

/-- The float `± m · 10 ^ e`. -/
def floatOfParts? (negative : Bool) (m : Nat) (e : Int) : Option Json := do
  let x ← scale? 4 (.ofNat m) e
  ofBinary64? (if negative then x.neg else x)

/-- The greatest exponent that is read digit by digit. -/
def exponentLimit : Nat := 0x7FFFFFFF

/-- Read what follows the digits: an exponent or nothing. An exponent beyond the limit is refused
when it would make the number large, and leaves zero otherwise. -/
def readScaled? (negative : Bool) (m : Nat) (e : Int) : List Char → Option (Json × List Char)
  | [] => (floatOfParts? negative m e).map (·, [])
  | c :: cs =>
    if c = 'e' ∨ c = 'E' then
      let (down, cs) := FloatLiteral.splitSign cs
      let digits := cs.takeWhile Char.isDigit
      let rest := cs.dropWhile Char.isDigit
      let power := natOfDigits digits
      if digits.isEmpty then none
      else if exponentLimit < power then
        if m ≠ 0 ∧ !down then none
        else (floatOfParts? negative 0 0).map (·, rest)
      else (floatOfParts? negative m (if down then e - power else e + power)).map (·, rest)
    else (floatOfParts? negative m e).map (·, c :: cs)

/-- Read the digits after a point; there has to be one at least. -/
def readFraction? (negative : Bool) (m : Nat) (e : Int) (cs : List Char) :
    Option (Json × List Char) :=
  if cs.head?.any Char.isDigit then
    let (m, taken, rest) := readSignificand m cs
    readScaled? negative m (e - taken) (rest.dropWhile Char.isDigit)
  else none

/-- The integer `± m`, which is a float where no word holds it; so is negative zero. -/
def integerOfParts? (negative : Bool) (m : Nat) : Option Json :=
  if negative then
    if m = 0 ∨ 0x8000000000000000 < m then floatOfParts? true m 0 else ofInt? (-m)
  else ofInt? m

/-- Read what follows the whole digits: a fraction, an exponent or nothing. The significand has left
out `surplus` digits, which count as powers of ten. -/
def readTail? (negative : Bool) (m surplus : Nat) : List Char → Option (Json × List Char)
  | [] =>
    if surplus ≠ 0 then readScaled? negative m surplus []
    else (integerOfParts? negative m).map (·, [])
  | c :: cs =>
    if c = '.' then readFraction? negative m surplus cs
    else if c = 'e' ∨ c = 'E' ∨ surplus ≠ 0 then readScaled? negative m surplus (c :: cs)
    else (integerOfParts? negative m).map (·, c :: cs)

/-- Read an unsigned number. Only a lone zero may be a leading zero. -/
def readMagnitude? (negative : Bool) (cs : List Char) : Option (Json × List Char) :=
  let (m, taken, rest) := readSignificand 0 cs
  if taken = 0 ∨ (cs.head? = some '0' ∧ 1 < taken) then none
  else
    readTail? negative m (rest.takeWhile Char.isDigit).length (rest.dropWhile Char.isDigit)

/-- Read a number, with a minus sign or without one. -/
def readNumber? : List Char → Option (Json × List Char)
  | '-' :: cs => readMagnitude? true cs
  | cs => readMagnitude? false cs

end Clausal.Json

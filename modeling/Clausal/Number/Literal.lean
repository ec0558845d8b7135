import Clausal.Number.Digits
import Clausal.Number.Shortest

/-!
# Decimal literals

Text of the form `[sign] digits [. digits] [e [sign] digits]`, or the name of an infinity or of
not-a-number in any case, read as the nearest word of a floating-point format. A digit has to
stand on at least one side of the point.
-/

namespace Clausal

/-- A literal before it is rounded. -/
inductive FloatLiteral where
  | number (negative : Bool) (magnitude : Decimal)
  | infinity (negative : Bool)
  | notANumber (negative : Bool)
  deriving DecidableEq, Repr

namespace FloatLiteral

/-- A leading sign and the rest; no sign counts as plus. -/
def splitSign : List Char → Bool × List Char
  | '-' :: cs => (true, cs)
  | '+' :: cs => (false, cs)
  | cs => (false, cs)

/-- The exponent part, `0` where there is none. -/
def readExponent? : List Char → Option Int
  | [] => some 0
  | c :: cs =>
    if c = 'e' ∨ c = 'E' then
      let (negative, ds) := splitSign cs
      if ds.isEmpty || !ds.all Char.isDigit then none
      else some (if negative then -(natOfDigits ds : Int) else natOfDigits ds)
    else none

def readDecimal? (cs : List Char) : Option Decimal :=
  let whole := cs.takeWhile Char.isDigit
  let rest := cs.dropWhile Char.isDigit
  let (fraction, rest) := match rest with
    | '.' :: rest => (rest.takeWhile Char.isDigit, rest.dropWhile Char.isDigit)
    | rest => ([], rest)
  if whole.isEmpty && fraction.isEmpty then none
  else (readExponent? rest).map fun e =>
    ⟨natOfDigits (whole ++ fraction), e - (fraction.length : Nat)⟩

def read? (text : String) : Option FloatLiteral :=
  let (negative, cs) := splitSign text.toList
  let name := String.ofList (cs.map Char.toLower)
  if name = "inf" ∨ name = "infinity" then some (.infinity negative)
  else if name = "nan" then some (.notANumber negative)
  else (readDecimal? cs).map (.number negative)

/-- The word of format `f` nearest to the literal. The magnitude is settled by its leading digit
alone where that lies far outside the range of every format. -/
def toWord (f : FloatFormat) : FloatLiteral → Nat
  | .infinity negative => (if negative then f.signBit else 0) + f.infinity
  | .notANumber negative => (if negative then f.signBit else 0) + f.quietNaN
  | .number negative d =>
    let top := (Decimal.length d.digits : Int) + d.exponent
    if d.digits = 0 ∨ top < -400 then f.round negative 0 1
    else if 400 < top then (if negative then f.signBit else 0) + f.infinity
    else f.round negative d.ratio.1 d.ratio.2

end FloatLiteral

/-- The double nearest to the literal `text`. -/
def Binary64.ofText? (text : String) : Option Binary64 :=
  (FloatLiteral.read? text).map fun l => .ofWord (l.toWord .binary64)

/-- The single-precision number nearest to the literal `text`, as a double. -/
def Binary64.ofSingleText? (text : String) : Option Binary64 :=
  (FloatLiteral.read? text).map fun l => .ofBinary32 (UInt32.ofNat (l.toWord .binary32))

end Clausal

/-!
# Binary floating-point words

Words of the interchange formats, decoded and rounded in exact arithmetic on natural numbers.
A word stands for `± significand · 2 ^ exponent`; `FloatFormat.round` gives the word nearest to a
ratio, and the operations on `Binary64` are the exact result followed by that rounding.
-/

namespace Clausal

/-- `num / den` rounded to the nearest natural number, a half going to the even neighbour. -/
def roundHalfEven (num den : Nat) : Nat :=
  let quotient := num / den
  let twice := 2 * (num % den)
  if den < twice ∨ (twice = den ∧ quotient % 2 = 1) then quotient + 1 else quotient

/-- The greatest `e` with `2 ^ e ≤ num / den`, for positive `num` and `den`. -/
def floorLog2 (num den : Nat) : Int :=
  let e : Int := (num.log2 : Int) - (den.log2 : Int)
  let reached := if 0 ≤ e then den <<< e.toNat ≤ num else den ≤ num <<< (-e).toNat
  if reached then e else e - 1

/-! ## Formats -/

/-- The layout of a word: a sign bit, an exponent field and a fraction field. -/
structure FloatFormat where
  exponentBits : Nat
  fractionBits : Nat
  deriving DecidableEq, Repr

namespace FloatFormat

def binary64 : FloatFormat := ⟨11, 52⟩
def binary32 : FloatFormat := ⟨8, 23⟩

/-- The exponent of the last place of the smallest numbers. -/
def minExponent (f : FloatFormat) : Int :=
  2 - (1 <<< (f.exponentBits - 1) : Nat) - (f.fractionBits : Nat)

/-- The word of positive infinity: all exponent bits set, no fraction bit. -/
def infinity (f : FloatFormat) : Nat :=
  ((1 <<< f.exponentBits) - 1) <<< f.fractionBits

def signBit (f : FloatFormat) : Nat :=
  1 <<< (f.exponentBits + f.fractionBits)

/-- The quiet not-a-number word without payload. -/
def quietNaN (f : FloatFormat) : Nat :=
  f.infinity + (1 <<< (f.fractionBits - 1))

/-- The word nearest to `num / den`, ties to even. Counting the last places from `minExponent`
and adding the significand lets a carry out of the fraction reach the exponent field. -/
def roundMagnitude (f : FloatFormat) (num den : Nat) : Nat :=
  if num = 0 then 0 else
    let e := max f.minExponent (floorLog2 num den - (f.fractionBits : Nat))
    let m := if 0 ≤ e then roundHalfEven num (den <<< e.toNat)
      else roundHalfEven (num <<< (-e).toNat) den
    min f.infinity (((e - f.minExponent).toNat <<< f.fractionBits) + m)

/-- The word nearest to `± num / den`. -/
def round (f : FloatFormat) (negative : Bool) (num den : Nat) : Nat :=
  (if negative then f.signBit else 0) + f.roundMagnitude num den

def isNegative (f : FloatFormat) (word : Nat) : Bool :=
  f.signBit ≤ word

def exponentField (f : FloatFormat) (word : Nat) : Nat :=
  (word >>> f.fractionBits) % (1 <<< f.exponentBits)

def fractionField (f : FloatFormat) (word : Nat) : Nat :=
  word % (1 <<< f.fractionBits)

def isFinite (f : FloatFormat) (word : Nat) : Bool :=
  f.exponentField word != (1 <<< f.exponentBits) - 1

def isNaN (f : FloatFormat) (word : Nat) : Bool :=
  !f.isFinite word && f.fractionField word != 0

def significand (f : FloatFormat) (word : Nat) : Nat :=
  if f.exponentField word = 0 then f.fractionField word
  else (1 <<< f.fractionBits) + f.fractionField word

def exponent (f : FloatFormat) (word : Nat) : Int :=
  f.minExponent + ((f.exponentField word - 1 : Nat) : Int)

/-- The magnitude of a finite word as a ratio. -/
def ratio (f : FloatFormat) (word : Nat) : Nat × Nat :=
  let e := f.exponent word
  if 0 ≤ e then (f.significand word <<< e.toNat, 1) else (f.significand word, 1 <<< (-e).toNat)

/-- A word of one format as a word of another: numbers are rounded, infinities kept, and a
not-a-number becomes the quiet one of its sign. -/
def convert (source target : FloatFormat) (word : Nat) : Nat :=
  let sign := if source.isNegative word then target.signBit else 0
  if source.isFinite word then
    let r := source.ratio word
    target.round (source.isNegative word) r.1 r.2
  else if source.isNaN word then sign + target.quietNaN
  else sign + target.infinity

end FloatFormat

/-! ## Double precision -/

/-- A double-precision word. Equality is equality of words. -/
structure Binary64 where
  bits : UInt64
  deriving DecidableEq, Repr

namespace Binary64

def ofWord (word : Nat) : Binary64 :=
  ⟨UInt64.ofNat word⟩

def word (x : Binary64) : Nat :=
  x.bits.toNat

/-- The double nearest to `± num / den`. -/
def ofRatio (negative : Bool) (num den : Nat) : Binary64 :=
  ofWord (FloatFormat.binary64.round negative num den)

def ofNat (n : Nat) : Binary64 :=
  ofRatio false n 1

def isNegative (x : Binary64) : Bool :=
  FloatFormat.binary64.isNegative x.word

def isFinite (x : Binary64) : Bool :=
  FloatFormat.binary64.isFinite x.word

def significand (x : Binary64) : Nat :=
  FloatFormat.binary64.significand x.word

def exponent (x : Binary64) : Int :=
  FloatFormat.binary64.exponent x.word

def isZero (x : Binary64) : Bool :=
  x.isFinite && x.significand == 0

/-- `x` with its sign turned. -/
def neg (x : Binary64) : Binary64 :=
  if x.isNegative then ofWord (x.word - FloatFormat.binary64.signBit)
  else ofWord (x.word + FloatFormat.binary64.signBit)

/-- The product of two finite doubles, rounded once. -/
def mul (x y : Binary64) : Binary64 :=
  let p := FloatFormat.binary64.ratio x.word
  let q := FloatFormat.binary64.ratio y.word
  ofRatio (x.isNegative != y.isNegative) (p.1 * q.1) (p.2 * q.2)

/-- The quotient of a finite double and a finite double other than zero, rounded once. -/
def div (x y : Binary64) : Binary64 :=
  let p := FloatFormat.binary64.ratio x.word
  let q := FloatFormat.binary64.ratio y.word
  ofRatio (x.isNegative != y.isNegative) (p.1 * q.2) (p.2 * q.1)

/-- The double nearest to `10 ^ n`. -/
def tenPow (n : Nat) : Binary64 :=
  ofNat (Nat.pow 10 n)

/-- The single-precision word nearest to `x`. -/
def toBinary32 (x : Binary64) : UInt32 :=
  UInt32.ofNat (FloatFormat.convert .binary64 .binary32 x.word)

/-- The double with the value of a single-precision word. -/
def ofBinary32 (word : UInt32) : Binary64 :=
  ofWord (FloatFormat.convert .binary32 .binary64 word.toNat)

end Binary64

end Clausal

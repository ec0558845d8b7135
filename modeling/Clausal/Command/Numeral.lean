import Clausal.Number.Digits

/-!
# Word numerals

Decimal numerals of natural numbers that fit a 64-bit word, read from left to right up to the
first fault.
-/

namespace Clausal

inductive NumeralFault where
  | empty
  | badDigit
  | tooLarge
  deriving DecidableEq, Repr

namespace NumeralFault

def message : NumeralFault → String
  | empty => "cannot parse integer from empty string"
  | badDigit => "invalid digit found in string"
  | tooLarge => "number too large to fit in target type"

end NumeralFault

namespace Numeral

/-- Append digits to the number `n`. -/
def readDigits (n : Nat) : List Char → Except NumeralFault Nat
  | [] => .ok n
  | c :: cs =>
    if !c.isDigit then .error .badDigit
    else if 0x10000000000000000 ≤ 10 * n + digitValue c then .error .tooLarge
    else readDigits (10 * n + digitValue c) cs

/-- Read a numeral; one plus sign may stand before it. -/
def read (text : String) : Except NumeralFault Nat :=
  match text.toList with
  | [] => .error .empty
  | ['+'] => .error .badDigit
  | '+' :: cs => readDigits 0 cs
  | cs => readDigits 0 cs

end Numeral

end Clausal

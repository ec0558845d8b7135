import Clausal.Number.Binary64

/-!
# Shortest decimals

The decimal with the fewest digits that rounds to a given double. On the grid of all decimals
with a given number of digits only the two neighbours of the double need a look: if any point of
the grid rounds to it, so does one of them.
-/

namespace Clausal

/-- The number `digits · 10 ^ exponent`. -/
structure Decimal where
  digits : Nat
  exponent : Int
  deriving DecidableEq, Repr

namespace Decimal

/-- The number as a ratio. -/
def ratio (d : Decimal) : Nat × Nat :=
  if 0 ≤ d.exponent then (d.digits * Nat.pow 10 d.exponent.toNat, 1)
  else (d.digits, Nat.pow 10 (-d.exponent).toNat)

/-- The double nearest to the number, with the given sign. -/
def toBinary64 (negative : Bool) (d : Decimal) : Binary64 :=
  Binary64.ofRatio negative d.ratio.1 d.ratio.2

/-- The same number without trailing zeros, of which at most `fuel` are taken away. -/
def strip : Nat → Decimal → Decimal
  | 0, d => d
  | fuel + 1, d =>
    if d.digits ≠ 0 ∧ d.digits % 10 = 0 then strip fuel ⟨d.digits / 10, d.exponent + 1⟩ else d

/-- How many decimal digits `n` is written with. -/
def length (n : Nat) : Nat :=
  (Nat.toDigits 10 n).length

/-- The greatest `e` with `10 ^ e ≤ num / den`, for positive `num` and `den`. -/
def floorLog10 (num den : Nat) : Int :=
  let e : Int := (length num : Int) - (length den : Int)
  let reached :=
    if 0 ≤ e then den * Nat.pow 10 e.toNat ≤ num else den ≤ num * Nat.pow 10 (-e).toNat
  if reached then e else e - 1

/-- The greatest multiple of `10 ^ e` that is at most `num / den`. -/
def floorAt (num den : Nat) (e : Int) : Decimal :=
  if 0 ≤ e then ⟨num / (den * Nat.pow 10 e.toNat), e⟩
  else ⟨num * Nat.pow 10 (-e).toNat / den, e⟩

/-- Whether `num / den` lies nearer to `d` than to the next point of its grid; half-way an even
last digit counts as nearer. -/
def isNearest (d : Decimal) (num den : Nat) : Bool :=
  let middle := (⟨2 * d.digits + 1, d.exponent⟩ : Decimal).ratio
  let left := 2 * num * middle.2
  let right := middle.1 * den
  left < right || (left == right && d.digits % 2 == 0)

/-- The neighbour of `num / den` on the grid of `10 ^ e` that rounds to `x`, the nearer one if
both do. -/
def neighbour? (x : Binary64) (num den : Nat) (e : Int) : Option Decimal :=
  let below := floorAt num den e
  let above : Decimal := ⟨below.digits + 1, e⟩
  match below.toBinary64 false == x, above.toBinary64 false == x with
  | true, true => some (if below.isNearest num den then below else above)
  | true, false => some below
  | false, true => some above
  | false, false => none

/-- The shortest decimal that rounds to the magnitude of the finite double `x`; seventeen digits
are always enough. -/
def shortest (x : Binary64) : Decimal :=
  if x.isZero then ⟨0, 0⟩ else
    let magnitude := if x.isNegative then x.neg else x
    let r := FloatFormat.binary64.ratio magnitude.word
    let top := floorLog10 r.1 r.2
    -- The grids become finer: the first that has a point rounding to `x` has the fewest digits.
    match (List.range 17).findSome? fun n => neighbour? magnitude r.1 r.2 (top - (n : Nat)) with
    | some d => d.strip 17
    | none => ⟨0, 0⟩

end Decimal

end Clausal

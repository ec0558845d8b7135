import Clausal.Number.Digits

/-!
# Instants

A point in time, in seconds since the start of 1970 and nanoseconds. During a leap second the
nanoseconds run on past one thousand million.
-/

namespace Clausal

structure Instant where
  seconds : Int
  nanos : Nat
  deriving DecidableEq

/-! ## Calendar -/

/-- A day of the proleptic Gregorian calendar. -/
structure CivilDate where
  year : Int
  month : Nat
  day : Nat
  deriving DecidableEq, Repr

/-- The date `days` days after 1970-01-01. Counting years from March puts the leap day last, so
that the lengths of the months before it follow one rule. -/
def CivilDate.ofDays (days : Int) : CivilDate :=
  let shifted := days + 719468
  let era := shifted.fdiv 146097
  let dayOfEra := (shifted.fmod 146097).toNat
  let yearOfEra := (dayOfEra - dayOfEra / 1460 + dayOfEra / 36524 - dayOfEra / 146096) / 365
  let dayOfYear := dayOfEra - (365 * yearOfEra + yearOfEra / 4 - yearOfEra / 100)
  let fromMarch := (5 * dayOfYear + 2) / 153
  let day := dayOfYear - (153 * fromMarch + 2) / 5 + 1
  let month := if fromMarch < 10 then fromMarch + 3 else fromMarch - 9
  ⟨era * 400 + yearOfEra + (if month ≤ 2 then 1 else 0), month, day⟩

/-! ## Text -/

/-- The digits of `n`, with zeros in front up to `width`. -/
def padded (width n : Nat) : List Char :=
  let ds := digitsOf n
  List.replicate (width - ds.length) '0' ++ ds

/-- Four digits; outside the years 0 to 9999 a sign comes before them, and more digits follow if
the year needs them. -/
def yearText (year : Int) : List Char :=
  if 0 ≤ year ∧ year ≤ 9999 then padded 4 year.toNat
  else (if year < 0 then '-' else '+') :: padded 4 year.natAbs

/-- The fraction of a second, in as few groups of three digits as are exact. -/
def fractionText (nanos : Nat) : List Char :=
  if nanos = 0 then []
  else if nanos % 1000000 = 0 then '.' :: padded 3 (nanos / 1000000)
  else if nanos % 1000 = 0 then '.' :: padded 6 (nanos / 1000)
  else '.' :: padded 9 nanos

namespace Instant

/-- The date and the time of day, with the offset of Coordinated Universal Time. A leap second is
the sixtieth of its minute. -/
def text (t : Instant) : String :=
  let date := CivilDate.ofDays (t.seconds.fdiv 86400)
  let second := (t.seconds.fmod 86400).toNat
  let leap := t.nanos / 1000000000
  String.ofList (yearText date.year ++ '-' :: padded 2 date.month ++ '-' :: padded 2 date.day
    ++ 'T' :: padded 2 (second / 3600) ++ ':' :: padded 2 (second / 60 % 60)
    ++ ':' :: padded 2 (second % 60 + leap) ++ fractionText (t.nanos % 1000000000)
    ++ ['+', '0', '0', ':', '0', '0'])

/-- Seconds from the start of 1970 to the start of 2000. -/
def centuryStart : Int := 946684800

/-- Microseconds since the start of 2000, without the part below a microsecond. -/
def microseconds (t : Instant) : Int :=
  ((t.seconds - centuryStart) * 1000000000 + t.nanos).tdiv 1000

end Instant

end Clausal

/-
# Points in time

An instant is a number of seconds since the first of January 1970, together with nanoseconds.
Nanoseconds of a whole second and more denote the leap second that follows the given second.
The text of an instant is its date and time of day at Greenwich, after the calendar standard
for the internet: four digits of year at least, a fraction of three, six or nine digits as
needed, and a final `Z`.
-/

namespace Garage

/-- A point in time. -/
structure Instant where
  /-- Seconds since the start of 1970, at Greenwich. -/
  seconds : Int
  /-- Nanoseconds after that; from `10 ^ 9` on they lie in a leap second. -/
  nanos : Nat
deriving DecidableEq, Repr

/-- A day of the Gregorian calendar. -/
structure Date where
  year : Int
  month : Nat
  day : Nat
deriving DecidableEq, Repr

/-- The date that lies `days` days after the first of January 1970.

The calendar repeats every 400 years, which are 146097 days.  Years are counted from March here,
so that a leap day ends its year and every month starts at a fixed day of the year. -/
def Date.ofDays (days : Int) : Date :=
  let shifted := days + 719468
  let era := shifted.fdiv 146097
  let dayOfEra := (shifted.fmod 146097).toNat
  let yearOfEra :=
    (dayOfEra - dayOfEra / 1460 + dayOfEra / 36524 - dayOfEra / 146096) / 365
  let dayOfYear := dayOfEra - (365 * yearOfEra + yearOfEra / 4 - yearOfEra / 100)
  let monthFromMarch := (5 * dayOfYear + 2) / 153
  let day := dayOfYear - (153 * monthFromMarch + 2) / 5 + 1
  let month := if monthFromMarch < 10 then monthFromMarch + 3 else monthFromMarch - 9
  let year := era * 400 + yearOfEra
  ⟨if month ≤ 2 then year + 1 else year, month, day⟩

namespace Instant

/-- A number in decimal digits, filled up with zeros from the left. -/
def padded (width n : Nat) : List Char :=
  let digits := Nat.toDigits 10 n
  List.replicate (width - digits.length) '0' ++ digits

/-- A year: four digits from 0 to 9999, otherwise a sign and four digits at least. -/
def yearText (year : Int) : List Char :=
  if 0 ≤ year ∧ year ≤ 9999 then padded 4 year.toNat
  else (if year < 0 then '-' else '+') :: padded 4 year.natAbs

/-- The fraction of a second: none, or a point and the fewest of three, six and nine digits
that lose nothing. -/
def fractionText (nanos : Nat) : List Char :=
  if nanos = 0 then []
  else if nanos % 1000000 = 0 then '.' :: padded 3 (nanos / 1000000)
  else if nanos % 1000 = 0 then '.' :: padded 6 (nanos / 1000)
  else '.' :: padded 9 nanos

/-- The instant in full.  In a leap second the seconds are one more than those of the second
before it. -/
def text (t : Instant) : List Char :=
  let date := Date.ofDays (t.seconds.fdiv 86400)
  let secondOfDay := (t.seconds.fmod 86400).toNat
  let leap := t.nanos / 1000000000
  yearText date.year ++ ['-'] ++ padded 2 date.month ++ ['-'] ++ padded 2 date.day ++ ['T']
    ++ padded 2 (secondOfDay / 3600) ++ [':'] ++ padded 2 (secondOfDay / 60 % 60) ++ [':']
    ++ padded 2 (secondOfDay % 60 + leap) ++ fractionText (t.nanos % 1000000000) ++ ['Z']

end Instant

end Garage

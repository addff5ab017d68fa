/-!
# Calendar dates

Dates of the proleptic Gregorian calendar and their day numbers, counted from 1970-01-01. A day
number is split by the cycles of the calendar: 400 years, a century, four years and a year, the last
century and the last year of a cycle being one day longer.
-/

namespace PagedListing.Time

/-- A date of the proleptic Gregorian calendar; the year 0 is the year before the year 1. -/
structure Date where
  year : Int
  month : Nat
  day : Nat
  deriving DecidableEq, Inhabited

/-- A year is a leap year when 4 divides it, centuries only when 400 does. -/
def isLeapYear (year : Int) : Bool :=
  year % 4 = 0 ∧ (year % 100 ≠ 0 ∨ year % 400 = 0)

/-- The lengths of the months of a year. -/
def monthLengths (leap : Bool) : List Nat :=
  [31, if leap then 29 else 28, 31, 30, 31, 30, 31, 31, 30, 31, 30, 31]

/-- The days before a month of a year. -/
def daysBeforeMonth (leap : Bool) (month : Nat) : Nat :=
  ((monthLengths leap).take (month - 1)).foldr (· + ·) 0

/-- The days from 0001-01-01 to the first day of a year. -/
def daysBeforeYear (year : Int) : Int :=
  let y := year - 1
  365 * y + y / 4 - y / 100 + y / 400

/-- The days from 0001-01-01 to 1970-01-01. -/
def epochDay : Int := 719162

/-- The month and the day of the month, from the position of a day in the months that follow. -/
def monthAndDay : List Nat → Nat → Nat → Nat × Nat
  | [], month, dayOfYear => (month, dayOfYear + 1)
  | length :: rest, month, dayOfYear =>
    if dayOfYear < length then (month, dayOfYear + 1)
    else monthAndDay rest (month + 1) (dayOfYear - length)

namespace Date

/-- The month exists and has the day. -/
def isValid (d : Date) : Bool :=
  1 ≤ d.month && 1 ≤ d.day &&
    (monthLengths (isLeapYear d.year))[d.month - 1]?.any (d.day ≤ ·)

/-- The years that dates are kept for. -/
def firstYear : Int := -262143

/-- The last of the years that dates are kept for. -/
def lastYear : Int := 262142

/-- The year is one that dates are kept for. -/
def inRange (d : Date) : Bool :=
  firstYear ≤ d.year ∧ d.year ≤ lastYear

/-- The days from 1970-01-01 to the date. -/
def dayNumber (d : Date) : Int :=
  daysBeforeYear d.year + (daysBeforeMonth (isLeapYear d.year) d.month + d.day : Nat) - 1 - epochDay

/-- The date with a day number. -/
def ofDayNumber (n : Int) : Date :=
  let days := n + epochDay
  let cycle := (days % 146097).toNat
  let century := min (cycle / 36524) 3
  let inCentury := cycle - century * 36524
  let quad := inCentury / 1461
  let inQuad := inCentury % 1461
  let single := min (inQuad / 365) 3
  let year : Int := 400 * (days / 146097) + (100 * century + 4 * quad + single + 1 : Nat)
  let (month, day) := monthAndDay (monthLengths (isLeapYear year)) 1 (inQuad - single * 365)
  ⟨year, month, day⟩

end Date

/-- The date with a day number, if its year is one that dates are kept for. -/
def dateOfDay? (n : Int) : Option Date :=
  let d := Date.ofDayNumber n
  if d.inRange then some d else none

end PagedListing.Time

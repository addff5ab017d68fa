import PagedListing.Sql.Cast.Calendar

/-!
# Casts to intervals

An interval is a series of numbers with units, or a time, which ends the series. Years are kept as
months, weeks as days and all shorter units as microseconds; the word `ago` turns the sign of all that
stands before it.
-/

namespace PagedListing.Sql.Cast

open PagedListing.Number (fitsSigned)
open PagedListing.Time (Scan)

/-- An interval. -/
structure Span where
  months : Int := 0
  days : Int := 0
  micros : Int := 0
  deriving DecidableEq, Inhabited

namespace Span

/-- The sum of two intervals. -/
def add (a b : Span) : Span :=
  ⟨a.months + b.months, a.days + b.days, a.micros + b.micros⟩

/-- The interval with its sign turned. -/
def negate (a : Span) : Span :=
  ⟨-a.months, -a.days, -a.micros⟩

end Span

/-- A unit of intervals: so many months, days or microseconds. -/
inductive SpanUnit where
  | months (count : Nat)
  | days (count : Nat)
  | micros (count : Nat)

/-- The units by their names in small letters. -/
def spanUnits : List (List String × SpanUnit) :=
  [(["millennium", "millennia", "millenium", "mil", "mils"], .months 12000),
   (["century", "centuries", "cent", "c"], .months 1200),
   (["decade", "decades", "dec", "decs"], .months 120),
   (["year", "years", "yr", "y"], .months 12),
   (["quarter", "quarters"], .months 3),
   (["month", "months", "mon", "mons"], .months 1),
   (["week", "weeks", "w"], .days 7),
   (["day", "days", "d"], .days 1),
   (["hour", "hours", "hr", "h"], .micros 3600000000),
   (["minute", "minutes", "min", "m"], .micros 60000000),
   (["second", "seconds", "sec", "s"], .micros 1000000),
   (["millisecond", "milliseconds", "ms", "msec", "msecs", "msecond", "mseconds"], .micros 1000),
   (["microsecond", "microseconds", "us", "usec", "usecs", "usecond", "useconds"], .micros 1)]

/-- The unit with a name in any case. -/
def spanUnit? (name : List Char) : Option SpanUnit :=
  let lower := String.ofList (name.map Char.toLower)
  (spanUnits.find? (·.1.contains lower)).map (·.2)

/-- A number of units and a fraction of one in millionths. A fraction of a month counts thirtieths as
days, and a fraction of a day counts microseconds. -/
def SpanUnit.span (unit : SpanUnit) (number : Int) (fraction : Int) : Span :=
  match unit with
  | months 1 => { months := number, days := (fraction * 30).tdiv 1000000 }
  | months count => { months := number * count + (fraction * count).tdiv 1000000 }
  | days count => { days := number * count, micros := fraction * count * 86400 }
  | micros count => { micros := number * count + (fraction * count).tdiv 1000000 }

/-- The millionths in a fraction, if one stands here; further digits are passed over. -/
def millionths : Scan Int := do
  let nanos ← fraction 6
  return ((nanos / 1000 : Nat) : Int)

/-- The letters of a unit after any white space. -/
def unitName : Scan (List Char) := fun cs =>
  let cs := cs.dropWhile isSpace
  some (cs.takeWhile Char.isAlpha, cs.dropWhile Char.isAlpha)

/-- A number with its unit. -/
def quantity : Scan Span := do
  let negative ← minus
  let number ← Scan.digits 1 18
  let part ← millionths
  let name ← unitName
  let unit ← (fun cs => (spanUnit? name).map (·, cs) : Scan SpanUnit)
  return if negative then unit.span (-(number : Int)) (-part) else unit.span number part

/-- A time, which turns the sign of the microseconds before it if it has a minus sign. -/
def clockSpan (before : Span) : Scan Span := do
  let negative ← minus
  let nanos ← clock 6
  let micros := before.micros + ((nanos / 1000 : Nat) : Int)
  return { before with micros := if negative then -micros else micros }

/-- The sum of the quantities in a text, after those that have been read, if there is one at least. -/
def quantities : Nat → Option Span → List Char → Option Span
  | 0, found, _ => found
  | fuel + 1, found, cs =>
    match cs.dropWhile isSpace with
    | [] => found
    | cs =>
      match clockSpan (found.getD {}) cs with
      | some (span, _) => some span
      | none =>
        match quantity cs with
        | some (span, rest) => quantities fuel (some ((found.getD {}).add span)) rest
        | none =>
          if (cs.take 3).map Char.toLower = "ago".toList ∧ (cs.drop 3).all isSpace then
            found.map Span.negate
          else none

/-- The interval in a text, which may begin with a sign for intervals. -/
def interval? (cs : List Char) : Option Cell := do
  let cs := match cs with
    | '@' :: rest => rest
    | _ => cs
  let span ← quantities (cs.length + 1) none cs
  if fitsSigned 32 span.months && fitsSigned 32 span.days && fitsSigned 64 (span.micros * 1000) then
    return .interval (Int32.ofInt span.months) (Int32.ofInt span.days)
      (Int64.ofInt (span.micros * 1000))
  else none

end PagedListing.Sql.Cast

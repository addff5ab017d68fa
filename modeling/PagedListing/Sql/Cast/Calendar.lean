import PagedListing.Sql.Cast.Number
import PagedListing.Time.Layout

/-!
# Casts to dates and times

A date has its numbers parted by one of four separators, and may count years before the first one. A
timestamp is a date with an optional time and an optional distance from universal time. Infinity is
the greatest number of the type, and its negation; the epoch is the start of 1970.
-/

namespace PagedListing.Sql.Cast

open PagedListing.Time (Date Scan)
open PagedListing.Number (natOfDigits? tenTo)

/-- A date, or one that is infinitely far. -/
inductive Day where
  | finite (number : Int)
  | infinite (negative : Bool)
  deriving DecidableEq, Inhabited

/-- The greatest number of a finite date. -/
def lastDay : Int := Int32.maxValue.toInt - 1

/-- White space, if there is any. -/
def spaces : Scan Unit := fun cs => some ((), cs.dropWhile isSpace)

/-- A minus sign, if there is one. -/
def minus : Scan Bool := fun
  | '-' :: cs => some (true, cs)
  | cs => some (false, cs)

/-- A year: its digits, or with a minus sign a year before the year 0. -/
def year : Scan Int := do
  let negative ← minus
  let n ← Scan.digits 1 9
  return if negative then -(n : Int) else n

/-- The mark of a year before the year 1, if it stands here. -/
def era (year : Int) : Scan Int := fun cs =>
  match cs with
  | space :: '(' :: b :: c :: ')' :: rest =>
    if isSpace space ∧ b.toLower = 'b' ∧ c.toLower = 'c' then
      if 0 < year then some (1 - year, rest) else none
    else some (year, cs)
  | _ => some (year, cs)

/-- Fail before a digit. -/
def noDigit : Scan Unit := fun cs =>
  if cs.head?.any Char.isDigit then none else some ((), cs)

/-- The day of a date. -/
def calendarDay : Scan Day := do
  let y ← year
  let separator ← Scan.oneOf [' ', '-', '/', '\\']
  let month ← Scan.digits 1 2
  Scan.char separator
  let day ← Scan.digits 1 2
  let y ← era y
  noDigit
  let d : Date := ⟨y, month, day⟩
  let number := d.dayNumber
  guard (d.isValid ∧ -lastDay ≤ number ∧ number ≤ lastDay)
  return .finite number

/-- A word in any case and white space up to the end. -/
def word (expected : String) : Scan Unit := fun cs =>
  let n := expected.length
  if (cs.take n).map Char.toLower = expected.toList ∧ (cs.drop n).all isSpace then some ((), [])
  else none

/-- The name of a day. -/
def namedDay : Scan Day := do
  let negative ← minus
  (do word "infinity"; return .infinite negative) <|> (do word "epoch"; return .finite 0)

/-- A day after any white space. -/
def day : Scan Day := do
  spaces
  calendarDay <|> namedDay

/-- Nanoseconds from a fraction of a second, further digits passed over. -/
def fraction (places : Nat) : Scan Nat := fun
  | '.' :: cs =>
    let all := cs.takeWhile Char.isDigit
    let kept := all.take places
    (natOfDigits? 0 kept).map fun n => (n * tenTo (9 - kept.length), cs.drop all.length)
  | cs => some (0, cs)

/-- The nanoseconds of hours, minutes and seconds, with a fraction of so many places. -/
def clock (places : Nat) : Scan Nat := do
  spaces
  let hour ← Scan.digits 1 9
  Scan.char ':'
  let minute ← Scan.digits 1 2
  Scan.char ':'
  let second ← Scan.digits 1 2
  guard (minute < 60 ∧ second < 60)
  let nanos ← fraction places
  return (3600 * hour + 60 * minute + second) * Time.nanosPerSecond + nanos

/-- A time of day, which may be its end. -/
def clockOfDay (places : Nat) : Scan Nat := do
  let nanos ← clock places
  guard (nanos ≤ Cell.nanosPerDay)
  return nanos

/-- A further part of a distance from universal time, if it is there. -/
def zonePart : Scan Nat := fun
  | ':' :: cs => Scan.digits 2 2 cs
  | cs => some (0, cs)

/-- The distance from universal time in seconds: none, `Z`, numbers with a sign, or the name. -/
def zone : Scan Int := fun
  | [] => some (0, [])
  | 'Z' :: cs => some (0, cs)
  | ' ' :: 'U' :: 'T' :: 'C' :: cs => some (0, cs)
  | sign :: cs =>
    if sign = '+' ∨ sign = '-' then
      (do
        let hours ← Scan.digits 2 4
        let minutes ← zonePart
        let seconds ← zonePart
        let distance : Int := 3600 * hours + 60 * minutes + seconds
        return if sign = '-' then -distance else distance : Scan Int) cs
    else if (sign :: cs).all isSpace then some (0, [])
    else none

/-- The time of a timestamp in nanoseconds, less the distance from universal time. -/
def timeOfTimestamp (places : Nat) : Scan Int := fun
  | [] => some (0, [])
  | cs =>
    let cs := match cs with
      | ' ' :: rest | 'T' :: rest => rest
      | cs => cs
    (do
      let nanos ← clockOfDay places
      let distance ← zone
      spaces
      return (nanos : Int) - distance * Time.nanosPerSecond : Scan Int) cs

/-- The nanoseconds of a timestamp from the start of 1970, or the sign of an infinite one. -/
def timestamp (places : Nat) : Scan (Int ⊕ Bool) := do
  match ← day with
  | .infinite negative => return .inr negative
  | .finite number => return .inl (number * Cell.nanosPerDay + (← timeOfTimestamp places))

/-- An integer of 64 bits that stands for a finite timestamp. -/
def finiteCount? (n : Int) : Option Int64 :=
  if Int64.minValue.toInt + 1 < n ∧ n < Int64.maxValue.toInt then some (Int64.ofInt n) else none

/-- A count of microseconds in a longer unit; a half is rounded away from zero. -/
def inUnit (micros : Int) (unit : Nat) : Int :=
  let halves := micros.tdiv (unit / 2 : Nat)
  (if halves < 0 then halves - 1 else halves + 1).tdiv 2

/-- The count of a timestamp in a unit. Microseconds are read first, except for nanoseconds. -/
def timestamp? (unit : TimeUnit) (cs : List Char) : Option Int64 := do
  let places := if unit = .nanosecond then 9 else 6
  match ← (timestamp places).whole cs with
  | .inr negative => return if negative then -Int64.maxValue else Int64.maxValue
  | .inl nanos =>
    let micros ← finiteCount? (nanos / 1000)
    match unit with
    | .second => return Int64.ofInt (inUnit micros.toInt 1000000)
    | .millisecond => return Int64.ofInt (inUnit micros.toInt 1000)
    | .microsecond => return micros
    | .nanosecond => finiteCount? nanos

/-- The number of a date; what follows a finite one is passed over. -/
def date? (cs : List Char) : Option Int32 :=
  match day cs with
  | some (.finite number, _) => some (Int32.ofInt number)
  | some (.infinite negative, _) => some (if negative then -Int32.maxValue else Int32.maxValue)
  | none => none

/-- The microseconds of a time of day; what follows is passed over. -/
def time? (cs : List Char) : Option Int64 :=
  (clockOfDay 6 cs).map fun (nanos, _) => Int64.ofNat (nanos / 1000)

end PagedListing.Sql.Cast

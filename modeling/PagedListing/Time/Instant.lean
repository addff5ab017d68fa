import PagedListing.Time.Date

/-!
# Instants

An instant counts seconds from the start of 1970 and nanoseconds within the second. A leap second
is kept as the second before it with `10^9` nanoseconds or more, so that instants are ordered by
seconds, then by nanoseconds.
-/

namespace PagedListing.Time

/-- An instant; during a leap second the nanoseconds go on from `10^9`. -/
structure Instant where
  seconds : Int
  nanos : Nat
  deriving DecidableEq, Inhabited

/-- A time of day; the second is 60 during a leap second. -/
structure TimeOfDay where
  hour : Nat
  minute : Nat
  second : Nat
  nanos : Nat
  deriving DecidableEq, Inhabited

/-- Nanoseconds in a second. -/
def nanosPerSecond : Nat := 1000000000

/-- Seconds in a day. -/
def secondsPerDay : Nat := 86400

namespace TimeOfDay

/-- The start of the day. -/
def midnight : TimeOfDay := ⟨0, 0, 0, 0⟩

/-- Hour, minute and second lie in their ranges. -/
def isValid (t : TimeOfDay) : Bool :=
  t.hour ≤ 23 ∧ t.minute ≤ 59 ∧ t.second ≤ 60 ∧ t.nanos < nanosPerSecond

/-- The whole seconds since midnight, a leap second counting as the second before it. -/
def seconds (t : TimeOfDay) : Nat :=
  3600 * t.hour + 60 * t.minute + min t.second 59

/-- The nanoseconds of the second, those of a leap second from `10^9` on. -/
def leapNanos (t : TimeOfDay) : Nat :=
  if t.second = 60 then nanosPerSecond + t.nanos else t.nanos

end TimeOfDay

namespace Instant

/-- Seconds decide, then nanoseconds. -/
def cmp (a b : Instant) : Ordering :=
  (compare a.seconds b.seconds).then (compare a.nanos b.nanos)

instance : Ord Instant := ⟨cmp⟩

/-- The instant of a date and a time of day at a distance from universal time, in seconds. -/
def ofDateTime (d : Date) (t : TimeOfDay) (offset : Int) : Instant :=
  ⟨secondsPerDay * d.dayNumber + t.seconds - offset, t.leapNanos⟩

/-- The date in universal time. -/
def date (x : Instant) : Date :=
  Date.ofDayNumber (x.seconds / secondsPerDay)

/-- The time of day in universal time. -/
def timeOfDay (x : Instant) : TimeOfDay :=
  let s := (x.seconds % secondsPerDay).toNat
  let leap := x.nanos / nanosPerSecond
  ⟨s / 3600, s % 3600 / 60, s % 60 + leap, x.nanos % nanosPerSecond⟩

/-- The instant so many microseconds after the start of 1970. -/
def ofMicros (micros : Int) : Instant :=
  ⟨micros / 1000000, (micros % 1000000).toNat * 1000⟩

end Instant

end PagedListing.Time

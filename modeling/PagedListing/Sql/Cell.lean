import PagedListing.Number.Binary
import PagedListing.Time.Instant

/-!
# Cells

The values that a table holds. A timestamp counts units from the start of 1970, a date days, a time
microseconds from midnight. Cells compare by what they denote; nothing compares with a missing value.
-/

namespace PagedListing.Sql

open PagedListing.Number (Double fitsSigned fitsUnsigned)

/-- The kinds of integers. -/
inductive IntegerKind where
  | tiny
  | small
  | medium
  | big
  | huge
  | unsignedTiny
  | unsignedSmall
  | unsignedMedium
  | unsignedBig
  deriving DecidableEq, Inhabited

namespace IntegerKind

/-- The number of bits. -/
def bits : IntegerKind → Nat
  | tiny | unsignedTiny => 8
  | small | unsignedSmall => 16
  | medium | unsignedMedium => 32
  | big | unsignedBig => 64
  | huge => 128

/-- Whether there are negative numbers of the kind. -/
def isSigned : IntegerKind → Bool
  | tiny | small | medium | big | huge => true
  | _ => false

/-- Whether a number is of the kind. -/
def contains (k : IntegerKind) (n : Int) : Bool :=
  if k.isSigned then fitsSigned k.bits n else fitsUnsigned k.bits n

end IntegerKind

/-- The kinds of floating-point numbers. -/
inductive FloatKind where
  | single
  | double
  deriving DecidableEq, Inhabited

/-- The units in which timestamps count. -/
inductive TimeUnit where
  | second
  | millisecond
  | microsecond
  | nanosecond
  deriving DecidableEq, Inhabited

/-- The nanoseconds of a unit. -/
def TimeUnit.nanos : TimeUnit → Nat
  | second => 1000000000
  | millisecond => 1000000
  | microsecond => 1000
  | nanosecond => 1

/-- A value of a table. -/
inductive Cell where
  | null
  | boolean (b : Bool)
  | integer (kind : IntegerKind) (n : Int)
  | float (kind : FloatKind) (x : Double)
  | text (s : String)
  | blob (bytes : List UInt8)
  | timestamp (unit : TimeUnit) (count : Int64)
  | date (days : Int32)
  | time (micros : Int64)
  | interval (months days : Int32) (nanos : Int64)
  | list (items : List Cell)
  deriving Inhabited

namespace Cell

/-- How two doubles compare where an undefined one equals itself and comes after all others. -/
def compareDoubles (x y : Double) : Ordering :=
  match x.signedUnits?, y.signedUnits? with
  | some m, some n => compare m n
  | some _, none => .lt
  | none, some _ => .gt
  | none, none => .eq

/-- The nanoseconds of a day. -/
def nanosPerDay : Nat := Time.secondsPerDay * Time.nanosPerSecond

/-- The nanoseconds that a span of time counts, a month having thirty days. -/
def spanNanos (months days : Int32) (nanos : Int64) : Int :=
  (months.toInt * 30 + days.toInt) * nanosPerDay + nanos.toInt

/-- How two cells compare. Lists do not compare, nor do values of kinds that have no common order. -/
def compare? : Cell → Cell → Option Ordering
  | boolean a, boolean b => some (compare a b)
  | integer _ m, integer _ n => some (compare m n)
  | integer _ m, float _ y => some (compareDoubles (.ofInt m) y)
  | float _ x, integer _ n => some (compareDoubles x (.ofInt n))
  | float _ x, float _ y => some (compareDoubles x y)
  | text s, text t => some (compare s t)
  | blob a, blob b => some (compare (a.map UInt8.toNat) (b.map UInt8.toNat))
  | timestamp u m, timestamp v n => some (compare (m.toInt * u.nanos) (n.toInt * v.nanos))
  | timestamp u m, date d => some (compare (m.toInt * u.nanos) (d.toInt * nanosPerDay))
  | date d, timestamp v n => some (compare (d.toInt * nanosPerDay) (n.toInt * v.nanos))
  | date d, date e => some (compare d.toInt e.toInt)
  | time m, time n => some (compare m.toInt n.toInt)
  | interval m d n, interval m' d' n' => some (compare (spanNanos m d n) (spanNanos m' d' n'))
  | _, _ => none

/-- Whether the value is missing. -/
def isNull : Cell → Bool
  | null => true
  | _ => false

end Cell

end PagedListing.Sql

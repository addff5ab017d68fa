import PagedListing.Json.Basic
import PagedListing.Sql.Cell.Description
import PagedListing.Text.Base64
import PagedListing.Time.Text

/-!
# JSON forms of cells

Integers are numbers, huge ones texts; a floating-point number that is not finite is null; bytes are
text in base 64. A timestamp or a date is its text if the calendar has it, and else the number that
the table holds. Any other cell is its description.
-/

namespace PagedListing.Sql

open PagedListing.Time (Instant dateOfDay?)

/-- The integer of 64 bits that is nearest to a number. -/
def saturate (n : Int) : Int64 :=
  Int64.ofInt (max Int64.minValue.toInt (min n Int64.maxValue.toInt))

/-- A count of units in microseconds: nearest to it where it is beyond 64 bits, and with the rest of
nanoseconds cut off toward zero. -/
def TimeUnit.micros : TimeUnit → Int64 → Int64
  | second, count => saturate (count.toInt * 1000000)
  | millisecond, count => saturate (count.toInt * 1000)
  | microsecond, count => count
  | nanosecond, count => Int64.ofInt (count.toInt.tdiv 1000)

/-- The text of a timestamp, if the calendar has its date. -/
def timestampText? (unit : TimeUnit) (count : Int64) : Option String :=
  let instant := Instant.ofMicros (unit.micros count).toInt
  if instant.date.inRange then some instant.zuluMicroText else none

/-- The number of a day counted from the first day of the year 1, if it has 32 bits. -/
def ordinalDay? (days : Int32) : Option Int :=
  let n := days.toInt + 719163
  if n ≤ Int32.maxValue.toInt then some n else none

/-- The text of a date, if the calendar has it. -/
def dateText? (days : Int32) : Option String :=
  (dateOfDay? days.toInt).map fun d => String.ofList d.text

/-- The JSON form of a cell. A date whose ordinal day has more than 32 bits has none. -/
def Cell.form? : Cell → Option Json
  | .null => some .null
  | .boolean b => some (.bool b)
  | .integer .huge n => some (.str (toString n))
  | .integer _ n => some (.int n)
  | .float _ x => some (if x.isFinite then .float x else .null)
  | .text s => some (.str s)
  | .blob bytes => some (.str (String.ofList (Text.Base64.encode bytes)))
  | .timestamp unit count =>
    match timestampText? unit count with
    | some written => some (.str written)
    | none => some (.int count.toInt)
  | .date days =>
    match ordinalDay? days, dateText? days with
    | none, _ => none
    | some _, some written => some (.str written)
    | some _, none => some (.int days.toInt)
  | c => some (.str c.description)

end PagedListing.Sql

import PagedListing.Time.Instant

/-!
# Writing instants

Instants are written in universal time. The year has four digits, with a sign in front outside the
years 0 to 9999; the second of a leap second is 60.
-/

namespace PagedListing.Time

/-- A number with zeros in front up to a width. -/
def padded (width : Nat) (n : Nat) : List Char :=
  let digits := Nat.toDigits 10 n
  List.replicate (width - digits.length) '0' ++ digits

/-- A year: four digits from 0 to 9999, else a sign and at least four digits. -/
def yearText (year : Int) : List Char :=
  if year < 0 then '-' :: padded 4 year.natAbs
  else if 9999 < year then '+' :: padded 4 year.natAbs
  else padded 4 year.natAbs

/-- The fraction of a second in none, three, six or nine digits, whichever is exact first. -/
def exactFraction (nanos : Nat) : List Char :=
  if nanos = 0 then []
  else if nanos % 1000000 = 0 then '.' :: padded 3 (nanos / 1000000)
  else if nanos % 1000 = 0 then '.' :: padded 6 (nanos / 1000)
  else '.' :: padded 9 nanos

/-- The fraction of a second in six digits, the rest cut off. -/
def microFraction (nanos : Nat) : List Char :=
  '.' :: padded 6 (nanos / 1000)

namespace Date

/-- The date with hyphens. -/
def text (d : Date) : List Char :=
  yearText d.year ++ '-' :: padded 2 d.month ++ '-' :: padded 2 d.day

end Date

namespace TimeOfDay

/-- The time with colons and a fraction. -/
def text (t : TimeOfDay) (fraction : Nat → List Char) : List Char :=
  padded 2 t.hour ++ ':' :: padded 2 t.minute ++ ':' :: padded 2 t.second ++ fraction t.nanos

end TimeOfDay

namespace Instant

/-- Date and time with a separator between them. -/
def layout (x : Instant) (separator : Char) (fraction : Nat → List Char) : List Char :=
  x.date.text ++ separator :: x.timeOfDay.text fraction

/-- The Internet layout with a numeric offset of zero. -/
def text (x : Instant) : String :=
  String.ofList (x.layout 'T' exactFraction ++ "+00:00".toList)

/-- The Internet layout with the letter for universal time. -/
def zuluText (x : Instant) : String :=
  String.ofList (x.layout 'T' exactFraction ++ ['Z'])

/-- The Internet layout in microseconds with the letter for universal time. -/
def zuluMicroText (x : Instant) : String :=
  String.ofList (x.layout 'T' microFraction ++ ['Z'])

/-- Date and time with a blank between them, in microseconds. -/
def plainMicroText (x : Instant) : String :=
  String.ofList (x.layout ' ' microFraction)

end Instant

end PagedListing.Time

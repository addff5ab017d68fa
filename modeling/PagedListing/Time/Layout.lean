import PagedListing.Number.Integer
import PagedListing.Number.Power
import PagedListing.Text.Blank
import PagedListing.Time.Instant

/-!
# Reading instants

An instant is written in the Internet layout with an offset (`2024-01-02T03:04:05Z`), or without an
offset with a `T` or blanks between date and time, or as a date alone; without an offset it is in
universal time. The Internet layout has numbers of fixed width. In the others blanks may precede
every number, months, days, hours, minutes and seconds have one or two digits, and the year has up
to four digits, or a sign and any number of them.
-/

namespace PagedListing.Time

open PagedListing.Number (natOfDigits? tenTo)
open PagedListing.Text (dropBlanks)

/-- A step of reading: it takes a front part of the text, or fails. -/
abbrev Scan := StateT (List Char) Option

namespace Scan

/-- A number of `least` to `most` digits. -/
def digits (least most : Nat) : Scan Nat := fun cs =>
  let taken := (cs.take most).takeWhile Char.isDigit
  if taken.length < least then none
  else (natOfDigits? 0 taken).map fun n => (n, cs.drop taken.length)

/-- A given character. -/
def char (expected : Char) : Scan Unit
  | [] => none
  | c :: cs => if c = expected then some ((), cs) else none

/-- One of some characters. -/
def oneOf (expected : List Char) : Scan Char
  | [] => none
  | c :: cs => if c ∈ expected then some (c, cs) else none

/-- Any number of blanks. -/
def blanks : Scan Unit := fun cs => some ((), dropBlanks cs)

/-- Only a text that is taken up as a whole is read. -/
def whole {α : Type} (p : Scan α) (cs : List Char) : Option α :=
  match p cs with
  | some (a, []) => some a
  | _ => none

/-- Nanoseconds from a fraction of one to nine digits; further digits are passed over. -/
def fraction : Scan Nat := fun
  | '.' :: cs =>
    let all := cs.takeWhile Char.isDigit
    let kept := all.take 9
    if kept.isEmpty then none
    else (natOfDigits? 0 kept).map fun n => (n * tenTo (9 - kept.length), cs.drop all.length)
  | cs => some (0, cs)

/-- A number of one or two digits after any blanks. -/
def short : Scan Nat := do
  blanks
  digits 1 2

/-- A year after any blanks: up to four digits, or a sign and any number of digits. -/
def year : Scan Int := do
  blanks
  fun
    | '-' :: cs => (digits 1 cs.length cs).map fun (n, rest) => (-(n : Int), rest)
    | '+' :: cs => (digits 1 cs.length cs).map fun (n, rest) => ((n : Int), rest)
    | cs => (digits 1 4 cs).map fun (n, rest) => ((n : Int), rest)

/-- The distance from universal time in seconds: `Z`, or a sign with hours and minutes. -/
def offset : Scan Int := do
  match ← oneOf ['Z', 'z', '+', '-', '\u2212'] with
  | 'Z' | 'z' => return 0
  | sign =>
    let hours ← digits 2 2
    char ':'
    let minutes ← digits 2 2
    guard (hours ≤ 23 ∧ minutes ≤ 59)
    let seconds : Int := 3600 * hours + 60 * minutes
    return if sign = '+' then seconds else -seconds

/-- A date that the calendar has. -/
def checkedDate (year : Int) (month day : Nat) : Scan Date := do
  let d : Date := ⟨year, month, day⟩
  guard (d.isValid && d.inRange)
  return d

/-- A time of day that the clock shows. -/
def checkedTime (hour minute second nanos : Nat) : Scan TimeOfDay := do
  let t : TimeOfDay := ⟨hour, minute, second, nanos⟩
  guard t.isValid
  return t

/-- The Internet layout: date and time of fixed width and an offset. -/
def internet : Scan Instant := do
  let year ← digits 4 4
  char '-'
  let month ← digits 2 2
  char '-'
  let d ← checkedDate year month (← digits 2 2)
  let _ ← oneOf ['T', 't', ' ']
  let hour ← digits 2 2
  char ':'
  let minute ← digits 2 2
  char ':'
  let second ← digits 2 2
  let t ← checkedTime hour minute second (← fraction)
  return .ofDateTime d t (← offset)

/-- A date with numbers of loose width. -/
def date : Scan Date := do
  let y ← year
  char '-'
  let month ← short
  char '-'
  checkedDate y month (← short)

/-- A time with numbers of loose width and an optional fraction. -/
def time : Scan TimeOfDay := do
  let hour ← short
  char ':'
  let minute ← short
  char ':'
  let second ← short
  checkedTime hour minute second (← fraction)

/-- A date and a time with a separator between them, in universal time. -/
def civil (separator : Scan Unit) : Scan Instant := do
  let d ← date
  separator
  return .ofDateTime d (← time) 0

/-- The start of a day in universal time. -/
def startOfDay : Scan Instant := do
  return .ofDateTime (← date) .midnight 0

end Scan

/-- The instant that a text denotes in the first layout that takes up the whole text. -/
def Instant.read? (s : String) : Option Instant :=
  let cs := s.toList
  Scan.internet.whole cs <|> (Scan.civil (Scan.char 'T')).whole cs <|>
    (Scan.civil Scan.blanks).whole cs <|> Scan.startOfDay.whole cs

end PagedListing.Time

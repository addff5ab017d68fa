import PagedListing.Number.Shortest
import PagedListing.Sql.Cell

/-!
# Descriptions of cells

A text that tells the kind of a cell and its value, for the kinds that have no form of their own in
JSON. Doubles have a point or an exponent, texts stand in quotes.
-/

namespace PagedListing.Sql

open PagedListing.Number (Double Decimal shortest)

/-- The name of the kind in a description. -/
def IntegerKind.label : IntegerKind → String
  | tiny => "TinyInt"
  | small => "SmallInt"
  | medium => "Int"
  | big => "BigInt"
  | huge => "HugeInt"
  | unsignedTiny => "UTinyInt"
  | unsignedSmall => "USmallInt"
  | unsignedMedium => "UInt"
  | unsignedBig => "UBigInt"

/-- The name of the unit in a description. -/
def TimeUnit.label : TimeUnit → String
  | second => "Second"
  | millisecond => "Millisecond"
  | microsecond => "Microsecond"
  | nanosecond => "Nanosecond"

namespace Description

/-- A positive decimal: positional when its first digit stands for a power of ten from `10^-4` to
`10^15`, then always with a point, and with an exponent otherwise. -/
def decimal (x : Decimal) : List Char :=
  if -4 ≤ x.magnitude ∧ x.magnitude < 16 then
    if 0 ≤ x.exponent then x.positional ++ ['.', '0'] else x.positional
  else
    let fraction := match x.digits.drop 1 with
      | [] => []
      | rest => '.' :: rest
    x.digits.take 1 ++ fraction ++ 'e' :: (toString x.magnitude).toList

/-- A double. -/
def double : Double → String
  | .finite negative units =>
    let body := if units = 0 then "0.0".toList else decimal (shortest units)
    String.ofList (if negative then '-' :: body else body)
  | x => x.text

/-- A character of a text in quotes. -/
def character (c : Char) : List Char :=
  match c with
  | '"' => ['\\', '"']
  | '\\' => ['\\', '\\']
  | '\n' => ['\\', 'n']
  | '\r' => ['\\', 'r']
  | '\t' => ['\\', 't']
  | '\x00' => ['\\', '0']
  | c =>
    if c.toNat < 0x20 ∨ c.toNat = 0x7F then
      ['\\', 'u', '\x7b'] ++ Nat.toDigits 16 c.toNat ++ ['\x7d']
    else [c]

/-- A text in quotes. -/
def quoted (s : String) : String :=
  String.ofList ('"' :: s.toList.flatMap character ++ ['"'])

/-- Items between brackets. -/
def bracketed (items : List String) : String :=
  "[" ++ String.intercalate ", " items ++ "]"

end Description

mutual

/-- The kind of a cell and its value. -/
def Cell.description : Cell → String
  | .null => "Null"
  | .boolean b => "Boolean(" ++ (if b then "true" else "false") ++ ")"
  | .integer kind n => kind.label ++ "(" ++ toString n ++ ")"
  | .float .single x => "Float(" ++ Description.double x ++ ")"
  | .float .double x => "Double(" ++ Description.double x ++ ")"
  | .text s => "Text(" ++ Description.quoted s ++ ")"
  | .blob bytes => "Blob(" ++ Description.bracketed (bytes.map toString) ++ ")"
  | .timestamp unit count => "Timestamp(" ++ unit.label ++ ", " ++ toString count.toInt ++ ")"
  | .date days => "Date32(" ++ toString days.toInt ++ ")"
  | .time micros => "Time64(Microsecond, " ++ toString micros.toInt ++ ")"
  | .interval months days nanos =>
    "Interval \x7b months: " ++ toString months.toInt ++ ", days: " ++ toString days.toInt ++
      ", nanos: " ++ toString nanos.toInt ++ " \x7d"
  | .list items => "List(" ++ Description.bracketed (Cell.descriptions items) ++ ")"

/-- The descriptions of some cells. -/
def Cell.descriptions : List Cell → List String
  | [] => []
  | c :: cs => c.description :: Cell.descriptions cs

end

end PagedListing.Sql

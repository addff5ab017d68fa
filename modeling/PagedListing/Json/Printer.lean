import PagedListing.Json.Basic
import PagedListing.Number.Shortest

/-!
# Writing JSON

The compact text of a value. A double is positional when its first digit stands for a power of ten
from `10^-5` to `10^15`, then always with a point, and has a signed exponent otherwise; a double
that is not finite is null. In texts only quotes, backslashes and control characters are escaped.
-/

namespace PagedListing.Json

open PagedListing.Number (Double Decimal shortest)

/-- The hexadecimal digits of a number below 256, two of them. -/
def hexPair (n : Nat) : List Char :=
  [Nat.digitChar (n / 16), Nat.digitChar (n % 16)]

/-- A character as it stands in a written text. -/
def escape (c : Char) : List Char :=
  match c with
  | '"' => ['\\', '"']
  | '\\' => ['\\', '\\']
  | '\n' => ['\\', 'n']
  | '\r' => ['\\', 'r']
  | '\t' => ['\\', 't']
  | '\x08' => ['\\', 'b']
  | '\x0c' => ['\\', 'f']
  | c => if c.toNat < 0x20 then ['\\', 'u', '0', '0'] ++ hexPair c.toNat else [c]

/-- A text in quotes. -/
def quoted (s : String) : String :=
  String.ofList ('"' :: s.toList.flatMap escape ++ ['"'])

/-- A decimal with an exponent: one digit, a point if more follow, and the signed power of ten. -/
def scientific (x : Decimal) : List Char :=
  let fraction := match x.digits.drop 1 with
    | [] => []
    | rest => '.' :: rest
  let sign := if x.magnitude < 0 then '-' else '+'
  x.digits.take 1 ++ fraction ++ 'e' :: sign :: Nat.toDigits 10 x.magnitude.natAbs

/-- A positive decimal, positional where its magnitude allows it. -/
def decimalText (x : Decimal) : List Char :=
  if -5 ≤ x.magnitude ∧ x.magnitude < 16 then
    if 0 ≤ x.exponent then x.positional ++ ['.', '0'] else x.positional
  else scientific x

/-- The text of a double. -/
def doubleText : Double → String
  | .nan => "null"
  | .infinite _ => "null"
  | .finite negative units =>
    let body := if units = 0 then ['0', '.', '0'] else decimalText (shortest units)
    String.ofList (if negative then '-' :: body else body)

mutual

/-- The compact text of a value. -/
def text : Json → String
  | null => "null"
  | bool b => if b then "true" else "false"
  | int n => toString n
  | float x => doubleText x
  | str s => quoted s
  | arr items => "[" ++ String.intercalate "," (itemTexts items) ++ "]"
  | obj ms => "\x7b" ++ String.intercalate "," (memberTexts ms) ++ "\x7d"

/-- The texts of the items of an array. -/
def itemTexts : List Json → List String
  | [] => []
  | v :: vs => text v :: itemTexts vs

/-- The texts of the members of an object. -/
def memberTexts : List (String × Json) → List String
  | [] => []
  | (name, v) :: ms => (quoted name ++ ":" ++ text v) :: memberTexts ms

end

end PagedListing.Json

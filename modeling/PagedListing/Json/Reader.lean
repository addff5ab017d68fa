import PagedListing.Json.Basic
import PagedListing.Number.Decimal

/-!
# Reading JSON

A number without point and exponent is an integer if it fits in 64 bits, signed or unsigned, and a
double otherwise; the minus sign of zero makes a double too. Nesting is bounded by the length of the
text, which is the fuel of the reader.
-/

namespace PagedListing.Json

open PagedListing.Number (Double natOfDigits? readDouble?)

/-- The white space of JSON. -/
def isSpace (c : Char) : Bool :=
  c = ' ' || c = '\n' || c = '\r' || c = '\t'

/-- The text without leading white space. -/
def skipSpace (cs : List Char) : List Char :=
  cs.dropWhile isSpace

/-- The value of a hexadecimal digit. -/
def hexDigit? (c : Char) : Option Nat :=
  if c.isDigit then some (c.toNat - '0'.toNat)
  else if 'a' ≤ c ∧ c ≤ 'f' then some (c.toNat - 'a'.toNat + 10)
  else if 'A' ≤ c ∧ c ≤ 'F' then some (c.toNat - 'A'.toNat + 10)
  else none

/-- A code unit of four hexadecimal digits. -/
def codeUnit? : List Char → Option (Nat × List Char)
  | a :: b :: c :: d :: rest => do
    return ((((← hexDigit? a) * 16 + (← hexDigit? b)) * 16 + (← hexDigit? c)) * 16 +
      (← hexDigit? d), rest)
  | _ => none

/-- The character of a code unit, or of a pair of surrogate code units. -/
def unicodeEscape? (cs : List Char) : Option (Char × List Char) := do
  let (high, rest) ← codeUnit? cs
  if 0xD800 ≤ high ∧ high < 0xDC00 then
    match rest with
    | '\\' :: 'u' :: rest =>
      let (low, rest) ← codeUnit? rest
      if 0xDC00 ≤ low ∧ low < 0xE000 then
        some (Char.ofNat (0x10000 + (high - 0xD800) * 0x400 + (low - 0xDC00)), rest)
      else none
    | _ => none
  else if 0xDC00 ≤ high ∧ high < 0xE000 then none
  else some (Char.ofNat high, rest)

/-- The rest of a text after its opening quote, given the characters read so far in reverse. -/
def readString? : Nat → List Char → List Char → Option (String × List Char)
  | 0, _, _ => none
  | _ + 1, _, [] => none
  | _ + 1, seen, '"' :: rest => some (String.ofList seen.reverse, rest)
  | fuel + 1, seen, '\\' :: c :: rest =>
    match c with
    | '"' => readString? fuel ('"' :: seen) rest
    | '\\' => readString? fuel ('\\' :: seen) rest
    | '/' => readString? fuel ('/' :: seen) rest
    | 'b' => readString? fuel ('\x08' :: seen) rest
    | 'f' => readString? fuel ('\x0c' :: seen) rest
    | 'n' => readString? fuel ('\n' :: seen) rest
    | 'r' => readString? fuel ('\r' :: seen) rest
    | 't' => readString? fuel ('\t' :: seen) rest
    | 'u' => do
      let (c, rest) ← unicodeEscape? rest
      readString? fuel (c :: seen) rest
    | _ => none
  | fuel + 1, seen, c :: rest =>
    if c.toNat < 0x20 then none else readString? fuel (c :: seen) rest

/-- A character that may stand in a number. -/
def isNumberChar (c : Char) : Bool :=
  c.isDigit || c = '-' || c = '+' || c = '.' || c = 'e' || c = 'E'

/-- The number that a lexeme denotes. -/
def number? (lexeme : List Char) : Option Json :=
  let (negative, digits) := match lexeme with
    | '-' :: rest => (true, rest)
    | _ => (false, lexeme)
  if digits.isEmpty then none
  else match natOfDigits? 0 digits with
    | some n =>
      if negative then
        if n = 0 then some (float (.finite true 0))
        else if Int64.minValue.toInt ≤ -(n : Int) then some (int (-(n : Int)))
        else some (float (.ofInt (-(n : Int))))
      else if n < UInt64.size then some (int n)
      else some (float (.ofInt n))
    | none => (readDouble? lexeme).map float

/-- The object with a member added; an earlier member of the name is replaced. -/
def addMember (ms : Members) (name : String) (v : Json) : Members :=
  ms.filter (·.1 ≠ name) ++ [(name, v)]

mutual

/-- A value at the front of a text without leading white space. -/
def readValue? : Nat → List Char → Option (Json × List Char)
  | 0, _ => none
  | fuel + 1, cs =>
    match cs with
    | 'n' :: 'u' :: 'l' :: 'l' :: rest => some (null, rest)
    | 't' :: 'r' :: 'u' :: 'e' :: rest => some (bool true, rest)
    | 'f' :: 'a' :: 'l' :: 's' :: 'e' :: rest => some (bool false, rest)
    | '"' :: rest => (readString? (rest.length + 1) [] rest).map fun (s, rest) => (str s, rest)
    | '[' :: rest =>
      match skipSpace rest with
      | ']' :: rest => some (arr [], rest)
      | rest => readItems? fuel [] rest
    | '\x7b' :: rest =>
      match skipSpace rest with
      | '\x7d' :: rest => some (obj [], rest)
      | rest => readMembers? fuel [] rest
    | _ => do
      let v ← number? (cs.takeWhile isNumberChar)
      return (v, cs.dropWhile isNumberChar)

/-- The items of an array up to its end, given the ones before in reverse. -/
def readItems? : Nat → List Json → List Char → Option (Json × List Char)
  | 0, _, _ => none
  | fuel + 1, seen, cs => do
    let (v, rest) ← readValue? fuel cs
    match skipSpace rest with
    | ',' :: rest => readItems? fuel (v :: seen) (skipSpace rest)
    | ']' :: rest => some (arr (v :: seen).reverse, rest)
    | _ => none

/-- The members of an object up to its end, given the ones before. -/
def readMembers? : Nat → Members → List Char → Option (Json × List Char)
  | 0, _, _ => none
  | fuel + 1, seen, cs =>
    match cs with
    | '"' :: rest => do
      let (name, rest) ← readString? (rest.length + 1) [] rest
      match skipSpace rest with
      | ':' :: rest =>
        let (v, rest) ← readValue? fuel (skipSpace rest)
        match skipSpace rest with
        | ',' :: rest => readMembers? fuel (addMember seen name v) (skipSpace rest)
        | '\x7d' :: rest => some (obj (addMember seen name v), rest)
        | _ => none
      | _ => none
    | _ => none

end

/-- The value that a whole text denotes. -/
def read? (s : String) : Option Json :=
  let cs := s.toList
  match readValue? (cs.length + 1) (skipSpace cs) with
  | some (v, rest) => if (skipSpace rest).isEmpty then some v else none
  | none => none

end PagedListing.Json

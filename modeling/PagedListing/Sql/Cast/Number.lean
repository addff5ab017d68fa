import PagedListing.Number.Decimal
import PagedListing.Sql.Cell

/-!
# Casts to numbers

A number may have white space around it. An integer is written in decimal, hexadecimal or binary
digits with single underscores between them; a decimal one may have a fraction, which is rounded, a
half away from zero, and an exponent.
-/

namespace PagedListing.Sql.Cast

open PagedListing.Number (Double BinaryFormat readInt? readDoubleAs? tenTo)

/-- Whether a character is white space between the parts of a cell. -/
def isSpace (c : Char) : Bool :=
  c = ' ' || ('\t' ≤ c && c ≤ '\r')

/-- The characters without white space around them. -/
def strip (cs : List Char) : List Char :=
  ((cs.dropWhile isSpace).reverse.dropWhile isSpace).reverse

/-- The value of a digit of a base up to 16. -/
def digitOf? (base : Nat) (c : Char) : Option Nat :=
  let n :=
    if c.isDigit then c.toNat - '0'.toNat
    else if 'a' ≤ c ∧ c ≤ 'f' then c.toNat - 'a'.toNat + 10
    else if 'A' ≤ c ∧ c ≤ 'F' then c.toNat - 'A'.toNat + 10
    else base
  if n < base then some n else none

/-- The values of the digits in front, which single underscores may part, and what follows. -/
def digitRun (base : Nat) : List Char → List Nat × List Char
  | '_' :: c :: cs =>
    match digitOf? base c with
    | some n =>
      let (ns, rest) := digitRun base cs
      (n :: ns, rest)
    | none => ([], '_' :: c :: cs)
  | c :: cs =>
    match digitOf? base c with
    | some n =>
      let (ns, rest) := digitRun base cs
      (n :: ns, rest)
    | none => ([], c :: cs)
  | [] => ([], [])

/-- The digits in front, of which the first has no underscore before it. -/
def leadingDigits (base : Nat) (cs : List Char) : List Nat × List Char :=
  if cs.head? = some '_' then ([], cs) else digitRun base cs

/-- The number that digits denote. -/
def valueOf (base : Nat) (digits : List Nat) : Nat :=
  digits.foldl (fun n d => base * n + d) 0

/-- The whole number nearest to `n / d`, a half going up. -/
def nearestUp (n d : Nat) : Nat :=
  (2 * n + d) / (2 * d)

/-- The whole number nearest to a decimal without a sign. -/
def wholeNumber? (cs : List Char) : Option Nat := do
  let (whole, rest) := leadingDigits 10 cs
  let (fraction, rest) := match rest with
    | '.' :: rest => leadingDigits 10 rest
    | _ => ([], rest)
  if whole.isEmpty && fraction.isEmpty then none
  else
    let significand := valueOf 10 (whole ++ fraction)
    let exponent ← match rest with
      | [] => some 0
      | c :: rest => if c = 'e' ∨ c = 'E' then readInt? rest else none
    let shift : Int := exponent - fraction.length
    if significand = 0 then return 0
    else if 100 < shift then none
    else if shift < -1000 then return 0
    else return nearestUp (significand * tenTo shift.toNat) (tenTo (-shift).toNat)

/-- A number in a base after its mark. -/
def marked? (base : Nat) (cs : List Char) : Option Nat :=
  match leadingDigits base cs with
  | (n :: ns, []) => some (valueOf base (n :: ns))
  | _ => none

/-- An integer of a kind. -/
def integer? (kind : IntegerKind) (cs : List Char) : Option Int := do
  let n : Int ← match strip cs with
    | '-' :: cs =>
      if !kind.isSigned && cs.any (· ≠ '0') then none
      else (wholeNumber? cs).map fun n => -(n : Int)
    | '+' :: cs => (wholeNumber? cs).map fun n => (n : Int)
    | '0' :: 'x' :: cs | '0' :: 'X' :: cs => (marked? 16 cs).map fun n => (n : Int)
    | '0' :: 'b' :: cs | '0' :: 'B' :: cs => (marked? 2 cs).map fun n => (n : Int)
    | cs => (wholeNumber? cs).map fun n => (n : Int)
  if kind.contains n then some n else none

/-- The format of a kind of floating-point numbers. -/
def format : FloatKind → BinaryFormat
  | .single => .single
  | .double => .double

/-- A floating-point number of a kind. -/
def float? (kind : FloatKind) (cs : List Char) : Option Double :=
  readDoubleAs? (format kind) (strip cs)

end PagedListing.Sql.Cast

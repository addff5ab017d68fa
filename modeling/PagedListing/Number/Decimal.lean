import PagedListing.Number.Binary
import PagedListing.Number.Integer

/-!
# Decimals in text

Reading a floating-point number from decimal text: an optional sign, then a name for infinity or
for no number in any case, or digits with an optional point and an optional exponent. At least one
digit stands before or after the point. No blank is skipped.
-/

namespace PagedListing.Number

/-- The parts of a written decimal. -/
structure WrittenDecimal where
  whole : List Char
  fraction : List Char
  exponent : Int

/-- The leading digits and what follows them. -/
def spanDigits (cs : List Char) : List Char × List Char :=
  (cs.takeWhile Char.isDigit, cs.dropWhile Char.isDigit)

/-- An exponent: nothing, or the letter and an integer. -/
def readExponent? : List Char → Option Int
  | [] => some 0
  | c :: cs => if c = 'e' ∨ c = 'E' then readInt? cs else none

/-- The parts of an unsigned decimal that takes up the whole text. -/
def writtenDecimal? (cs : List Char) : Option WrittenDecimal := do
  let (whole, rest) := spanDigits cs
  let (fraction, rest) := match rest with
    | '.' :: rest => spanDigits rest
    | _ => ([], rest)
  if whole.isEmpty && fraction.isEmpty then none
  else return ⟨whole, fraction, ← readExponent? rest⟩

/-- The number nearest to a written decimal, in a given format. -/
def WrittenDecimal.toDouble? (x : WrittenDecimal) (format : BinaryFormat) (negative : Bool) :
    Option Double := do
  let significand ← natOfDigits? 0 (x.whole ++ x.fraction)
  return Double.ofDecimal format negative significand (x.exponent - x.fraction.length)

/-- A number without its sign. -/
def readUnsignedDouble? (format : BinaryFormat) (negative : Bool) (cs : List Char) :
    Option Double :=
  let lower := String.ofList (cs.map Char.toLower)
  if lower = "nan" then some .nan
  else if lower = "inf" ∨ lower = "infinity" then some (.infinite negative)
  else (writtenDecimal? cs).bind (·.toDouble? format negative)

/-- A number of a format, with an optional sign. -/
def readDoubleAs? (format : BinaryFormat) : List Char → Option Double
  | '-' :: cs => readUnsignedDouble? format true cs
  | '+' :: cs => readUnsignedDouble? format false cs
  | cs => readUnsignedDouble? format false cs

/-- A number of the double format, with an optional sign. -/
def readDouble? (cs : List Char) : Option Double :=
  readDoubleAs? .double cs

end PagedListing.Number

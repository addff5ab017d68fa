import PagedListing.Number.Power

/-!
# Binary floating-point numbers

A number of the double format is a sign and a whole number of units of `2^-1074`, so that order is
the order of integers and nothing is rounded by a comparison. Rounding a fraction into a format is
exact arithmetic on natural numbers: the nearest representable number, and of two nearest ones the
one with the even significand.
-/

namespace PagedListing.Number

/-- A number of the double format; a finite one is a sign and a number of units of `2^-1074`. -/
inductive Double where
  | nan
  | infinite (negative : Bool)
  | finite (negative : Bool) (units : Nat)
  deriving DecidableEq, Inhabited

/-- The parameters of a binary format. -/
structure BinaryFormat where
  /-- The number of bits of a significand. -/
  precision : Nat
  /-- The least positive number is `2^-unit`. -/
  unit : Nat
  /-- Finite numbers lie below `2^limit`. -/
  limit : Nat

/-- The format with 64 bits. -/
def BinaryFormat.double : BinaryFormat := ⟨53, 1074, 1024⟩

/-- The format with 32 bits. -/
def BinaryFormat.single : BinaryFormat := ⟨24, 149, 128⟩

/-- The whole number nearest to `n / d`; a half goes to the even neighbour. -/
def nearest (n d : Nat) : Nat :=
  let q := n / d
  let r := n % d
  if 2 * r < d then q
  else if d < 2 * r then q + 1
  else if q % 2 = 0 then q
  else q + 1

/-- The units of the format nearest to `n / d`, or nothing where they are beyond the finite ones. -/
def BinaryFormat.round? (format : BinaryFormat) (n d : Nat) : Option Nat :=
  let scaled := n * twoTo format.unit
  let surplus := ((scaled / d).log2 + 1) - format.precision
  let units := nearest scaled (d * twoTo surplus) * twoTo surplus
  if units < twoTo (format.limit + format.unit) then some units else none

namespace Double

/-- The nearest number of the format to a signed fraction, as a number of the double format. -/
def ofFraction (format : BinaryFormat) (negative : Bool) (n d : Nat) : Double :=
  match format.round? n d with
  | some units => .finite negative (units * twoTo (BinaryFormat.double.unit - format.unit))
  | none => .infinite negative

/-- The nearest number to an integer. -/
def ofInt (n : Int) : Double :=
  ofFraction .double (n < 0) n.natAbs 1

/-- The nearest number of a format to `significand * 10^exponent`, with a sign. -/
def ofDecimal (format : BinaryFormat) (negative : Bool) (significand : Nat) (exponent : Int) :
    Double :=
  if significand = 0 then .finite negative 0
  else
    let magnitude := ((Nat.toDigits 10 significand).length : Int) + exponent
    if 400 < magnitude then .infinite negative
    else if magnitude < -400 then .finite negative 0
    else match exponent with
      | .ofNat e => ofFraction format negative (significand * tenTo e) 1
      | .negSucc e => ofFraction format negative significand (tenTo (e + 1))

/-- The number in units of `2^-1074`, the infinities standing beyond every finite number. -/
def signedUnits? : Double → Option Int
  | .nan => none
  | .infinite negative => some (if negative then -(twoTo 2098 : Int) else twoTo 2098)
  | .finite negative units => some (if negative then -(units : Int) else units)

/-- How two numbers compare; nothing compares with a number that is not one. -/
def compare? (x y : Double) : Option Ordering := do
  return compare (← x.signedUnits?) (← y.signedUnits?)

/-- Whether the number is neither infinite nor undefined. -/
def isFinite : Double → Bool
  | .finite _ _ => true
  | _ => false

end Double

end PagedListing.Number

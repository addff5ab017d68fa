import PagedListing.Number.Binary

/-!
# Shortest decimals

The decimal with the fewest digits among those that round to a given double; of two such decimals
the nearer one. Every real number between the midpoints to the neighbours rounds to the double, the
midpoints too when its significand is even.
-/

namespace PagedListing.Number

/-- A decimal number `digits * 10^exponent`, by its digits from the first on. -/
structure Decimal where
  digits : List Char
  exponent : Int

namespace Decimal

/-- The exponent of the first digit. -/
def magnitude (x : Decimal) : Int :=
  x.digits.length - 1 + x.exponent

/-- The decimal with trailing zeros moved into the exponent. -/
def ofNat (significand : Nat) (exponent : Int) : Decimal :=
  let digits := Nat.toDigits 10 significand
  let kept := (digits.reverse.dropWhile (· == '0')).reverse
  ⟨kept, exponent + (digits.length - kept.length : Nat)⟩

/-- The positional text: the digits with a point where it falls, no exponent. -/
def positional (x : Decimal) : List Char :=
  match x.exponent with
  | .ofNat e => x.digits ++ List.replicate e '0'
  | .negSucc e =>
    let places := e + 1
    let count := x.digits.length
    if places < count then
      x.digits.take (count - places) ++ '.' :: x.digits.drop (count - places)
    else '0' :: '.' :: (List.replicate (places - count) '0' ++ x.digits)

end Decimal

/-- The interval of reals that round to a double, in quarters of a unit. -/
structure RoundingInterval where
  low : Nat
  value : Nat
  high : Nat
  /-- Whether the end points belong to it. -/
  closed : Bool

namespace RoundingInterval

/-- The interval of the double of so many units. -/
def ofUnits (units : Nat) : RoundingInterval :=
  let gap := twoTo ((units.log2 + 1) - BinaryFormat.double.precision)
  let significand := units / gap
  let below := if significand = twoTo 52 ∧ 1 < gap then gap else 2 * gap
  ⟨4 * units - below, 4 * units, 4 * units + 2 * gap, significand % 2 = 0⟩

/-- Whether `n / d` quarters lie in the interval. -/
def contains (i : RoundingInterval) (n d : Nat) : Bool :=
  if i.closed then i.low * d ≤ n && n ≤ i.high * d else i.low * d < n && n < i.high * d

end RoundingInterval

/-- The number of quarters of a unit in one. -/
def quartersPerOne : Nat := twoTo (BinaryFormat.double.unit + 2)

/-- The power of ten, as a fraction in quarters of a unit. -/
def powerOfTen : Int → Nat × Nat
  | .ofNat e => (tenTo e * quartersPerOne, 1)
  | .negSucc e => (quartersPerOne, tenTo (e + 1))

/-- The multiple of `10^exponent` nearest to the middle of the interval and inside it, of the two
neighbours of the middle. -/
def nearestOnGrid? (i : RoundingInterval) (exponent : Int) : Option Nat :=
  let (n, d) := powerOfTen exponent
  let floor := i.value * d / n
  let inside (k : Nat) : Bool := i.contains (k * n) d
  let below := i.value * d - floor * n
  let above := (floor + 1) * n - i.value * d
  match inside floor, inside (floor + 1) with
  | true, true =>
    if below < above ∨ (below = above ∧ floor % 2 = 0) then some floor else some (floor + 1)
  | true, false => some floor
  | false, true => some (floor + 1)
  | false, false => none

/-- The first exponent, counting down, whose grid has a point in the interval. -/
def firstGrid : Nat → RoundingInterval → Int → Decimal
  | 0, i, exponent =>
    let (n, d) := powerOfTen exponent
    Decimal.ofNat (nearest (i.value * d) n) exponent
  | fuel + 1, i, exponent =>
    match nearestOnGrid? i exponent with
    | some k => if k = 0 then firstGrid fuel i (exponent - 1) else Decimal.ofNat k exponent
    | none => firstGrid fuel i (exponent - 1)

/-- The shortest decimal that rounds to a positive number of units. -/
def shortest (units : Nat) : Decimal :=
  let leading := (Nat.toDigits 10 (units * tenTo 400 / twoTo BinaryFormat.double.unit)).length
  firstGrid 17 (RoundingInterval.ofUnits units) ((leading : Int) - 401)

/-- The positional text of a double, with a minus sign also before zero. -/
def Double.text : Double → String
  | .nan => "NaN"
  | .infinite negative => if negative then "-inf" else "inf"
  | .finite negative units =>
    let body := if units = 0 then ['0'] else (shortest units).positional
    String.ofList (if negative then '-' :: body else body)

end PagedListing.Number

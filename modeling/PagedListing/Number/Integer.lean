/-!
# Integers in text

Decimal integers with an optional sign, within the bounds of a machine word. No blank is skipped.
-/

namespace PagedListing.Number

/-- The value of a digit character, if it is one of the ten ASCII digits. -/
def digit? (c : Char) : Option Nat :=
  if c.isDigit then some (c.toNat - '0'.toNat) else none

/-- The number that a list of digits denotes, read after a number already read. -/
def natOfDigits? : Nat → List Char → Option Nat
  | seen, [] => some seen
  | seen, c :: cs => do natOfDigits? (10 * seen + (← digit? c)) cs

/-- A number written with at least one digit and nothing else. -/
def readNat? : List Char → Option Nat
  | [] => none
  | c :: cs => natOfDigits? 0 (c :: cs)

/-- An integer with an optional sign. -/
def readInt? : List Char → Option Int
  | '-' :: cs => (readNat? cs).map fun n => -(n : Int)
  | '+' :: cs => (readNat? cs).map fun n => (n : Int)
  | cs => (readNat? cs).map fun n => (n : Int)

/-- An integer of 64 bits, if the given one lies in their range. -/
def int64? (n : Int) : Option Int64 :=
  if Int64.minValue.toInt ≤ n ∧ n ≤ Int64.maxValue.toInt then some (Int64.ofInt n) else none

/-- A signed integer of 64 bits. -/
def readInt64? (cs : List Char) : Option Int64 :=
  (readInt? cs).bind int64?

/-- A natural number below `limit`, with an optional plus sign. -/
def readBelow? (limit : Nat) (cs : List Char) : Option Nat := do
  let digits := match cs with
    | '+' :: rest => rest
    | _ => cs
  let n ← readNat? digits
  if n < limit then some n else none

/-- An unsigned integer of 32 bits, with an optional plus sign. -/
def readUInt32? (cs : List Char) : Option UInt32 :=
  (readBelow? UInt32.size cs).map UInt32.ofNat

/-- The decimal text of an integer of 64 bits. -/
def int64Text (n : Int64) : String :=
  toString n.toInt

end PagedListing.Number

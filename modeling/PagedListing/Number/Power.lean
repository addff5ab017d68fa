/-!
# Powers

The powers of two and of ten, of which machine words and decimal texts are made, and the integers that
a word of some bits holds.
-/

namespace PagedListing.Number

/-- Two to a power. -/
def twoTo (exponent : Nat) : Nat :=
  Nat.pow 2 exponent

/-- Ten to a power. -/
def tenTo (exponent : Nat) : Nat :=
  Nat.pow 10 exponent

/-- Whether a signed word of some bits holds an integer. -/
def fitsSigned (bits : Nat) (n : Int) : Bool :=
  -(twoTo (bits - 1) : Int) ≤ n ∧ n < twoTo (bits - 1)

/-- Whether an unsigned word of some bits holds an integer. -/
def fitsUnsigned (bits : Nat) (n : Int) : Bool :=
  0 ≤ n ∧ n < twoTo bits

/-- A power of ten is positive. -/
theorem tenTo_pos (exponent : Nat) : 0 < tenTo exponent :=
  Nat.pow_pos (by decide)

end PagedListing.Number

import PagedListing.Error
import PagedListing.OrderedMap

/-!
# Orderings

A direction for each field of an ordering. A direction is written `ASC` or `DESC` with letters of
either case and nothing around them.
-/

namespace PagedListing

/-- The direction in which a field is ordered. -/
inductive Direction where
  | ascending
  | descending
  deriving DecidableEq, Inhabited

namespace Direction

/-- The keyword of a direction. -/
def keyword : Direction → String
  | ascending => "ASC"
  | descending => "DESC"

/-- The direction that a value of a field's ordering denotes. -/
def read (field value : String) : Except Error Direction :=
  let letters := String.ofList (value.toList.map Char.toUpper)
  if letters = "ASC" then .ok .ascending
  else if letters = "DESC" then .ok .descending
  else .error (.invalidDirection field value)

/-- A comparison seen in a direction. -/
def apply (d : Direction) (o : Ordering) : Ordering :=
  match d with
  | ascending => o
  | descending => o.swap

end Direction

/-- The directions of fields, the first field deciding first. -/
abbrev OrderSpec := OrderedMap Direction

end PagedListing

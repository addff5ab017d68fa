import PagedListing.Filter.Operand
import PagedListing.SortedMap
import PagedListing.Text.Lowercase

/-!
# Predicates

A predicate is a condition on the value of one field. Nothing is true of a null or missing value, nor
of a value that does not compare with the operands.
-/

namespace PagedListing

/-- A relation of the order of a type. -/
inductive Relation where
  | equal
  | unequal
  | more
  | moreOrEqual
  | less
  | lessOrEqual
  deriving DecidableEq, Inhabited

/-- Whether a relation holds of two values that compare in a given way. -/
def Relation.holds : Relation → Ordering → Bool
  | equal, o => o = .eq
  | unequal, o => o ≠ .eq
  | more, o => o = .gt
  | moreOrEqual, o => o ≠ .lt
  | less, o => o = .lt
  | lessOrEqual, o => o ≠ .gt

/-- A condition on the value of a field. -/
inductive Predicate where
  /-- The value stands in a relation to an operand. -/
  | compare (relation : Relation) (operand : Operand)
  /-- The value lies between two operands, or is one of them. -/
  | between (low high : Operand)
  /-- The value equals one of some operands. -/
  | among (operands : List Operand)
  /-- The value is a text in which another stands. -/
  | like (needle : String) (ignoreCase : Bool)
  deriving DecidableEq, Inhabited

/-- The predicates on fields, one on each. -/
abbrev FilterSet := SortedMap Predicate

namespace Predicate

/-- Whether a value compares with an operand in a given relation. -/
def related (value : Json) (relation : Relation) (operand : Operand) : Bool :=
  (operand.compare? value).any relation.holds

/-- Whether the predicate is true of a value. -/
def holds (p : Predicate) (value : Json) : Bool :=
  if value.isNull then false
  else match p with
    | compare relation operand => related value relation operand
    | between low high => related value .moreOrEqual low && related value .lessOrEqual high
    | among operands => operands.any (related value .equal)
    | like needle ignoreCase =>
      match value.asString? with
      | none => false
      | some text =>
        if ignoreCase then Text.containsIgnoringCase text needle else Text.contains text needle

/-- The operands of a predicate. -/
def operands : Predicate → List Operand
  | compare _ operand => [operand]
  | between low high => [low, high]
  | among operands => operands
  | like _ _ => []

/-- The name of the kind of a predicate in its JSON form. -/
def kindName : Predicate → String
  | compare .equal _ => "equals"
  | compare .unequal _ => "not"
  | compare .more _ => "more_than"
  | compare .moreOrEqual _ => "more_than_or_equal"
  | compare .less _ => "less_than"
  | compare .lessOrEqual _ => "less_than_or_equal"
  | between _ _ => "between"
  | among _ => "in"
  | like _ _ => "like"

/-- What a predicate asks for, in JSON. -/
def content : Predicate → Json
  | compare _ operand => operand.toJson
  | between low high => .arr [low.toJson, high.toJson]
  | among operands => .arr (operands.map Operand.toJson)
  | like needle ignoreCase => .obj [("needle", .str needle), ("case_insensitive", .bool ignoreCase)]

/-- The JSON form of a predicate. -/
def toJson (p : Predicate) : Json :=
  .obj [("op", .str p.kindName), ("value", p.content)]

end Predicate

/-- Whether every predicate is true of its field in an object. -/
def FilterSet.holds (filters : FilterSet) (row : Members) : Bool :=
  filters.entries.all fun entry => entry.2.holds (row.value entry.1)

end PagedListing

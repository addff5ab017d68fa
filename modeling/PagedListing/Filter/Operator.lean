import PagedListing.Filter.Predicate
import PagedListing.Text.Pieces

/-!
# Operators

The operators that a filter key may name, by their tokens, and the predicates they make of a
parameter value. A range takes two values separated by a comma; membership takes any number of them,
blanks around values and empty values left out, but not none.
-/

namespace PagedListing

/-- A way to make a predicate of a parameter value. -/
inductive Operator where
  | compare (relation : Relation)
  | between
  | among
  | like (ignoreCase : Bool)
  deriving DecidableEq, Inhabited

namespace Operator

/-- All operators. -/
def all : List Operator :=
  [compare .equal, compare .unequal, compare .more, compare .moreOrEqual, compare .less,
    compare .lessOrEqual, between, among, like false, like true]

/-- The token of an operator in a key. -/
def token : Operator → String
  | compare .equal => "equal"
  | compare .unequal => "not"
  | compare .more => "more_than"
  | compare .moreOrEqual => "more_than_or_equal"
  | compare .less => "less_than"
  | compare .lessOrEqual => "less_than_or_equal"
  | between => "between"
  | among => "in"
  | like false => "like"
  | like true => "i_like"

/-- The operator with a token. -/
def ofToken (token : String) : Except Error Operator :=
  match all.find? (·.token = token) with
  | some op => .ok op
  | none => .error (.unknownOperator token)

/-- The comma-separated pieces of a value. -/
def listPieces (raw : String) : List String :=
  (Text.pieces ',' raw.toList).map String.ofList

/-- The items of a value: its pieces without blanks around them, the empty ones left out. -/
def listItems (raw : String) : List String :=
  ((listPieces raw).map Text.trim).filter (· ≠ "")

/-- The predicate on a field of a type that an operator makes of a value. -/
def build (op : Operator) (field : String) (type : FieldType) (raw : String) :
    Except Error Predicate :=
  match op with
  | compare relation => do return .compare relation (← Operand.read field type raw)
  | between =>
    match listPieces raw with
    | [low, high] => do
      return .between (← Operand.read field type low) (← Operand.read field type high)
    | bounds => .error (.wrongArity op.token "2" bounds.length)
  | among =>
    match listItems raw with
    | [] => .error (.wrongArity op.token "at least 1" 0)
    | items => do return .among (← items.mapM (Operand.read field type))
  | like ignoreCase =>
    if type.isTextual then .ok (.like raw ignoreCase)
    else .error (.unsupportedOperator op.token field)

end Operator

/-- The operator that makes predicates like a given one. -/
def Predicate.operator : Predicate → Operator
  | compare relation _ => .compare relation
  | between _ _ => .between
  | among _ => .among
  | like _ ignoreCase => .like ignoreCase

end PagedListing

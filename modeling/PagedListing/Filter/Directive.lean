import PagedListing.Filter.Operator

/-!
# Directives

The keys `where__<field>`, `where__<field>__<operator>` and `order__<field>` direct a listing. Two
underscores in a row separate the segments of a key, read from the left. Every other key means
nothing here.
-/

namespace PagedListing

/-- What a parameter key asks for. -/
inductive Directive where
  /-- A filter; without an operator it asks for equality. -/
  | filter (field : String) (operator : Option Operator)
  | order (field : String)
  deriving DecidableEq, Inhabited

namespace Directive

/-- The field that a directive is about. -/
def field : Directive → String
  | filter field _ => field
  | order field => field

/-- The operator that a filter applies. -/
def effective : Directive → Option Operator
  | filter _ operator => some (operator.getD (.compare .equal))
  | order _ => none

/-- The segments of a key between its separators. -/
def segments : List Char → List (List Char)
  | [] => [[]]
  | '_' :: '_' :: rest => [] :: segments rest
  | c :: rest => Text.extendFirst c (segments rest)

/-- How the keys of filters begin. -/
def filterMark : String := "where__"

/-- How the keys of orderings begin. -/
def orderMark : String := "order__"

/-- Whether a key is meant as a directive. -/
def isKey (key : String) : Bool :=
  filterMark.toList.isPrefixOf key.toList || orderMark.toList.isPrefixOf key.toList

/-- A field segment, which has to be an identifier. -/
def checkField (key field : String) : Except Error String :=
  if isIdentifier field then .ok field else .error (.malformedKey key)

/-- The directive that the segments of a key denote. -/
def ofSegments (key : String) : List String → Except Error Directive
  | ["where", field] => do return filter (← checkField key field) none
  | ["where", field, operator] =>
    if operator = "" then .error (.malformedKey key)
    else do
      let field ← checkField key field
      return filter field (some (← Operator.ofToken operator))
  | ["order", field] => do return order (← checkField key field)
  | _ => .error (.malformedKey key)

/-- The directive that a key denotes, if it is meant as one. -/
def ofKey (key : String) : Except Error (Option Directive) :=
  if isKey key then some <$> ofSegments key ((segments key.toList).map String.ofList)
  else .ok none

/-- The key of a directive. -/
def key : Directive → String
  | filter field none => filterMark ++ field
  | filter field (some operator) => filterMark ++ field ++ "__" ++ operator.token
  | order field => orderMark ++ field

end Directive

end PagedListing

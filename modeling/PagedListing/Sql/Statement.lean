import PagedListing.Query.Basic
import PagedListing.Sql.Identifier
import PagedListing.Sql.Like

/-!
# Statements

The statements that a listing runs on a table: the records of a page, and the count of the matching
ones. A statement is a tree whose places for values hold the values that are bound to them; its text
shows the places only, its parameters are the values in the order of the places.
-/

namespace PagedListing.Sql

open PagedListing.Number (Double int64Text)

/-- A value bound to a place of a statement. -/
inductive Param where
  | integer (n : Int64)
  | float (x : Double)
  | text (s : String)
  | boolean (b : Bool)
  deriving DecidableEq, Inhabited

/-- The text of a bound value. -/
def Param.literal : Param → String
  | integer n => int64Text n
  | float x => x.text
  | text s => s
  | boolean b => if b then "true" else "false"

/-- A place for a value; a timestamp is bound as a text and read by the engine. -/
inductive Place where
  | plain (value : Param)
  | timestamp (value : String)
  deriving DecidableEq, Inhabited

namespace Place

/-- The place to which an operand is bound. -/
def ofOperand : Operand → Place
  | .integer n => plain (.integer n)
  | .float x => plain (.float x)
  | .text s => plain (.text s)
  | .boolean b => plain (.boolean b)
  | .timestamp t => timestamp t.plainMicroText

/-- The place as it stands in the text of a statement. -/
def text : Place → String
  | plain _ => "?"
  | timestamp _ => "CAST(? AS TIMESTAMP)"

/-- The value bound to a place. -/
def param : Place → Param
  | plain value => value
  | timestamp value => .text value

end Place

/-- The sign of a relation. -/
def relationSign : Relation → String
  | .equal => "="
  | .unequal => "<>"
  | .more => ">"
  | .moreOrEqual => ">="
  | .less => "<"
  | .lessOrEqual => "<="

/-- A condition on a column. -/
inductive Condition where
  | compare (column : String) (relation : Relation) (place : Place)
  | between (column : String) (low high : Place)
  | among (column : String) (places : List Place)
  | like (column : String) (ignoreCase : Bool) (pattern : String)
  deriving DecidableEq, Inhabited

namespace Condition

/-- The condition that a predicate puts on a column. -/
def ofPredicate (column : String) : Predicate → Condition
  | .compare relation operand => compare column relation (.ofOperand operand)
  | .between low high => between column (.ofOperand low) (.ofOperand high)
  | .among operands => among column (operands.map Place.ofOperand)
  | .like needle ignoreCase => like column ignoreCase (Like.containing needle)

/-- The text of a condition. -/
def text : Condition → String
  | compare column relation place => quote column ++ " " ++ relationSign relation ++ " " ++ place.text
  | between column low high => quote column ++ " BETWEEN " ++ low.text ++ " AND " ++ high.text
  | among column places =>
    quote column ++ " IN (" ++ String.intercalate ", " (places.map Place.text) ++ ")"
  | like column ignoreCase _ =>
    quote column ++ (if ignoreCase then " ILIKE" else " LIKE") ++ " ? ESCAPE '\\'"

/-- The values bound to the places of a condition. -/
def params : Condition → List Param
  | compare _ _ place => [place.param]
  | between _ low high => [low.param, high.param]
  | among _ places => places.map Place.param
  | like _ _ pattern => [.text pattern]

end Condition

/-- The conditions of some filters. -/
def conditionsOf (filters : FilterSet) : List Condition :=
  filters.entries.map fun entry => .ofPredicate entry.1 entry.2

/-- The text of conditions that have to hold together. -/
def whereText (conditions : List Condition) : String :=
  if conditions.isEmpty then ""
  else " WHERE " ++ String.intercalate " AND " (conditions.map Condition.text)

/-- A statement for records. -/
structure Select where
  columns : List String
  table : String
  conditions : List Condition
  order : List (String × Direction)
  limit : Option UInt32
  offset : Option UInt64
  deriving DecidableEq, Inhabited

namespace Select

/-- The text of a column of the ordering; missing values come last. -/
def orderText (entry : String × Direction) : String :=
  quote entry.1 ++ " " ++ entry.2.keyword ++ " NULLS LAST"

/-- The text of the statement. -/
def text (s : Select) : String :=
  "SELECT " ++ String.intercalate ", " (s.columns.map quote) ++ " FROM " ++ quote s.table ++
    whereText s.conditions ++
    (if s.order.isEmpty then ""
      else " ORDER BY " ++ String.intercalate ", " (s.order.map orderText)) ++
    (match s.limit with
      | some n => " LIMIT " ++ toString n
      | none => "") ++
    match s.offset with
    | some n => " OFFSET " ++ toString n
    | none => ""

/-- The values bound to the places of the statement. -/
def params (s : Select) : List Param :=
  s.conditions.flatMap Condition.params

/-- The statement for find options; they may name declared fields only. -/
def ofOptions (schema : Schema) (options : FindOptions) : Except Error Select := do
  schema.checkFields (namedFields options.filters options.order)
  return { columns := schema.fieldNames
           table := schema.name
           conditions := conditionsOf options.filters
           order := options.order.entries
           limit := options.take
           offset := options.skip }

end Select

/-- A statement for the number of records. -/
structure Count where
  table : String
  conditions : List Condition
  deriving DecidableEq, Inhabited

namespace Count

/-- The text of the statement. -/
def text (s : Count) : String :=
  "SELECT COUNT(*) FROM " ++ quote s.table ++ whereText s.conditions

/-- The values bound to the places of the statement. -/
def params (s : Count) : List Param :=
  s.conditions.flatMap Condition.params

/-- The statement for find options; they may name declared fields only. -/
def ofOptions (schema : Schema) (options : FindOptions) : Except Error Count := do
  schema.checkFields (namedFields options.filters options.order)
  return ⟨schema.name, conditionsOf options.filters⟩

end Count

end PagedListing.Sql

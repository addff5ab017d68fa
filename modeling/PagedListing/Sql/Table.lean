import PagedListing.Sql.Cast
import PagedListing.Sql.Statement

/-!
# Tables

A table has typed columns and rows of cells. A condition is true, false or unknown of a row; it is
unknown where the cell is missing, and a row is found if every condition is true of it. Found rows are
sorted stably, missing cells last in both directions, and then cut by offset and limit.
-/

namespace PagedListing.Sql

/-- A truth value that may be unknown. -/
abbrev Truth := Option Bool

namespace Truth

/-- False if one of two is false, and unknown if none is false and one is unknown. -/
def and : Truth → Truth → Truth
  | some false, _ => some false
  | some true, b => b
  | none, some false => some false
  | none, _ => none

/-- True if one of two is true, and unknown if none is true and one is unknown. -/
def or : Truth → Truth → Truth
  | some true, _ => some true
  | some false, b => b
  | none, some true => some true
  | none, _ => none

/-- True if one is true. -/
def any (truths : List Truth) : Truth :=
  truths.foldr or (some false)

end Truth

/-! ## Conditions -/

/-- The cell of a bound value. -/
def Param.cell : Param → Cell
  | integer n => .integer .big n.toInt
  | float x => .float .double x
  | text s => .text s
  | boolean b => .boolean b

/-- The cell that stands at a place, if its value can be read as the type of the place. -/
def Place.cell? : Place → Option Cell
  | plain value => some value.cell
  | timestamp value => Cell.ofText? (.timestamp .microsecond) value

/-- Whether a cell stands in a relation to the value at a place. -/
def relate (cell : Cell) (relation : Relation) (place : Place) : Truth := do
  return relation.holds (← cell.compare? (← place.cell?))

namespace Condition

/-- The column that a condition is on. -/
def column : Condition → String
  | compare column _ _ | between column _ _ | among column _ | like column _ _ => column

/-- The places of a condition. -/
def places : Condition → List Place
  | compare _ _ place => [place]
  | between _ low high => [low, high]
  | among _ places => places
  | like _ _ _ => []

/-- Whether a condition is true of the cell in its column. -/
def truth (cell : Cell) : Condition → Truth
  | compare _ relation place => relate cell relation place
  | between _ low high => (relate cell .moreOrEqual low).and (relate cell .lessOrEqual high)
  | among _ places => Truth.any (places.map (relate cell .equal))
  | like _ ignoreCase pattern =>
    match cell with
    | .text s => some (Like.isMatch pattern s ignoreCase)
    | _ => none

end Condition

/-! ## Tables -/

/-- The cells of a row, in the order of the columns. -/
abbrev Row := List Cell

/-- A table. -/
structure Table where
  columns : List (String × ColumnType)
  rows : List Row

/-- Whether two names are the same apart from the case of letters of ASCII. -/
def sameName (a b : String) : Bool :=
  a.toList.map Char.toLower == b.toList.map Char.toLower

namespace Table

/-- The position of a column; a name in another case stands for the column too. -/
def position? (t : Table) (column : String) : Option Nat :=
  let names := t.columns.map (·.1)
  names.findIdx? (· = column) <|> names.findIdx? (sameName · column)

/-- The cell of a row in a column, null where there is none. -/
def cell (t : Table) (row : Row) (column : String) : Cell :=
  ((t.position? column).bind (row[·]?)).getD .null

/-- Whether conditions are all true of a row. -/
def meets (t : Table) (conditions : List Condition) (row : Row) : Bool :=
  conditions.all fun c => c.truth (t.cell row c.column) == some true

/-- How two cells stand in an ordering; a missing one comes last in both directions. -/
def compareCells (direction : Direction) (a b : Cell) : Ordering :=
  match a.isNull, b.isNull with
  | true, true => .eq
  | true, false => .gt
  | false, true => .lt
  | false, false => direction.apply ((a.compare? b).getD .eq)

/-- How two rows stand in an ordering: the first column that tells them apart decides. -/
def compareRows (t : Table) : List (String × Direction) → Row → Row → Ordering
  | [], _, _ => .eq
  | (column, direction) :: rest, a, b =>
    (compareCells direction (t.cell a column) (t.cell b column)).then (compareRows t rest a b)

/-- The rows of which some conditions are true, sorted. -/
def found (t : Table) (conditions : List Condition) (order : List (String × Direction)) : List Row :=
  (t.rows.filter (t.meets conditions)).mergeSort fun a b => t.compareRows order a b != .gt

/-- The rows that a statement selects, as the cells in its columns. -/
def select (t : Table) (s : Select) : List Row :=
  let rest := (t.found s.conditions s.order).drop (s.offset.getD 0).toNat
  let rows := match s.limit with
    | some n => rest.take n.toNat
    | none => rest
  rows.map fun row => s.columns.map (t.cell row)

/-- The number of rows that a statement counts. -/
def count (t : Table) (s : Count) : Nat :=
  (t.found s.conditions []).length

/-! ## Making tables -/

/-- The columns of a declaration: one at least, each of a known type, with no name twice. -/
def readColumns? (declared : List (String × String)) : Option (List (String × ColumnType)) := do
  let columns ← declared.mapM fun (name, type) => return (name, ← ColumnType.ofName? type)
  let names := declared.map fun column => column.1.toList.map Char.toLower
  if columns.isEmpty ∨ names.eraseDups.length < names.length then none else return columns

/-- The cell of a type for a text, or a missing one. -/
def readCell? (type : ColumnType) : Option String → Option Cell
  | some s => Cell.ofText? type s
  | none => some .null

/-- A row of cells for texts, one for each column. -/
def readRow? : List (String × ColumnType) → List (Option String) → Option Row
  | [], _ => some []
  | _ :: _, [] => none
  | column :: columns, s :: texts => do
    return (← readCell? column.2 s) :: (← readRow? columns texts)

/-- The table with declared columns and rows of texts, if all of them can be cast. -/
def read? (declared : List (String × String)) (rows : List (List (Option String))) :
    Option Table := do
  let columns ← readColumns? declared
  return ⟨columns, ← rows.mapM (readRow? columns)⟩

end Table

end PagedListing.Sql

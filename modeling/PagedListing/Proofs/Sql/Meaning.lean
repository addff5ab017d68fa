import PagedListing.Proofs.Sql.Reader
import PagedListing.Sql.Table

/-!
# What statements mean

The meaning of a text with values bound to its places, on the tables that an engine has: the statement
is read, and its comparisons, tests and directions have the meaning of the language, with three truth
values and missing cells last. An engine that runs the texts of statements with their parameters answers
as the statements themselves are evaluated (`execute?_select`, `execute?_count`).
-/

namespace PagedListing.Sql

/-! ## The meaning of the language -/

/-- Whether a comparison holds of two values that compare in a way. -/
def Comparator.holds : Comparator → Ordering → Bool
  | equal, o => o.isEq
  | unequal, o => o.isNe
  | above, o => o.isGT
  | atLeast, o => o.isGE
  | below, o => o.isLT
  | atMost, o => o.isLE

/-- The cell of a value; only some texts can be cast. -/
def Scalar.cell? : Scalar → Option Cell
  | bound value => some value.cell
  | cast (.text s) => Cell.ofText? (.timestamp .microsecond) s
  | cast _ => none

/-- Whether a comparison is true of a cell and a value; it is unknown if the cell is missing. -/
def Comparator.truth (comparator : Comparator) (cell : Cell) (value : Scalar) : Truth := do
  return comparator.holds (← cell.compare? (← value.cell?))

namespace Test

/-- The column that is tested. -/
def column : Test → String
  | comparison column _ _ | range column _ _ | membership column _ | search column _ _ => column

/-- The values of a test that are compared. -/
def scalars : Test → List Scalar
  | comparison _ _ value => [value]
  | range _ low high => [low, high]
  | membership _ values => values
  | search _ _ _ => []

/-- Whether a test is true of a cell. A range includes its bounds, and a membership is an equality with
one of the values. -/
def truth (cell : Cell) : Test → Truth
  | comparison _ comparator value => comparator.truth cell value
  | range _ low high => (Comparator.atLeast.truth cell low).and (Comparator.atMost.truth cell high)
  | membership _ values => Truth.any (values.map (Comparator.equal.truth cell))
  | search _ ignoreCase pattern =>
    match cell, pattern with
    | .text s, .text p => some (Like.isMatch p s ignoreCase)
    | _, _ => none

end Test

/-- How two cells stand under a key: missing ones come last, in both directions. -/
def Sense.compare (sense : Sense) (a b : Cell) : Ordering :=
  match a.isNull, b.isNull with
  | true, true => .eq
  | true, false => .gt
  | false, true => .lt
  | false, false =>
    let ordering := (a.compare? b).getD .eq
    match sense with
    | rising => ordering
    | falling => ordering.swap

/-- The answer to a statement. -/
inductive Output where
  | rows (rows : List Row)
  | number (n : Nat)
  deriving Inhabited

namespace Table

/-- The rows of which all tests are true. -/
def passing (t : Table) (tests : List Test) : List Row :=
  t.rows.filter fun row => tests.all fun test => test.truth (t.cell row test.column) == some true

/-- How two rows stand under keys: the first key that tells them apart decides. -/
def compareBy (t : Table) : List (String × Sense) → Row → Row → Ordering
  | [], _, _ => .eq
  | (column, sense) :: keys, a, b =>
    (sense.compare (t.cell a column) (t.cell b column)).then (t.compareBy keys a b)

/-- What a statement answers on a table. Rows that no key tells apart stay in their order; the offset is
passed over before the limit counts. -/
def answer (t : Table) : Statement → Output
  | .rows columns _ tests keys limit offset =>
    let sorted := (t.passing tests).mergeSort fun a b => t.compareBy keys a b != .gt
    let rest := sorted.drop (offset.getD 0)
    .rows ((limit.elim rest rest.take).map fun row => columns.map (t.cell row))
  | .count _ tests => .number (t.passing tests).length

end Table

namespace Statement

/-- The table that a statement is about. -/
def table : Statement → String
  | rows _ table _ _ _ _ | count table _ => table

/-- The tests of a statement. -/
def tests : Statement → List Test
  | rows _ _ tests _ _ _ | count _ tests => tests

/-- The columns that a statement shows or orders by. -/
def columns : Statement → List String
  | rows columns _ _ keys _ _ => columns ++ keys.map Prod.fst
  | count _ _ => []

/-- Whether a table has all columns of a statement. -/
def isKnown (s : Statement) (t : Table) : Bool :=
  (s.columns ++ s.tests.map Test.column).all fun column => (t.position? column).isSome

/-- Whether all values of a statement can be cast, which only rows ask for. -/
def isBound (s : Statement) (t : Table) : Bool :=
  t.rows.isEmpty || s.tests.all fun test => test.scalars.all fun value => value.cell?.isSome

/-- The answer to a statement on some tables, if it can be run. -/
def run? (tables : String → Option Table) (s : Statement) : Option Output := do
  let t ← tables s.table
  if s.isKnown t ∧ s.isBound t then return t.answer s else none

end Statement

/-- What an engine with some tables answers to a text and the values bound to its places. -/
def execute? (tables : String → Option Table) (text : String) (values : List Param) : Option Output := do
  let s ← Statement.read? text values
  s.run? tables

/-! ## The meaning of conditions -/

/-- A comparison that is read holds where the relation does. -/
lemma Comparator.holds_ofRelation (relation : Relation) (o : Ordering) :
    (ofRelation relation).holds o = relation.holds o := by
  cases relation <;> cases o <;> rfl

/-- The value at a place is the one that was bound to it. -/
lemma Scalar.cell?_ofPlace (place : Place) : (ofPlace place).cell? = place.cell? := by
  cases place <;> rfl

/-- The comparator of a relation is true where the relation is. -/
lemma Comparator.truth_ofRelation (cell : Cell) (relation : Relation) (place : Place) :
    (ofRelation relation).truth cell (.ofPlace place) = relate cell relation place := by
  rw [truth, relate, Scalar.cell?_ofPlace]
  simp only [holds_ofRelation]

namespace Test

/-- The test of a condition is on its column. -/
lemma column_ofCondition (c : Condition) : (ofCondition c).column = c.column := by
  cases c <;> rfl

/-- The test of a condition has its places as its scalars. -/
lemma scalars_ofCondition (c : Condition) : (ofCondition c).scalars = c.places.map Scalar.ofPlace := by
  cases c <;> rfl

/-- The test that a condition is read as is true where the condition is. -/
theorem truth_ofCondition (cell : Cell) (c : Condition) : (ofCondition c).truth cell = c.truth cell := by
  cases c with
  | compare column relation place => exact Comparator.truth_ofRelation cell relation place
  | between column low high =>
    have hlow := Comparator.truth_ofRelation cell .moreOrEqual low
    have hhigh := Comparator.truth_ofRelation cell .lessOrEqual high
    show (Comparator.truth .atLeast cell (.ofPlace low)).and (Comparator.truth .atMost cell (.ofPlace high)) =
      (relate cell .moreOrEqual low).and (relate cell .lessOrEqual high)
    rw [← hlow, ← hhigh]
    rfl
  | among column places =>
    show Truth.any ((places.map Scalar.ofPlace).map (Comparator.equal.truth cell)) =
      Truth.any (places.map (relate cell .equal))
    rw [List.map_map]
    exact congrArg Truth.any (List.map_congr_left fun place _ =>
      Comparator.truth_ofRelation cell .equal place)
  | like column ignoreCase pattern => cases cell <;> rfl

end Test

/-! ## The meaning of statements -/

/-- A key that is read compares as the direction does. -/
lemma Sense.compare_ofDirection (direction : Direction) (a b : Cell) :
    (ofDirection direction).compare a b = Table.compareCells direction a b := by
  cases direction <;> rfl

namespace Table

variable (t : Table)

/-- The keys that are read compare as the ordering does. -/
lemma compareBy_eq (order : List (String × Direction)) (a b : Row) :
    t.compareBy (order.map fun entry => (entry.1, Sense.ofDirection entry.2)) a b =
      t.compareRows order a b := by
  induction order with
  | nil => rfl
  | cons entry order ih =>
    rw [List.map_cons, compareBy, compareRows, ih, Sense.compare_ofDirection]

/-- The rows that pass the tests that are read are those that meet the conditions. -/
lemma passing_eq (conditions : List Condition) :
    t.passing (conditions.map Test.ofCondition) = t.rows.filter (t.meets conditions) := by
  refine List.filter_congr fun row _ => ?_
  rw [List.all_map, meets]
  refine List.all_congr rfl fun c => ?_
  rw [Function.comp_apply, Test.column_ofCondition, Test.truth_ofCondition]

/-- The statement that is read answers with the rows that are selected. -/
theorem answer_ofSelect (s : Select) : t.answer (.ofSelect s) = .rows (t.select s) := by
  obtain ⟨columns, table, conditions, order, limit, offset⟩ := s
  have hoffset : (offset.map UInt64.toNat).getD 0 = (offset.getD 0).toNat := by
    cases offset <;> rfl
  rw [Statement.ofSelect, answer, passing_eq, hoffset]
  simp only [compareBy_eq]
  cases limit <;> rfl

/-- The statement that is read answers with the number that is counted. -/
theorem answer_ofCount (s : Count) : t.answer (.ofCount s) = .number (t.count s) := by
  rw [Statement.ofCount, answer, passing_eq, count, found, List.length_mergeSort]

end Table

namespace Statement

variable (t : Table) {s : Statement} {conditions : List Condition}

/-- The columns of a statement for records are those that it shows and those that it orders by. -/
lemma columns_ofSelect (s : Select) : (ofSelect s).columns = s.columns ++ s.order.map (·.1) := by
  rw [ofSelect, columns, List.map_map]
  rfl

/-- A statement is known where its columns and those of its conditions are. -/
lemma isKnown_eq (h : s.tests = conditions.map Test.ofCondition) :
    s.isKnown t = (s.columns.all (fun column => (t.position? column).isSome) &&
      conditions.all fun c => (t.position? c.column).isSome) := by
  rw [isKnown, h, List.all_append, List.map_map, List.all_map]
  refine congrArg _ (List.all_congr rfl fun c => ?_)
  rw [Function.comp_apply, Function.comp_apply, Test.column_ofCondition]

/-- A statement is bound where the values at the places of its conditions are. -/
lemma isBound_eq (h : s.tests = conditions.map Test.ofCondition) :
    s.isBound t = (t.rows.isEmpty || conditions.all fun c => c.places.all fun place => place.cell?.isSome) := by
  rw [isBound, h, List.all_map]
  refine congrArg _ (List.all_congr rfl fun c => ?_)
  rw [Function.comp_apply, Test.scalars_ofCondition, List.all_map]
  refine List.all_congr rfl fun place => ?_
  rw [Function.comp_apply, Scalar.cell?_ofPlace]

end Statement

/-- What the engine answers to the text of a statement for records and its parameters. -/
theorem execute?_select {tables : String → Option Table} {s : Select} (h : s.columns ≠ []) {t : Table}
    (htable : tables s.table = some t) :
    execute? tables s.text s.params =
      if (Statement.ofSelect s).isKnown t ∧ (Statement.ofSelect s).isBound t then
        some (.rows (t.select s)) else none := by
  rw [execute?, Select.read?_text h, ← Table.answer_ofSelect]
  show (tables s.table).bind _ = _
  rw [htable]
  rfl

/-- What the engine answers to the text of a statement for the number of records. -/
theorem execute?_count {tables : String → Option Table} {s : Count} {t : Table}
    (htable : tables s.table = some t) :
    execute? tables s.text s.params =
      if (Statement.ofCount s).isKnown t ∧ (Statement.ofCount s).isBound t then
        some (.number (t.count s)) else none := by
  rw [execute?, Count.read?_text, ← Table.answer_ofCount]
  show (tables s.table).bind _ = _
  rw [htable]
  rfl

end PagedListing.Sql

import PagedListing.Sql.Cell.Form
import PagedListing.Sql.Table
import PagedListing.Store.Record

/-!
# Stores over tables

A store over a table answers by statements, which only one query at a time may run. A row becomes a
record by the JSON forms of its cells, and has to have an integer of 64 bits for its number. A query
that breaks down while it runs leaves the table locked for good.
-/

namespace PagedListing

open PagedListing.Sql (Row Select Count)

/-- A store over a table. -/
structure TableStore where
  schema : Schema
  /-- The table of the schema's name, if there is one. -/
  table : Option Sql.Table
  /-- Whether a query has broken down. -/
  isBroken : Bool := false

/-- Why a statement has no result. -/
inductive Interruption where
  | error (e : Error)
  /-- The query broke down. -/
  | breakdown

/-- The result of a statement. -/
abbrev Outcome (α : Type) := Except Interruption α

namespace Outcome

variable {α : Type}

/-- A failure of the store. -/
def fail (problem : String) : Outcome α := .error (.error (.storage problem))

/-- A value, or a failure of the store where there is none. -/
def orFail (problem : String) : Option α → Outcome α
  | some a => .ok a
  | none => fail problem

end Outcome

namespace TableStore

/-- The members of a row: the forms of the cells under the names of the fields. -/
def members? (schema : Schema) (row : Row) : Option Members := do
  let forms ← row.mapM Sql.Cell.form?
  return schema.fieldNames.zip forms

/-- The record of some members, if they have an integer of 64 bits for its number. -/
def record? (members : Members) : Option Record := do
  let id ← (members.value "id").asInt64?
  return .ofJson id (.obj members)

/-- The record of a row. -/
def readRow (schema : Schema) (row : Row) : Outcome Record :=
  match members? schema row with
  | none => .error .breakdown
  | some members => .orFail "Failed to decode row" (record? members)

/-- The records of rows, up to the first that fails. -/
def readRows (schema : Schema) : List Row → Outcome (List Record)
  | [] => .ok []
  | row :: rows => do return (← readRow schema row) :: (← readRows schema rows)

/-- The table of a statement, if it has the columns that the statement names. -/
def prepare (store : TableStore) (columns : List String) (conditions : List Sql.Condition)
    (problem : String := "Failed to prepare query") : Outcome Sql.Table :=
  match store.table with
  | none => .fail problem
  | some table =>
    let known (column : String) : Bool := (table.position? column).isSome
    if columns.all known && conditions.all (known ·.column) then .ok table
    else .fail problem

/-- A statement can be run on rows only if the values at its places can be read. -/
def bind (table : Sql.Table) (conditions : List Sql.Condition)
    (problem : String := "Failed to run query") : Outcome Unit :=
  if table.rows.isEmpty || conditions.all (·.places.all (·.cell?.isSome)) then .ok ()
  else .fail problem

/-- The records that a statement selects. -/
def records (store : TableStore) (s : Select) : Outcome (List Record) := do
  let table ← store.prepare (s.columns ++ s.order.map (·.1)) s.conditions
  bind table s.conditions
  readRows store.schema (table.select s)

/-- The number of rows that a statement counts. -/
def total (store : TableStore) (s : Count) : Outcome Nat := do
  let problem := "Failed to count rows"
  let table ← store.prepare [] s.conditions problem
  bind table s.conditions problem
  return table.count s

/-- Run statements alone on the table. -/
def alone {α : Type} (run : TableStore → Outcome α) : Answer TableStore α := fun store =>
  if store.isBroken then (.error (.storage "DuckDB connection lock poisoned"), store)
  else match run store with
  | .ok a => (.ok a, store)
  | .error (.error e) => (.error e, store)
  | .error .breakdown => (.error (.storage "DuckDB task failed"), { store with isBroken := true })

/-- The store of a valid schema over a table with declared columns and rows of texts; without columns
there is no table. -/
def create (schema : Schema) (columns : Option (List (String × String)))
    (rows : List (List (Option String))) : Except Error TableStore := do
  schema.validate
  match columns with
  | none => return { schema, table := none }
  | some columns =>
    match Sql.Table.read? columns rows with
    | some table => return { schema, table }
    | none => throw (.storage "Failed to execute batch")

/-- A store over a table answers by statements. -/
instance : Store TableStore Record where
  schema := schema
  id := Record.id
  find options := fun store =>
    match Select.ofOptions store.schema options with
    | .error e => (.error e, store)
    | .ok s => alone (·.records s) store
  findAndCount options := fun store =>
    match Select.ofOptions store.schema options, Count.ofOptions store.schema options with
    | .ok s, .ok c => alone (fun t => do return (← t.records s, ← t.total c)) store
    | .error e, _ => (.error e, store)
    | _, .error e => (.error e, store)

end TableStore

end PagedListing

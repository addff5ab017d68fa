import PagedListing.Query.Basic

/-!
# Stores

A store holds records of one schema and answers find options. Answering may fail, and it may change
the store.
-/

namespace PagedListing

/-- An answer of a store, with the store after it. -/
abbrev Answer (σ α : Type) := σ → Except Error α × σ

namespace Answer

variable {σ α β : Type}

/-- A failure that leaves the store alone. -/
def fail (e : Error) : Answer σ α := fun s => (.error e, s)

/-- An answer that is not asked of the store. -/
def lift (x : Except Error α) : Answer σ α := fun s => (x, s)

/-- A further step on what was answered; a failure ends the steps. -/
def bind (x : Answer σ α) (f : α → Answer σ β) : Answer σ β := fun s =>
  match x s with
  | (.ok a, s) => f a s
  | (.error e, s) => (.error e, s)

/-- Answers are put together by handing on the store, up to the first error. -/
instance : Monad (Answer σ) where
  pure a := fun s => (.ok a, s)
  bind := bind

end Answer

/-- A store `σ` of records `ρ`. -/
class Store (σ : Type) (ρ : outParam Type) where
  /-- The schema of the records. -/
  schema : σ → Schema
  /-- The number of a record by which a cursor walks. -/
  id : ρ → Int64
  /-- The records that find options select. -/
  find : FindOptions → Answer σ (List ρ)
  /-- The records that find options select, and how many match apart from limit and offset. -/
  findAndCount : FindOptions → Answer σ (List ρ × Nat)

/-- The part of a list that an offset and a limit leave. -/
def window {α : Type} (options : FindOptions) (rows : List α) : List α :=
  let rest := rows.drop (options.skip.getD 0).toNat
  match options.take with
  | some n => rest.take n.toNat
  | none => rest

end PagedListing

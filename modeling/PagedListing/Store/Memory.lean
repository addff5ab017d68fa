import PagedListing.Store.Record

/-!
# Stores in memory

A store in memory keeps its records in the order of their insertion. It filters by the JSON form of
the records and sorts stably by the ordering: missing values come last in both directions, values of
different kinds count as equal, and timestamps that cannot be read come before all others.
-/

namespace PagedListing

open PagedListing.Time (Instant)

/-- How two optional instants compare; no instant comes first. -/
def compareInstants : Option Instant → Option Instant → Ordering
  | none, none => .eq
  | none, some _ => .lt
  | some _, none => .gt
  | some a, some b => compare a b

/-- How two numbers compare: as integers if both are of 64 bits, else as doubles. Other values do
not compare. -/
def compareNumbers? (a b : Json) : Option Ordering :=
  match a.asInt64?, b.asInt64? with
  | some m, some n => some (compare m.toInt n.toInt)
  | _, _ => do (← a.asDouble?).compare? (← b.asDouble?)

/-- How two values of a field compare in an ordering. -/
def compareValues (type : Option FieldType) (a b : Json) : Ordering :=
  if type = some .timestamp then
    compareInstants (a.asString?.bind Instant.read?) (b.asString?.bind Instant.read?)
  else match a, b with
    | .str s, .str t => compare s t
    | .bool s, .bool t => compare s t
    | a, b => (compareNumbers? a b).getD .eq

/-- How two objects compare by one field: a missing value comes last in both directions. -/
def compareField (schema : Schema) (entry : String × Direction) (a b : Members) : Ordering :=
  let left := a.value entry.1
  let right := b.value entry.1
  match left.isNull, right.isNull with
  | true, true => .eq
  | true, false => .gt
  | false, true => .lt
  | false, false =>
    entry.2.apply (compareValues ((schema.field? entry.1).map (·.type)) left right)

/-- How two objects compare by an ordering: the first field that tells them apart decides. -/
def compareRows (schema : Schema) : List (String × Direction) → Members → Members → Ordering
  | [], _, _ => .eq
  | entry :: rest, a, b => (compareField schema entry a b).then (compareRows schema rest a b)

/-- A store in memory, with the number of queries that it has answered, counted in 64 bits. -/
structure MemoryStore where
  schema : Schema
  records : List Record
  queries : UInt64 := 0

namespace MemoryStore

/-- The records with the members of their JSON forms; the first record that has no form fails. -/
def rows : List Record → Except Error (List (Members × Record))
  | [] => .ok []
  | r :: rest =>
    match r.form with
    | .error problem => .error (.json problem)
    | .ok form => do return (form.members, r) :: (← rows rest)

/-- All matching records, sorted. -/
def select (store : MemoryStore) (options : FindOptions) : Except Error (List Record) := do
  let found := (← rows store.records).filter fun row => options.filters.holds row.1
  let sorted := found.mergeSort fun a b =>
    compareRows store.schema options.order.entries a.1 b.1 != .gt
  return sorted.map (·.2)

/-- All matching records, sorted; the query is counted. -/
def matching (options : FindOptions) : Answer MemoryStore (List Record) := fun store =>
  (store.select options, { store with queries := store.queries + 1 })

/-- The store with a record at its end. -/
def insert (store : MemoryStore) (r : Record) : MemoryStore :=
  { store with records := store.records ++ [r] }

/-- A store in memory answers from its records. -/
instance : Store MemoryStore Record where
  schema := schema
  id := Record.id
  find options := do return window options (← matching options)
  findAndCount options := do
    let found ← matching options
    return (window options found, found.length)

end MemoryStore

end PagedListing

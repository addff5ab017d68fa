/-!
# Insertion-ordered maps

A list of named entries in which no name occurs twice. Inserting under a name that is there replaces
its value where it stands; a new name goes to the end. The main statements give the names and the
look-up after an insertion.
-/

namespace PagedListing

/-- The entries with the value of a name replaced, or a new entry at the end. -/
def putEntry {β : Type} (name : String) (value : β) :
    List (String × β) → List (String × β)
  | [] => [(name, value)]
  | entry :: rest =>
    if entry.1 = name then (name, value) :: rest else entry :: putEntry name value rest

/-- The names of entries. -/
def entryNames {β : Type} (entries : List (String × β)) : List String :=
  entries.map (·.1)

/-- Putting an entry leaves the names as they are, or adds a new one at the end. -/
theorem entryNames_putEntry {β : Type} (name : String) (value : β) (entries : List (String × β)) :
    entryNames (putEntry name value entries) =
      if name ∈ entryNames entries then entryNames entries else entryNames entries ++ [name] := by
  induction entries with
  | nil => simp [putEntry, entryNames]
  | cons entry rest ih =>
    rw [putEntry]
    split
    · rename_i h
      simp [entryNames, h]
    · rename_i h
      simp only [entryNames, List.map_cons, List.mem_cons] at ih ⊢
      rw [ih]
      have h' : name ≠ entry.1 := fun e => h e.symm
      simp only [h', false_or]
      split <;> simp_all

/-- A map from names to values that keeps the order of insertion. -/
structure OrderedMap (β : Type) where
  entries : List (String × β)
  nodup : (entryNames entries).Nodup

namespace OrderedMap

variable {β : Type}

/-- The map without entries. -/
def empty : OrderedMap β := ⟨[], List.nodup_nil⟩

instance : Inhabited (OrderedMap β) := ⟨empty⟩

/-- Two maps are the same when their entries are. -/
theorem ext {a b : OrderedMap β} (h : a.entries = b.entries) : a = b := by
  cases a
  cases b
  simp_all

/-- Two maps are equal if their entries are. -/
instance [DecidableEq β] : DecidableEq (OrderedMap β) := fun a b =>
  decidable_of_iff (a.entries = b.entries) ⟨ext, fun h => h ▸ rfl⟩

/-- Set the value of a name; a name that is there keeps its place. -/
def insert (m : OrderedMap β) (name : String) (value : β) : OrderedMap β where
  entries := putEntry name value m.entries
  nodup := by
    rw [entryNames_putEntry]
    split
    · exact m.nodup
    · rename_i h
      rw [List.nodup_append]
      refine ⟨m.nodup, by simp, ?_⟩
      intro a ha b hb e
      exact h (List.mem_singleton.mp hb ▸ e ▸ ha)

/-- The map of a list of insertions, made from the front on. -/
def ofList (entries : List (String × β)) : OrderedMap β :=
  entries.foldl (fun m entry => m.insert entry.1 entry.2) empty

/-- The value of a name. -/
def get? (m : OrderedMap β) (name : String) : Option β :=
  (m.entries.find? (·.1 = name)).map (·.2)

/-- Whether a name is there. -/
def contains (m : OrderedMap β) (name : String) : Bool :=
  m.entries.any (·.1 = name)

/-- The names in order. -/
def names (m : OrderedMap β) : List String :=
  entryNames m.entries

/-- The number of entries. -/
def size (m : OrderedMap β) : Nat :=
  m.entries.length

/-- Whether there are no entries. -/
def isEmpty (m : OrderedMap β) : Bool :=
  m.entries.isEmpty

/-- An insertion appends its name if it is new and leaves the names alone otherwise. -/
theorem names_insert (m : OrderedMap β) (name : String) (value : β) :
    (m.insert name value).names = if name ∈ m.names then m.names else m.names ++ [name] :=
  entryNames_putEntry name value m.entries

/-- An insertion changes what is found under its own name only. -/
theorem get?_insert (m : OrderedMap β) (name other : String) (value : β) :
    (m.insert name value).get? other = if other = name then some value else m.get? other := by
  simp only [get?, insert]
  induction m.entries with
  | nil => by_cases h : name = other <;> simp_all [putEntry, eq_comm]
  | cons entry rest ih =>
    rw [putEntry]
    split
    · rename_i h
      by_cases h' : other = name
      · simp [h']
      · have h'' : ¬ name = other := fun e => h' e.symm
        simp [h', h'', h]
    · rename_i h
      by_cases h' : entry.1 = other
      · have h'' : ¬ other = name := fun e => h (h'.trans e)
        simp [h', h'']
      · simpa [h'] using ih

end OrderedMap

end PagedListing

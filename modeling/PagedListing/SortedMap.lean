/-!
# Sorted maps

A list of named entries in strictly ascending order of their names, by code points. Inserting under
a name that is there replaces its value.
-/

namespace PagedListing

/-- The sorted entries with the value of a name set. -/
def putSorted {β : Type} (name : String) (value : β) :
    List (String × β) → List (String × β)
  | [] => [(name, value)]
  | entry :: rest =>
    if name < entry.1 then (name, value) :: entry :: rest
    else if entry.1 < name then entry :: putSorted name value rest
    else (name, value) :: rest

/-- The names ascend strictly. -/
def NamesAscend {β : Type} (entries : List (String × β)) : Prop :=
  entries.Pairwise fun a b => a.1 < b.1

/-- The entries after putting one are this one and some of those before. -/
theorem mem_putSorted {β : Type} {name : String} {value : β} {entries : List (String × β)}
    {entry : String × β} (h : entry ∈ putSorted name value entries) :
    entry = (name, value) ∨ entry ∈ entries := by
  induction entries with
  | nil =>
    rw [putSorted, List.mem_singleton] at h
    exact Or.inl h
  | cons first rest ih =>
    rw [putSorted] at h
    split at h
    · exact List.mem_cons.mp h
    · split at h
      · cases List.mem_cons.mp h with
        | inl e => exact Or.inr (e ▸ List.mem_cons_self)
        | inr h => exact (ih h).imp id (List.mem_cons_of_mem _)
      · exact (List.mem_cons.mp h).imp id (List.mem_cons_of_mem _)

/-- Putting an entry keeps the names ascending. -/
theorem NamesAscend.putSorted {β : Type} {name : String} {value : β} {entries : List (String × β)}
    (h : NamesAscend entries) : NamesAscend (putSorted name value entries) := by
  induction entries with
  | nil => simp [NamesAscend, PagedListing.putSorted]
  | cons first rest ih =>
    have hrest := List.pairwise_cons.mp h
    rw [PagedListing.putSorted]
    split
    · rename_i hlt
      refine List.pairwise_cons.mpr ⟨fun entry hentry => ?_, h⟩
      cases List.mem_cons.mp hentry with
      | inl e => exact e ▸ hlt
      | inr hmem => exact String.lt_trans hlt (hrest.1 entry hmem)
    · split
      · rename_i hgt
        refine List.pairwise_cons.mpr ⟨fun entry hentry => ?_, ih hrest.2⟩
        cases mem_putSorted hentry with
        | inl e => exact e ▸ hgt
        | inr hmem => exact hrest.1 entry hmem
      · rename_i hlt hgt
        have e : name = first.1 :=
          String.le_antisymm (String.not_lt.mp hgt) (String.not_lt.mp hlt)
        exact List.pairwise_cons.mpr ⟨fun entry hmem => e ▸ hrest.1 entry hmem, hrest.2⟩

/-- A map from names to values, in ascending order of the names. -/
structure SortedMap (β : Type) where
  entries : List (String × β)
  sorted : NamesAscend entries

namespace SortedMap

variable {β : Type}

/-- The map without entries. -/
def empty : SortedMap β := ⟨[], List.Pairwise.nil⟩

instance : Inhabited (SortedMap β) := ⟨empty⟩

/-- Two maps are the same when their entries are. -/
theorem ext {a b : SortedMap β} (h : a.entries = b.entries) : a = b := by
  cases a
  cases b
  simp_all

/-- Two maps are equal if their entries are. -/
instance [DecidableEq β] : DecidableEq (SortedMap β) := fun a b =>
  decidable_of_iff (a.entries = b.entries) ⟨ext, fun h => h ▸ rfl⟩

/-- Set the value of a name. -/
def insert (m : SortedMap β) (name : String) (value : β) : SortedMap β :=
  ⟨putSorted name value m.entries, m.sorted.putSorted⟩

/-- The map of a list of insertions, made from the front on. -/
def ofList (entries : List (String × β)) : SortedMap β :=
  entries.foldl (fun m entry => m.insert entry.1 entry.2) empty

/-- The map with all entries of another one set. -/
def insertAll (m other : SortedMap β) : SortedMap β :=
  other.entries.foldl (fun m entry => m.insert entry.1 entry.2) m

/-- The value of a name. -/
def get? (m : SortedMap β) (name : String) : Option β :=
  (m.entries.find? (·.1 = name)).map (·.2)

/-- The names in ascending order. -/
def names (m : SortedMap β) : List String :=
  m.entries.map (·.1)

/-- Whether there are no entries. -/
def isEmpty (m : SortedMap β) : Bool :=
  m.entries.isEmpty

/-- An insertion changes what is found under its own name only. -/
theorem get?_insert (m : SortedMap β) (name other : String) (value : β) :
    (m.insert name value).get? other = if other = name then some value else m.get? other := by
  obtain ⟨entries, sorted⟩ := m
  simp only [get?, insert]
  induction entries with
  | nil => by_cases h : name = other <;> simp_all [putSorted, eq_comm]
  | cons entry rest ih =>
    have hrest := List.pairwise_cons.mp sorted
    rw [putSorted]
    split
    · by_cases h' : other = name
      · simp [h']
      · have h'' : ¬ name = other := fun e => h' e.symm
        simp [h', h'']
    · split
      · rename_i hgt
        by_cases h' : entry.1 = other
        · have h'' : ¬ other = name := fun e => by
            rw [h', e] at hgt
            exact String.lt_irrefl _ hgt
          simp [h', h'']
        · simpa [h'] using ih hrest.2
      · rename_i hlt hgt
        have e : name = entry.1 :=
          String.le_antisymm (String.not_lt.mp hgt) (String.not_lt.mp hlt)
        by_cases h' : other = name
        · simp [h']
        · have h'' : ¬ name = other := fun e => h' e.symm
          have h''' : ¬ entry.1 = other := e ▸ h''
          simp [h', h'', h''']

end SortedMap

end PagedListing

import PagedListing.Proofs.Maps
import PagedListing.Proofs.Steps
import PagedListing.Store.Memory

/-!
# What a store in memory answers

A store whose records all have a form answers every query: the records of which the filters hold, in
the order of the row comparison, cut to the window (`MemoryStore.find_eq`,
`MemoryStore.findAndCount_eq`). Filters hold of an object when the predicate found under each name
holds of the member with that name (`FilterSet.holds_iff`).
-/

namespace PagedListing
open PagedListing.Steps

/-- Filters hold of an object when every predicate that the look-up finds does. -/
lemma FilterSet.holds_iff (filters : FilterSet) (row : Members) :
    filters.holds row = true ↔
      ∀ name predicate, filters.get? name = some predicate → predicate.holds (row.value name) = true := by
  simp only [FilterSet.holds, List.all_eq_true]
  constructor
  · intro h name predicate hget
    exact h (name, predicate) ((filters.mem_entries_iff name predicate).mpr hget)
  · intro h entry hmem
    exact h entry.1 entry.2 ((filters.mem_entries_iff entry.1 entry.2).mp hmem)

/-- Filters that hold under a scope hold in it. -/
lemma FilterSet.holds_of_insertAll {filters scope : FilterSet} {row : Members}
    (h : FilterSet.holds (filters.insertAll scope) row = true) : scope.holds row = true := by
  rw [FilterSet.holds_iff] at h ⊢
  intro name predicate hget
  apply h
  rw [SortedMap.get?_insertAll, hget, Option.some_or]

/-- The JSON form of a record can be written. -/
def Record.HasForm (r : Record) : Prop :=
  ∃ form, r.form = .ok form

/-- The members of a record's JSON form; none where it is no object. -/
def Record.members (r : Record) : Members :=
  r.toJson.members

/-- A record has its number in its JSON object. -/
def Record.Numbered (r : Record) : Prop :=
  ∃ ms : Members, r.form = .ok (.obj ms) ∧ ms.value "id" = .int r.id.toInt

/-- A record with a number has a form. -/
lemma Record.Numbered.hasForm {r : Record} (h : r.Numbered) : r.HasForm := by
  obtain ⟨ms, hform, -⟩ := h
  exact ⟨_, hform⟩

/-- A record with a number has it as its identity. -/
lemma Record.Numbered.value_id {r : Record} (h : r.Numbered) :
    r.members.value "id" = .int r.id.toInt := by
  obtain ⟨ms, hform, hid⟩ := h
  rw [Record.members, Record.toJson, hform]
  exact hid

/-- Whether filters hold of a record. -/
def FilterSet.admits (filters : FilterSet) (r : Record) : Bool :=
  filters.holds r.members

/-- Whether a record may stand before another one in an ordering. -/
def rowLe (schema : Schema) (order : OrderSpec) (a b : Record) : Bool :=
  compareRows schema order.entries a.members b.members != .gt

/-- The records that match some filters, sorted by an ordering. -/
def listing (schema : Schema) (filters : FilterSet) (order : OrderSpec) (records : List Record) :
    List Record :=
  (records.filter filters.admits).mergeSort (rowLe schema order)

/-- The listing of records depends on those that filters in it admit. -/
lemma listing_filter {schema : Schema} {filters : FilterSet} {order : OrderSpec}
    {records : List Record} {p : Record → Bool} (h : ∀ r, filters.admits r = true → p r = true) :
    listing schema filters order (records.filter p) = listing schema filters order records := by
  have hfilter : (records.filter p).filter filters.admits = records.filter filters.admits := by
    rw [List.filter_filter]
    refine List.filter_congr fun r _ => ?_
    cases hr : filters.admits r with
    | true => rw [h r hr]; rfl
    | false => rfl
  rw [listing, hfilter, listing]

/-- A record in a listing is a record that its filters admit. -/
lemma admits_of_mem_listing {schema : Schema} {filters : FilterSet} {order : OrderSpec}
    {records : List Record} {r : Record} (h : r ∈ listing schema filters order records) :
    r ∈ records ∧ filters.admits r = true :=
  List.mem_filter.mp (List.mem_mergeSort.mp h)

/-- A window is cut out of a list. -/
lemma window_sublist {α : Type} (options : FindOptions) (rows : List α) :
    (window options rows).Sublist rows := by
  rw [window]
  cases options.take with
  | none => exact List.drop_sublist _ _
  | some n => exact (List.take_sublist _ _).trans (List.drop_sublist _ _)

/-- A listing has as many records as its filters admit. -/
lemma length_listing (schema : Schema) (filters : FilterSet) (order : OrderSpec)
    (records : List Record) :
    (listing schema filters order records).length = (records.filter filters.admits).length :=
  List.length_mergeSort _

namespace MemoryStore

/-- Records with forms are given as rows. -/
lemma rows_eq {records : List Record} (h : ∀ r ∈ records, r.HasForm) :
    rows records = .ok (records.map fun r => (r.members, r)) := by
  induction records with
  | nil => rfl
  | cons r rest ih =>
    obtain ⟨form, hform⟩ := h r List.mem_cons_self
    have hrest := ih fun s hs => h s (List.mem_cons_of_mem r hs)
    have hmembers : r.members = form.members := by rw [Record.members, Record.toJson, hform]
    rw [rows, hform]
    refine bind_eq_ok_iff.mpr ⟨_, hrest, ?_⟩
    rw [List.map_cons, hmembers]
    rfl

/-- A store whose records all have a form selects its listing. -/
theorem select_eq {store : MemoryStore} (h : ∀ r ∈ store.records, r.HasForm)
    (options : FindOptions) :
    store.select options =
      .ok (listing store.schema options.filters options.order store.records) := by
  refine bind_eq_ok_iff.mpr ⟨_, rows_eq h, ?_⟩
  have hsort := List.map_mergeSort (f := Prod.snd) (s := rowLe store.schema options.order)
    (l := (store.records.filter options.filters.admits).map fun r => (r.members, r))
    (r := fun a b => compareRows store.schema options.order.entries a.1 b.1 != .gt) (by
      intro a ha b hb
      obtain ⟨r, -, rfl⟩ := List.mem_map.mp ha
      obtain ⟨s, -, rfl⟩ := List.mem_map.mp hb
      rfl)
  rw [List.map_map, Function.comp_def, List.map_id'] at hsort
  rw [List.filter_map, listing, ← hsort]
  rfl

/-- The store after one more query. -/
def counted (store : MemoryStore) : MemoryStore :=
  { store with queries := store.queries + 1 }

/-- A store answers the window of what it selects, and the query counts whether it fails or not. -/
lemma find_eq_select (store : MemoryStore) (options : FindOptions) :
    Store.find options store = (window options <$> store.select options, store.counted) := by
  show Answer.bind (matching options) _ store = _
  rw [Answer.bind, matching]
  cases store.select options with
  | ok found => rfl
  | error e => rfl

/-- A store in memory finds and counts in one selection. -/
lemma findAndCount_eq_select (store : MemoryStore) (options : FindOptions) :
    Store.findAndCount options store =
      ((fun found => (window options found, found.length)) <$> store.select options,
        store.counted) := by
  show Answer.bind (matching options) _ store = _
  rw [Answer.bind, matching]
  cases store.select options with
  | ok found => rfl
  | error e => rfl

/-- A store whose records all have a form answers the window of its listing. -/
theorem find_eq {store : MemoryStore} (h : ∀ r ∈ store.records, r.HasForm)
    (options : FindOptions) :
    Store.find options store =
      (.ok (window options (listing store.schema options.filters options.order store.records)),
        store.counted) := by
  rw [find_eq_select, select_eq h]
  rfl

/-- A store whose records all have a form answers the window of its listing and counts the whole
listing. -/
theorem findAndCount_eq {store : MemoryStore} (h : ∀ r ∈ store.records, r.HasForm)
    (options : FindOptions) :
    Store.findAndCount options store =
      (.ok (window options (listing store.schema options.filters options.order store.records),
        (listing store.schema options.filters options.order store.records).length),
        store.counted) := by
  rw [findAndCount_eq_select, select_eq h]
  rfl

end MemoryStore

end PagedListing

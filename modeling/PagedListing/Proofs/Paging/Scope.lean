import PagedListing.Proofs.Paging.Page

/-!
# Scopes

The filters of the overrides are a scope that no request leaves. Every listing under them is made of
the records in scope (`MemoryStore.listing_inScope`), so that two stores with the same records in
scope answer alike, whatever else they hold (`MemoryStore.paginate_inScope`).
-/

namespace PagedListing

variable {config : Config} {path : String} {overrides : Overrides} {params : Params}

namespace MemoryStore

/-- The records that the filters of some overrides admit. -/
def inScope (store : MemoryStore) (overrides : Overrides) : List Record :=
  store.records.filter overrides.filters.admits

/-- A listing under overrides is one of the records in scope. -/
lemma listing_inScope {store : MemoryStore} {query : PageQuery}
    (hquery : checkedQuery store.schema config params overrides = .ok query) :
    store.listing query =
      PagedListing.listing store.schema query.filters query.order (store.inScope overrides) :=
  (listing_filter fun _ => admits_of_checkedQuery hquery).symm

/-- Stores with the same records in scope have the same listings. -/
lemma listing_congr {a b : MemoryStore} {query : PageQuery} (hschema : a.schema = b.schema)
    (hscope : a.inScope overrides = b.inScope overrides)
    (hquery : checkedQuery a.schema config params overrides = .ok query) :
    a.listing query = b.listing query := by
  rw [listing_inScope hquery, listing_inScope (hschema ▸ hquery), hscope, hschema]

/-- A listing has as many records as match in scope. -/
lemma length_listing_inScope {store : MemoryStore} {query : PageQuery}
    (hquery : checkedQuery store.schema config params overrides = .ok query) :
    (store.listing query).length =
      ((store.inScope overrides).filter query.filters.admits).length := by
  rw [listing_inScope hquery, length_listing]

/-- Every record of a listing is in scope. -/
lemma inScope_of_mem_listing {store : MemoryStore} {query : PageQuery} {r : Record}
    (hquery : checkedQuery store.schema config params overrides = .ok query)
    (h : r ∈ store.listing query) : overrides.filters.admits r = true :=
  admits_of_checkedQuery hquery (PagedListing.admits_of_mem_listing h).2

/-- Stores with the same records in scope answer every request alike; every record that is shown is in
scope, and a total counts the records in scope that match the query. -/
theorem paginate_inScope {a b : MemoryStore} (config : Config) (path : String)
    (overrides : Overrides) (params : Params) (hschema : a.schema = b.schema)
    (hforms : ∀ r ∈ a.records, r.HasForm) (hforms' : ∀ r ∈ b.records, r.HasForm)
    (hscope : a.inScope overrides = b.inScope overrides) :
    (paginate config path overrides params a).1 = (paginate config path overrides params b).1 ∧
    (∀ page, (paginate config path overrides params a).1 = .ok page →
      ∀ r ∈ page.records, overrides.filters.admits r = true) ∧
    (∀ records total, (paginate config path overrides params a).1 = .ok (.offset records total) →
      ∃ query, checkedQuery a.schema config params overrides = .ok query ∧
        total = ((a.inScope overrides).filter query.filters.admits).length) := by
  cases hquery : checkedQuery a.schema config params overrides with
  | error e =>
    rw [paginate_error hquery, paginate_error (hschema ▸ hquery)]
    exact ⟨rfl, nofun, nofun⟩
  | ok query =>
    -- both stores get the same query, and its listing is one of the records in scope
    have hquery' : checkedQuery b.schema config params overrides = .ok query := hschema ▸ hquery
    have hlisting : a.listing query = b.listing query := listing_congr hschema hscope hquery
    have hadmits : ∀ r ∈ a.listing query, overrides.filters.admits r = true :=
      fun r => inScope_of_mem_listing hquery
    cases hpage : query.page with
    | some page =>
      rw [paginate_counted hforms hquery hpage, paginate_counted hforms' hquery' hpage, hlisting]
      refine ⟨rfl, ?_, ?_⟩
      · intro page h r hr
        cases h
        exact hadmits r (hlisting ▸ List.mem_of_mem_drop (List.mem_of_mem_take hr))
      · intro records total h
        cases h
        exact ⟨query, rfl, hlisting ▸ length_listing_inScope hquery⟩
    | none =>
      rw [paginate_cursor hforms hquery hpage, paginate_cursor hforms' hquery' hpage, hlisting]
      refine ⟨rfl, ?_, ?_⟩
      · intro page h r hr
        rw [(records_of_cursorAnswer h).1] at hr
        exact hadmits r (hlisting ▸ List.mem_of_mem_take hr)
      · intro records total h
        obtain ⟨-, after, next, e⟩ := records_of_cursorAnswer h
        cases e

/-- A task of a tenant. -/
def taskOf (id : Int64) (tenant : Int) : Record :=
  .ofJson id (.obj [("id", .int id.toInt), ("tenant", .int tenant)])

/-- A store of tasks. -/
def tasks (records : List Record) : MemoryStore :=
  ⟨⟨"task", [⟨"id", .integer⟩, ⟨"tenant", .integer⟩]⟩, records, 0⟩

/-- Overrides that keep to the tasks of the first tenant. -/
def firstTenant : Overrides :=
  { filters := .ofList [("tenant", .compare .equal (.integer 1))] }

/-- The tasks of another tenant do not show in a listing for the first one. -/
theorem paginate_inScope_tasks :
    (tasks [taskOf 1 1, taskOf 2 2]).inScope firstTenant = (tasks [taskOf 1 1]).inScope firstTenant ∧
    (paginate {} "tasks" firstTenant .empty (tasks [taskOf 1 1, taskOf 2 2])).1 =
      (paginate {} "tasks" firstTenant .empty (tasks [taskOf 1 1])).1 := by
  have hschema : (tasks [taskOf 1 1, taskOf 2 2]).schema = (tasks [taskOf 1 1]).schema := rfl
  have hscope : (tasks [taskOf 1 1, taskOf 2 2]).inScope firstTenant =
      (tasks [taskOf 1 1]).inScope firstTenant := rfl
  have hforms : ∀ r ∈ (tasks [taskOf 1 1, taskOf 2 2]).records, r.HasForm := by
    simp [tasks, taskOf, Record.HasForm, Record.ofJson]
  have hforms' : ∀ r ∈ (tasks [taskOf 1 1]).records, r.HasForm := by
    simp [tasks, taskOf, Record.HasForm, Record.ofJson]
  exact ⟨hscope, (paginate_inScope {} "tasks" firstTenant .empty hschema hforms hforms' hscope).1⟩

end MemoryStore

end PagedListing

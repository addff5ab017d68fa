import PagedListing.Paging.Page
import PagedListing.Proofs.Store.Memory

/-!
# Pages of a store in memory

Once the checked query is known, a page of a store in memory is computed from the listing of that
query: `paginate_counted` says how a counted page is cut from it, and `paginate_cursor` how the page
behind a cursor is. The parts of a list that stand on its pages are the list when they are put together
(`flatMap_pagePart`).
-/

namespace PagedListing
open PagedListing.Steps

variable {config : Config} {path : String} {overrides : Overrides} {params : Params}

/-- A checked query comes of a valid configuration, a composed query and overrides on declared
fields. -/
theorem checkedQuery_eq_ok_iff {schema : Schema} {query : PageQuery} :
    checkedQuery schema config params overrides = .ok query ↔
      config.validate = .ok () ∧ overrides.check schema = .ok () ∧
      ∃ q, compose params schema config = .ok q ∧ query = q.override overrides := by
  constructor
  · intro h
    obtain ⟨_, hconfig, h⟩ := bind_eq_ok_iff.mp h
    obtain ⟨q, hcompose, h⟩ := bind_eq_ok_iff.mp h
    obtain ⟨_, hcheck, h⟩ := bind_eq_ok_iff.mp h
    cases h
    exact ⟨hconfig, hcheck, q, hcompose, rfl⟩
  · rintro ⟨hconfig, hcheck, q, hcompose, rfl⟩
    exact bind_eq_ok_iff.mpr ⟨_, hconfig, bind_eq_ok_iff.mpr ⟨_, hcompose,
      bind_eq_ok_iff.mpr ⟨_, hcheck, rfl⟩⟩⟩

/-- Without overrides a query is checked as it is composed. -/
lemma checkedQuery_of_compose {schema : Schema} {query : PageQuery}
    (hconfig : config.validate = .ok ()) (hcompose : compose params schema config = .ok query) :
    checkedQuery schema config params {} = .ok query :=
  checkedQuery_eq_ok_iff.mpr ⟨hconfig, rfl, query, hcompose, rfl⟩

/-- The records that a query admits are admitted by its overrides. -/
lemma admits_of_checkedQuery {schema : Schema} {query : PageQuery} {r : Record}
    (hquery : checkedQuery schema config params overrides = .ok query)
    (h : query.filters.admits r = true) : overrides.filters.admits r = true := by
  obtain ⟨-, -, q, -, rfl⟩ := checkedQuery_eq_ok_iff.mp hquery
  exact FilterSet.holds_of_insertAll h

/-! ## Parts of a list -/

/-- The elements of a list that stand on the page with a number, from one on. -/
def pagePart {α : Type} (list : List α) (take page : Nat) : List α :=
  list.extract ((page - 1) * take) (min (page * take) list.length)

/-- A part of a list is what is taken behind the parts before it. -/
lemma pagePart_eq_take_drop {α : Type} (list : List α) (take : Nat) {page : Nat} (hpos : 0 < page) :
    pagePart list take page = (list.drop (take * (page - 1))).take take := by
  obtain ⟨before, rfl⟩ : ∃ before, page = before + 1 := ⟨page - 1, by omega⟩
  rw [pagePart, List.extract_eq_take_drop, Nat.add_sub_cancel, Nat.mul_comm take before,
    Nat.succ_mul, List.take_eq_take_iff, List.length_drop]
  omega

/-- The pages up to a number are the first elements of the list. -/
theorem flatMap_pagePart {α : Type} (list : List α) (take pages : Nat) :
    (List.range pages).flatMap (fun i => pagePart list take (i + 1)) = list.take (pages * take) := by
  induction pages with
  | zero => simp
  | succ pages ih =>
    rw [List.range_succ, List.flatMap_append, ih, List.flatMap_singleton,
      pagePart_eq_take_drop list take (Nat.succ_pos pages), Nat.succ_mul, List.take_add,
      Nat.mul_comm take]
    rfl

/-- A page behind the end of a list has nothing of it. -/
lemma pagePart_of_length_le {α : Type} {list : List α} {take page : Nat}
    (h : list.length ≤ (page - 1) * take) : pagePart list take page = [] := by
  rw [pagePart, List.extract_eq_take_drop, List.drop_eq_nil_of_le h, List.take_nil]

/-! ## Answers -/

namespace MemoryStore

/-- The listing of a query in a store. -/
def listing (store : MemoryStore) (query : PageQuery) : List Record :=
  PagedListing.listing store.schema query.filters query.order store.records

/-- A request whose query is not composed fails with the error of the query, and the store stays as it
is. -/
lemma paginate_error {store : MemoryStore} {e : Error}
    (h : checkedQuery store.schema config params overrides = .error e) :
    paginate config path overrides params store = (.error e, store) := by
  simp only [paginate, Store.schema, h]

/-- The page of a walk that shows some records. -/
def cursorAnswer (config : Config) (path : String) (params : Params) (query : PageQuery)
    (records : List Record) : Except Error (Page Record) :=
  match records.getLast? with
  | none => .ok (.cursor [] none 0 none)
  | some last => do
    let link ← nextLink config path (echo params query) (cursorKey config query) last.id
    return .cursor records (some last.id) records.length (some link)

/-- All that a page of a walk can be. -/
lemma cursorAnswer_cases {query : PageQuery} {records : List Record} {page : Page Record}
    (h : cursorAnswer config path params query records = .ok page) :
    (records = [] ∧ page = .cursor [] none 0 none) ∨
    (∃ last link, records.getLast? = some last ∧
      nextLink config path (echo params query) (cursorKey config query) last.id = .ok link ∧
      page = .cursor records (some last.id) records.length (some link)) := by
  rw [cursorAnswer] at h
  cases hlast : records.getLast? with
  | none =>
    rw [hlast] at h
    cases h
    exact .inl ⟨List.getLast?_eq_none_iff.mp hlast, rfl⟩
  | some last =>
    rw [hlast] at h
    obtain ⟨link, hlink, h⟩ := bind_eq_ok_iff.mp h
    cases h
    exact .inr ⟨last, link, rfl, hlink, rfl⟩

/-- The answer to a cursor is a cursor page of the records that were found. -/
lemma records_of_cursorAnswer {query : PageQuery} {records : List Record} {page : Page Record}
    (h : cursorAnswer config path params query records = .ok page) :
    page.records = records ∧ ∃ after next, page = .cursor records after records.length next := by
  obtain ⟨rfl, rfl⟩ | ⟨last, link, -, -, rfl⟩ := cursorAnswer_cases h
  · exact ⟨rfl, none, none, rfl⟩
  · exact ⟨rfl, _, _, rfl⟩

/-- A page number is answered by the window of what the store selects and by how much that is. -/
theorem paginate_eq_offset {store : MemoryStore} {query : PageQuery} {page : UInt32}
    (hquery : checkedQuery store.schema config params overrides = .ok query)
    (hpage : query.page = some page) :
    paginate config path overrides params store =
      ((fun found => .offset (window query.findOptions found) found.length) <$>
        store.select query.findOptions, store.counted) := by
  simp only [paginate, Store.schema, hquery, hpage]
  show Answer.bind (Store.findAndCount query.findOptions) _ store = _
  rw [Answer.bind, findAndCount_eq_select]
  cases store.select query.findOptions with
  | ok found => rfl
  | error e => rfl

/-- Without a page number the window of what the store selects is shown, and then the link is built. -/
theorem paginate_eq_cursor {store : MemoryStore} {query : PageQuery}
    (hquery : checkedQuery store.schema config params overrides = .ok query)
    (hpage : query.page = none) :
    paginate config path overrides params store =
      (do
        let found ← store.select { query.findOptions with skip := none }
        cursorAnswer config path params query (found.take query.take.toNat), store.counted) := by
  simp only [paginate, Store.schema, hquery, hpage]
  show Answer.bind (Store.find { query.findOptions with skip := none }) _ store = _
  rw [Answer.bind, find_eq_select]
  cases store.select { query.findOptions with skip := none } with
  | error e => rfl
  | ok found =>
    -- without an offset the window is the first records
    have hwindow : window { query.findOptions with skip := none } found =
        found.take query.take.toNat := rfl
    show _ = (cursorAnswer config path params query (found.take query.take.toNat), store.counted)
    dsimp only [Functor.map, Except.map]
    rw [hwindow, cursorAnswer]
    cases (found.take query.take.toNat).getLast? with
    | none => rfl
    | some last =>
      show Answer.bind (Answer.lift _) _ store.counted = _
      rw [Answer.bind, Answer.lift]
      dsimp only [Store.id]
      cases nextLink config path (echo params query) (cursorKey config query) last.id with
      | error e => rfl
      | ok link => rfl

/-- A counted page is cut from the listing and tells its length. -/
theorem paginate_counted {store : MemoryStore} {query : PageQuery} {page : UInt32}
    (hforms : ∀ r ∈ store.records, r.HasForm)
    (hquery : checkedQuery store.schema config params overrides = .ok query)
    (hpage : query.page = some page) :
    paginate config path overrides params store =
      (.ok (.offset (window query.findOptions (store.listing query)) (store.listing query).length),
        store.counted) := by
  rw [paginate_eq_offset hquery hpage, select_eq hforms]
  rfl

/-- Without a page number the first records of the listing are shown. -/
theorem paginate_cursor {store : MemoryStore} {query : PageQuery}
    (hforms : ∀ r ∈ store.records, r.HasForm)
    (hquery : checkedQuery store.schema config params overrides = .ok query)
    (hpage : query.page = none) :
    paginate config path overrides params store =
      (cursorAnswer config path params query ((store.listing query).take query.take.toNat),
        store.counted) := by
  rw [paginate_eq_cursor hquery hpage, select_eq hforms]
  rfl

/-- If the records that match are in order, the first ones are shown. -/
lemma paginate_sorted {store : MemoryStore} {query : PageQuery} {found before : List Record}
    {last : Record} {link : String} (hforms : ∀ r ∈ store.records, r.HasForm)
    (hquery : checkedQuery store.schema config params overrides = .ok query)
    (hpage : query.page = none) (hfound : store.records.filter query.filters.admits = found)
    (hsorted : found.Pairwise fun a b => rowLe store.schema query.order a b = true)
    (hshown : found.take query.take.toNat = before ++ [last])
    (hlink : nextLink config path (echo params query) (cursorKey config query) last.id = .ok link) :
    paginate config path overrides params store =
      (.ok (.cursor (before ++ [last]) (some last.id) (before ++ [last]).length (some link)),
        store.counted) := by
  have hlisting : store.listing query = found := by
    rw [listing, PagedListing.listing, hfound]
    exact List.mergeSort_of_pairwise hsorted
  have hanswer : cursorAnswer config path params query (before ++ [last]) =
      .ok (.cursor (before ++ [last]) (some last.id) (before ++ [last]).length (some link)) := by
    rw [cursorAnswer, List.getLast?_concat]
    exact bind_eq_ok_iff.mpr ⟨link, hlink, rfl⟩
  rw [paginate_cursor hforms hquery hpage, hlisting, hshown, hanswer]

/-- If no record matches, the walk is over. -/
lemma paginate_none {store : MemoryStore} {query : PageQuery}
    (hforms : ∀ r ∈ store.records, r.HasForm)
    (hquery : checkedQuery store.schema config params overrides = .ok query)
    (hpage : query.page = none) (hfound : store.records.filter query.filters.admits = []) :
    paginate config path overrides params store = (.ok (.cursor [] none 0 none), store.counted) := by
  have hlisting : store.listing query = [] := by
    rw [listing, PagedListing.listing, hfound, List.mergeSort_nil]
  rw [paginate_cursor hforms hquery hpage, hlisting, List.take_nil]
  rfl

/-- A request that is answered by a page passed the checks, and the page is a part of the listing. -/
theorem sublist_listing_of_paginate {store : MemoryStore} {page : Page Record}
    (hforms : ∀ r ∈ store.records, r.HasForm)
    (h : (paginate config path overrides params store).1 = .ok page) :
    ∃ query, checkedQuery store.schema config params overrides = .ok query ∧
      page.records.Sublist (store.listing query) := by
  cases hquery : checkedQuery store.schema config params overrides with
  | error e =>
    rw [paginate_error hquery] at h
    cases h
  | ok query =>
    refine ⟨query, rfl, ?_⟩
    cases hpage : query.page with
    | some number =>
      rw [paginate_counted hforms hquery hpage] at h
      cases h
      exact (List.take_sublist _ _).trans (List.drop_sublist _ _)
    | none =>
      rw [paginate_cursor hforms hquery hpage] at h
      rw [(records_of_cursorAnswer h).1]
      exact List.take_sublist _ _

/-- Every record on a page is in the listing of its query. -/
lemma mem_listing_of_paginate {store : MemoryStore} {page : Page Record}
    (hforms : ∀ r ∈ store.records, r.HasForm)
    (h : (paginate config path overrides params store).1 = .ok page) :
    ∃ query, checkedQuery store.schema config params overrides = .ok query ∧
      ∀ r ∈ page.records, r ∈ store.listing query := by
  obtain ⟨query, hquery, hsub⟩ := sublist_listing_of_paginate hforms h
  exact ⟨query, hquery, fun r hr => hsub.subset hr⟩

end MemoryStore

end PagedListing

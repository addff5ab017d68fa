import PagedListing.Proofs.Paging.Alike

/-!
# Pages of a walk agree in themselves

A page of a walk is made of its records, the number of the last one, their count and a link. They fit
together whatever the request asks for: the count is that of the records, number and link are there
exactly if records are, and the query of the link has one cursor, behind that number, one page size and
nothing else that a request of a walk must not have (`cursor_envelope`). A store that honours the limit
of its find options shows no more records than the page size.
-/

namespace PagedListing
open PagedListing.Number (int64Text)
open PagedListing.Web (Unmarked)

variable {config : Config} {path : String} {overrides : Overrides} {params : Params}
variable {query : PageQuery} {lastId : Int64} {link : String}

/-- A store finds no more records than the limit of the find options. -/
def HonoursTake (σ : Type) {ρ : Type} [Store σ ρ] : Prop :=
  ∀ (options : FindOptions) (take : UInt32) (store store' : σ) (records : List ρ),
    options.take = some take → Store.find options store = (.ok records, store') →
      records.length ≤ take.toNat

/-- Pairs that go on behind a number: the only cursor is the last pair and has the number, there is one
page size, no page number and no empty value. -/
structure GoesOn (cursor : String) (lastId : Int64) (pairs : List (String × String)) : Prop where
  walks : isCursor cursor = true
  last : pairs.getLast? = some (cursor, int64Text lastId)
  cursors : pairs.filter (isCursor ·.1) = [(cursor, int64Text lastId)]
  takes : ∃ size, pairs.filter (·.1 = Params.take) = [(Params.take, size)]
  noPage : ∀ pair ∈ pairs, pair.1 ≠ Params.page
  noEmpty : ∀ pair ∈ pairs, pair.2 ≠ ""

/-- The JSON form of a page of a walk over some data: it counts them, and it has a cursor and a link
exactly if there are any. -/
structure Envelope (form : Json) (data : List Json) : Prop where
  shows : form.members.value "data" = .arr data
  counts : form.members.value "count" = .int data.length
  after : (form.members.value "cursor").members.value "after" = .null ↔ data = []
  next : form.members.value "next" = .null ↔ data = []

/-! ## The query of a link -/

/-- The text of a number is not empty. -/
lemma int64Text_ne_empty (n : Int64) : int64Text n ≠ "" := by
  intro e
  have hread := Number.readInt64?_int64Text n
  rw [e] at hread
  cases hread

/-- What is repeated has no cursor. -/
lemma filter_isCursor_echo (params : Params) (query : PageQuery) :
    (echo params query).filter (isCursor ·.1) = [] := by
  refine List.filter_eq_nil_iff.mpr fun pair hmem hcursor => ?_
  have hnot := (name_of_mem_echo hmem).2.1
  rw [hcursor] at hnot
  cases hnot

/-- What is repeated has one page size. -/
lemma exists_filter_take_echo (hnodup : (entryNames (echo params query)).Nodup) :
    ∃ size, (echo params query).filter (·.1 = Params.take) = [(Params.take, size)] := by
  obtain ⟨-, raw, -, hmem⟩ | ⟨-, hmem⟩ := take_mem_echo_cases params query
  · exact ⟨raw, filter_eq_singleton_of_mem hnodup hmem⟩
  · exact ⟨_, filter_eq_singleton_of_mem hnodup hmem⟩

/-- What is repeated, with a cursor behind it, goes on behind the number of the cursor. -/
lemma goesOn_echo {cursor : String} (hcursor : isCursor cursor = true)
    (hnodup : (entryNames (echo params query)).Nodup) (lastId : Int64) :
    GoesOn cursor lastId (echo params query ++ [(cursor, int64Text lastId)]) := by
  have hname := isCursor_cases hcursor
  have hcases : ∀ pair ∈ echo params query ++ [(cursor, int64Text lastId)],
      pair ∈ echo params query ∨ pair = (cursor, int64Text lastId) := fun pair hmem =>
    (List.mem_append.mp hmem).imp id List.mem_singleton.mp
  constructor
  · exact hcursor
  · exact List.getLast?_concat
  · rw [List.filter_append, filter_isCursor_echo, List.nil_append]
    exact List.filter_cons_of_pos hcursor
  · obtain ⟨size, hsize⟩ := exists_filter_take_echo hnodup
    refine ⟨size, ?_⟩
    rw [List.filter_append, hsize, List.filter_cons_of_neg (by simpa using hname.1)]
    rfl
  · intro pair hmem
    cases hcases pair hmem with
    | inl hmem => exact (name_of_mem_echo hmem).2.2
    | inr e => exact e ▸ hname.2
  · intro pair hmem
    cases hcases pair hmem with
    | inl hmem => exact (name_of_mem_echo hmem).1
    | inr e => exact e ▸ int64Text_ne_empty lastId

/-- The query of a link goes on behind the number that the link was built for. -/
lemma goesOn_nextLink (haddress : Unmarked (listingAddress config path).toList) {schema : Schema}
    (hquery : checkedQuery schema config params overrides = .ok query)
    (hlink : nextLink config path (echo params query) (cursorKey config query) lastId = .ok link) :
    GoesOn (cursorKey config query) lastId (Web.Form.read (Web.Url.queryOf link)) := by
  rw [pairs_of_nextLink haddress hlink]
  exact goesOn_echo (isCursor_cursorKey config query) (nodup_echo_of_checkedQuery hquery) lastId

/-! ## Pages -/

/-- A page without records has its envelope, and nothing in it leads on. -/
lemma envelope_empty {ρ : Type} (recordJson : ρ → Json) :
    Envelope ((Page.cursor [] none 0 none).toJson recordJson) [] :=
  ⟨rfl, rfl, ⟨fun _ => rfl, fun _ => rfl⟩, ⟨fun _ => rfl, fun _ => rfl⟩⟩

/-- A page with records has its envelope, and its link and its cursor lead on. -/
lemma envelope_some {ρ : Type} (recordJson : ρ → Json) {records : List ρ} (hne : records ≠ [])
    (after : Int64) (next : String) :
    Envelope ((Page.cursor records (some after) records.length (some next)).toJson recordJson)
      (records.map recordJson) := by
  have hne : records.map recordJson ≠ [] := mt List.map_eq_nil_iff.mp hne
  refine ⟨rfl, ?_, ⟨nofun, fun h => absurd h hne⟩, ⟨nofun, fun h => absurd h hne⟩⟩
  rw [List.length_map]
  rfl

/-- A window has no more rows than it takes. -/
lemma length_window_le {α : Type} {options : FindOptions} {take : UInt32}
    (h : options.take = some take) (rows : List α) : (window options rows).length ≤ take.toNat := by
  rw [window, h]
  exact List.length_take_le _ _

/-- A store in memory honours the limit. -/
lemma MemoryStore.honoursTake : HonoursTake MemoryStore := by
  intro options take store store' records htake hfind
  rw [MemoryStore.find_eq_select] at hfind
  obtain ⟨found, -, rfl⟩ := Steps.map_eq_ok_iff.mp (congrArg Prod.fst hfind)
  exact length_window_le htake found

section

variable {σ ρ : Type} [Store σ ρ] {records : List ρ} {after : Option Int64} {count : Nat}
variable {next : Option String} {store store' : σ}

/-- A page of a walk is empty and ends it, or it has the number of its last record and the link behind
it. -/
lemma cursor_cases
    (h : paginate config path overrides params store =
      (.ok (.cursor records after count next), store')) :
    ∃ query, checkedQuery (Store.schema store) config params overrides = .ok query ∧
      query.page = none ∧ count = records.length ∧
      (HonoursTake σ → records.length ≤ query.take.toNat) ∧
      ((records = [] ∧ after = none ∧ next = none) ∨
      (∃ last link, records.getLast? = some last ∧ after = some (Store.id σ last) ∧
        next = some link ∧ nextLink config path (echo params query) (cursorKey config query)
          (Store.id σ last) = .ok link)) := by
  obtain ⟨query, hquery, ⟨-, _, _, e⟩ | ⟨hpage, h⟩⟩ := paginate_cases h
  · cases e
  refine ⟨query, hquery, hpage, ?_⟩
  obtain ⟨found, later, hfind, ⟨rfl, e⟩ | ⟨last, link, hlast, hlink, e⟩⟩ := cursorPage_cases h
  · cases e
    exact ⟨rfl, fun _ => Nat.zero_le _, .inl ⟨rfl, rfl, rfl⟩⟩
  · cases e
    exact ⟨rfl, fun hstore => hstore _ _ _ _ _ rfl hfind, .inr ⟨last, link, hlast, rfl, rfl, hlink⟩⟩

/-- The envelope of a cursor page agrees with its records, on any store: it counts them, and it has a
number to go on behind and a link exactly if there are any. Then the number is that of the last record,
and the query of the link goes on behind it. -/
theorem cursor_envelope (hhost : Unmarked config.host.toList) (hpath : Unmarked path.toList)
    (h : paginate config path overrides params store =
      (.ok (.cursor records after count next), store')) :
    HonoursTake MemoryStore ∧
    ∃ query, checkedQuery (Store.schema store) config params overrides = .ok query ∧
      query.page = none ∧ count = records.length ∧
      (∀ recordJson : ρ → Json, Envelope ((Page.cursor records after count next).toJson recordJson)
        (records.map recordJson)) ∧
      (HonoursTake σ → records.length ≤ query.take.toNat) ∧
      (records = [] ↔ after = none) ∧ (records = [] ↔ next = none) ∧
      ∀ last, records.getLast? = some last → after = some (Store.id σ last) ∧
        ∃ link, next = some link ∧
          GoesOn (cursorKey config query) (Store.id σ last)
            (Web.Form.read (Web.Url.queryOf link)) := by
  refine ⟨MemoryStore.honoursTake, ?_⟩
  obtain ⟨query, hquery, hpage, rfl, hbound, hcases⟩ := cursor_cases h
  have haddress := unmarked_listingAddress (checkedQuery_eq_ok_iff.mp hquery).1 hhost hpath
  refine ⟨query, hquery, hpage, rfl, ?_⟩
  obtain ⟨rfl, rfl, rfl⟩ | ⟨last, link, hlast, rfl, rfl, hlink⟩ := hcases
  · exact ⟨envelope_empty, hbound, ⟨fun _ => rfl, fun _ => rfl⟩, ⟨fun _ => rfl, fun _ => rfl⟩, nofun⟩
  · have hne : records ≠ [] := List.ne_nil_of_mem (List.mem_of_getLast? hlast)
    refine ⟨fun recordJson => envelope_some recordJson hne _ _, hbound,
      ⟨fun e => absurd e hne, nofun⟩, ⟨fun e => absurd e hne, nofun⟩, fun other hother => ?_⟩
    cases hlast.symm.trans hother
    exact ⟨rfl, link, rfl, goesOn_nextLink haddress hquery hlink⟩

end

/-- The link of a message goes on behind it, though the request has a page number, a cursor and an empty
value. -/
theorem MemoryStore.cursor_envelope_messages :
    ∃ link, (paginate byNumber "messages" {} strayParams (messagesOf [1, 2] 0)).1 =
        .ok (.cursor [message 1] (some 1) 1 (some link)) ∧
      [message 1].length ≤ strayQuery.take.toNat ∧
      GoesOn cursorAfter 1 (Web.Form.read (Web.Url.queryOf link)) := by
  obtain ⟨link, hlink, -⟩ := exists_link_messages (echo strayParams strayQuery) cursorAfter 1
  have hpage := finds_stray.paginate_eq hlink 0
  have hpath : Unmarked "messages".toList := by decide
  obtain ⟨hhonours, query, hquery, -, -, -, hbound, -, -, hgoesOn⟩ :=
    cursor_envelope (by decide) hpath hpage
  cases hquery.symm.trans finds_stray.checked
  obtain ⟨-, _, hnext, hlink⟩ := hgoesOn (message 1) rfl
  cases hnext
  exact ⟨link, congrArg Prod.fst hpage, hbound hhonours, hlink⟩

end PagedListing

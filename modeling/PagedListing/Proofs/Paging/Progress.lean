import PagedListing.Proofs.Paging.Walk

/-!
# Links lead on

A link carries one cursor, the last of its parameters, unless the address of the listing brings
cursors of its own (`entries_of_nextLink`). So the request of a link keeps to the records behind the
last one that was shown (`MemoryStore.beyond_of_paginate`), unless the overrides filter by the number
of the records themselves: they replace what a request asks of that number, and its cursor with it.
-/

namespace PagedListing
open PagedListing.Number (int64Text)

variable {config : Config} {path : String} {overrides : Overrides} {schema : Schema}
variable {params : Params} {query : PageQuery} {cursor link : String} {lastId : Int64}

/-- An address that brings no cursors of its own. -/
def NoCursor (config : Config) (path : String) : Prop :=
  ∀ name ∈ (addressParams config path).names, isCursor name = false

/-- An address without cursors gives none to the request. -/
lemma NoCursor.get?_eq_none (h : NoCursor config path) (hcursor : isCursor cursor = true) :
    (addressParams config path).get? cursor = none := by
  cases hget : (addressParams config path).get? cursor with
  | none => rfl
  | some value =>
    have hnot := h cursor ((OrderedMap.mem_names_iff _ _).mpr ⟨value, hget⟩)
    rw [hcursor] at hnot
    cases hnot

/-- An address without marks has no cursors. -/
lemma noCursor_of_unmarked (h : Web.Unmarked (listingAddress config path).toList) :
    NoCursor config path := by
  rw [NoCursor, addressParams_of_unmarked h]
  exact nofun

/-! ## The cursor of a link -/

/-- A link has its cursor at the end. -/
lemma entries_of_nextLink (haddress : NoCursor config path) (hcursor : isCursor cursor = true)
    (h : nextLink config path (echo params query) cursor lastId = .ok link) :
    (paramsOfLink link).entries =
      ((addressParams config path).putAll (echo params query)).entries ++
        [(cursor, int64Text lastId)] := by
  have hnew : ((addressParams config path).putAll (echo params query)).get? cursor = none := by
    rw [OrderedMap.get?_putAll_of_not_mem (not_mem_names_echo hcursor)]
    exact haddress.get?_eq_none hcursor
  rw [paramsOfLink_nextLink h, OrderedMap.putAll, List.foldl_append]
  exact OrderedMap.entries_insert_new hnew _

/-- The cursor of a link is the only one. -/
lemma mem_names_of_nextLink (haddress : NoCursor config path) (hcursor : isCursor cursor = true)
    (h : nextLink config path (echo params query) cursor lastId = .ok link) {name : String}
    (hname : isCursor name = true) : name ∈ (paramsOfLink link).names ↔ name = cursor := by
  rw [OrderedMap.names, entryNames, entries_of_nextLink haddress hcursor h, List.map_append,
    List.mem_append]
  have hother : name ∉ ((addressParams config path).putAll (echo params query)).names := by
    apply OrderedMap.not_mem_names_of_get?_eq_none
    rw [OrderedMap.get?_putAll_of_not_mem (not_mem_names_echo hname)]
    exact haddress.get?_eq_none hname
  constructor
  · intro hmem
    cases hmem with
    | inl hmem => exact absurd hmem hother
    | inr hmem => exact List.mem_singleton.mp hmem
  · intro e
    exact .inr (List.mem_singleton.mpr e)

/-- A cursor at the end of a request decides what is asked of the number of the records, unless the
overrides do. -/
lemma get?_id_of_concat {front : List (String × String)} (hid : schema.fieldType "id" = .ok .integer)
    (hcursor : isCursor cursor = true) (hfree : overrides.filters.get? "id" = none)
    (hentries : params.entries = front ++ [(cursor, int64Text lastId)])
    (hquery : checkedQuery schema config params overrides = .ok query) :
    query.filters.get? "id" = some (cursorPredicate cursor lastId) := by
  obtain ⟨-, -, q, hcompose, rfl⟩ := checkedQuery_eq_ok_iff.mp hquery
  obtain ⟨hreadable, hfilters, -⟩ := compose_iff_reading.mp hcompose
  have hkey := ofKey_cursor hcursor
  have hby : filtersBy "id" (cursor, int64Text lastId) = true :=
    filtersBy_eq_true_iff.mpr ⟨_, hkey⟩
  have hlast : lastFilter? "id" params.entries = some (cursor, int64Text lastId) := by
    rw [hentries, lastFilter?_concat, if_pos hby]
  have hread : filterOf? schema (cursor, int64Text lastId) =
      some ("id", cursorPredicate cursor lastId) :=
    filterOf?_eq_some hkey hid (build_cursor cursor lastId)
  have hasked : q.filters.get? "id" = some (cursorPredicate cursor lastId) := by
    rw [hfilters, get?_filtersOf hreadable, hlast, Option.bind_some, hread]
    rfl
  -- the overrides leave that predicate in its place
  show (q.filters.insertAll overrides.filters).get? "id" = _
  rw [SortedMap.get?_insertAll, hfree, Option.none_or, hasked]

namespace MemoryStore

variable {store : MemoryStore}

/-- A filter by number holds of every record in the listing. -/
lemma holds_of_mem_listing (hrecords : ∀ r ∈ store.records, r.Numbered) {p : Predicate}
    (hp : query.filters.get? "id" = some p) {r : Record} (hr : r ∈ store.listing query) :
    p.holds (.int r.id.toInt) = true := by
  obtain ⟨hmem, hadmits⟩ := admits_of_mem_listing hr
  rw [← (hrecords r hmem).value_id]
  exact (FilterSet.holds_iff _ _).mp hadmits "id" p hp

/-- The records behind a cursor stand behind its number. -/
theorem beyond_of_paginate {front : List (String × String)} {page : Page Record}
    (hid : store.schema.fieldType "id" = .ok .integer)
    (hrecords : ∀ r ∈ store.records, r.Numbered)
    (hcursor : isCursor cursor = true) (hfree : overrides.filters.get? "id" = none)
    (hentries : params.entries = front ++ [(cursor, int64Text lastId)])
    (hpage : (paginate config path overrides params store).1 = .ok page) :
    ∀ r ∈ page.records, Beyond cursor lastId r.id := by
  intro r hr
  obtain ⟨query, hquery, hlisted⟩ :=
    mem_listing_of_paginate (fun r hr => (hrecords r hr).hasForm) hpage
  have hp := get?_id_of_concat hid hcursor hfree hentries hquery
  have hholds := holds_of_mem_listing hrecords hp (hlisted r hr)
  rw [holds_cursorPredicate] at hholds
  exact of_decide_eq_true hholds

/-- The link of a page is built behind its last record, from the query of its request. -/
lemma nextLink_of_paginate {page : Page Record} {store' : MemoryStore}
    (h : paginate config path overrides params store = (.ok page, store'))
    (hnext : page.next? = some link) :
    ∃ query, ∃ last ∈ page.records,
      checkedQuery store.schema config params overrides = .ok query ∧
      nextLink config path (echo params query) (cursorKey config query) last.id = .ok link ∧
      page = .cursor page.records (some last.id) page.records.length (some link) := by
  obtain ⟨query, last, hlast, hquery, -, h⟩ := lastLink_of_paginate h hnext
  exact ⟨query, last, List.mem_of_getLast? hlast, hquery, h⟩

/-- A link carries one cursor, and the page it leads to has records on its side of the last record
only, whatever the overrides ask for beside the number of the records. -/
theorem paginate_progress {later : MemoryStore} {shown : List Record} {after : Int64} {count : Nat}
    {page : Page Record} (hid : store.schema.fieldType "id" = .ok .integer)
    (hschema : later.schema = store.schema) (hrecords : ∀ r ∈ later.records, r.Numbered)
    (hfree : overrides.filters.get? "id" = none) (haddress : NoCursor config path)
    (hfirst : (paginate config path overrides params store).1 =
      .ok (.cursor shown (some after) count (some link)))
    (hnext : (paginate config path overrides (paramsOfLink link) later).1 = .ok page) :
    (cursorAfter ∈ (paramsOfLink link).names ↔ cursorBefore ∉ (paramsOfLink link).names) ∧
    (cursorAfter ∈ (paramsOfLink link).names → ∀ r ∈ page.records, after < r.id) ∧
    (cursorBefore ∈ (paramsOfLink link).names → ∀ r ∈ page.records, r.id < after) := by
  obtain ⟨query, last, -, -, hlink, hpage⟩ := nextLink_of_paginate (Prod.ext hfirst rfl) rfl
  obtain ⟨-, hafter, -, -⟩ := Page.cursor.inj hpage
  cases hafter
  have hcursor := isCursor_cursorKey config query
  have hmem := fun {name : String} (hname : isCursor name = true) =>
    mem_names_of_nextLink haddress hcursor hlink hname
  have hbeyond := beyond_of_paginate (hschema ▸ hid) hrecords hcursor hfree
    (entries_of_nextLink haddress hcursor hlink) hnext
  rw [hmem (by decide), hmem (by decide)]
  -- the only cursor of the link is one of the two
  have hcases : cursorKey config query = cursorAfter ∨ cursorKey config query = cursorBefore := by
    simpa [isCursor] using hcursor
  rcases hcases with e | e
  · rw [e] at hbeyond ⊢
    exact ⟨⟨fun _ => by decide, fun _ => rfl⟩, fun _ => hbeyond, fun h => absurd h (by decide)⟩
  · rw [e] at hbeyond ⊢
    exact ⟨⟨fun h => absurd h (by decide), fun h => absurd rfl h⟩, fun h => absurd h (by decide),
      fun _ => hbeyond⟩

/-- A store of messages with some numbers, after some queries. -/
def messagesOf (ids : List Int64) (queries : UInt64) : MemoryStore :=
  ⟨messages.schema, ids.map message, queries⟩

/-- Messages are records with numbers. -/
lemma numbered_messagesOf (ids : List Int64) (k : UInt64) :
    ∀ r ∈ (messagesOf ids k).records, r.Numbered := by
  intro r hr
  obtain ⟨id, -, rfl⟩ := List.mem_map.mp hr
  exact ⟨_, rfl, rfl⟩

/-- The configuration under which messages are walked by their numbers. -/
def byNumber : Config := { cursorOrderField := "id" }

/-- The parameters for messages in ascending order, with others. -/
def inOrder (others : List (String × String)) : Params :=
  .ofList (("order__id", "asc") :: others)

/-- The query for messages in ascending order of which some filters hold. -/
def ascendingQuery (filters : List (String × Predicate)) : PageQuery :=
  ⟨none, 20, none, .ofList filters, .ofList [("id", .ascending)]⟩

/-- A request whose query has some messages in their order, of which it shows the first ones. -/
structure Finds (overrides : Overrides) (params : Params) (ids : List Int64) (query : PageQuery)
    (found before : List Int64) (last : Int64) : Prop where
  checked : checkedQuery messages.schema byNumber params overrides = .ok query
  unpaged : query.page = none
  matched : (ids.map message).filter query.filters.admits = found.map message
  sorted : (found.map message).Pairwise fun a b => rowLe messages.schema query.order a b = true
  shown : found.take query.take.toNat = before ++ [last]

/-- A request shows the first messages that are found for it. -/
lemma Finds.paginate_eq {ids found before : List Int64} {last : Int64}
    (h : Finds overrides params ids query found before last)
    (hlink : nextLink byNumber path (echo params query) (cursorKey byNumber query) last = .ok link)
    (k : UInt64) :
    paginate byNumber path overrides params (messagesOf ids k) =
      (.ok (.cursor ((before ++ [last]).map message) (some last)
          ((before ++ [last]).map message).length (some link)),
        messagesOf ids (k + 1)) := by
  have hforms : ∀ r ∈ (messagesOf ids k).records, r.HasForm :=
    fun r hr => (numbered_messagesOf ids k r hr).hasForm
  have hshown : (found.map message).take query.take.toNat = before.map message ++ [message last] := by
    rw [← List.map_take, h.shown, List.map_append, List.map_singleton]
  rw [List.map_append]
  exact paginate_sorted hforms h.checked h.unpaged h.matched h.sorted hshown hlink

/-- A request with one matching message shows it. -/
lemma Finds.single {ids : List Int64} {id : Int64} {filters : List (String × Predicate)}
    (hquery : checkedQuery messages.schema byNumber params overrides =
      .ok (ascendingQuery filters))
    (hfound : (ids.map message).filter (ascendingQuery filters).filters.admits = [message id]) :
    Finds overrides params ids (ascendingQuery filters) [id] [] id where
  checked := hquery
  unpaged := rfl
  matched := hfound
  sorted := List.pairwise_singleton _ _
  shown := rfl

/-- The address of the messages has no marks. -/
lemma unmarked_messages : Web.Unmarked (listingAddress byNumber "messages").toList := by decide

/-- The address of the messages can be read. -/
lemma exists_read_messages : ∃ url, Web.Url.read (listingAddress byNumber "messages") = .ok url :=
  Steps.exists_eq_ok_of_toBool (by decide +kernel)

/-- Links to messages are built, and they carry what is put into them. -/
lemma exists_link_messages (echoed : List (String × String)) (cursor : String) (lastId : Int64) :
    ∃ link, nextLink byNumber "messages" echoed cursor lastId = .ok link ∧
      paramsOfLink link = OrderedMap.empty.putAll (echoed ++ [(cursor, int64Text lastId)]) := by
  obtain ⟨link, hlink⟩ := exists_nextLink exists_read_messages echoed cursor lastId
  refine ⟨link, hlink, ?_⟩
  rw [paramsOfLink_nextLink hlink, addressParams_of_unmarked unmarked_messages]

/-- The message behind the first one is shown by its link. -/
theorem paginate_progress_messages :
    ∃ link page,
      (paginate byNumber "messages" {} (inOrder []) (messagesOf [1] 0)).1 =
        .ok (.cursor [message 1] (some 1) 1 (some link)) ∧
      (paginate byNumber "messages" {} (paramsOfLink link) (messagesOf [1, 2] 0)).1 = .ok page ∧
      page.records = [message 2] ∧ ∀ r ∈ page.records, 1 < r.id := by
  have hquery : checkedQuery messages.schema byNumber (inOrder []) {} = .ok (ascendingQuery []) :=
    checkedQuery_of_compose Config.validate_default rfl
  obtain ⟨link, hlink⟩ :=
    exists_nextLink exists_read_messages (echo (inOrder []) (ascendingQuery [])) cursorAfter 1
  have hfirst : paginate byNumber "messages" {} (inOrder []) (messagesOf [1] 0) =
      (.ok (.cursor [message 1] (some 1) 1 (some link)), messagesOf [1] 1) :=
    Finds.paginate_eq (.single hquery rfl) hlink 0
  -- the request of the link is read off what was put into it
  have hparams : paramsOfLink link = inOrder [("take", "20"), (cursorAfter, "1")] := by
    rw [paramsOfLink_nextLink hlink, addressParams_of_unmarked unmarked_messages]
    rfl
  have hquery' : checkedQuery messages.schema byNumber (paramsOfLink link) {} =
      .ok (ascendingQuery [("id", cursorPredicate cursorAfter 1)]) := by
    rw [hparams]
    exact checkedQuery_of_compose Config.validate_default rfl
  obtain ⟨link', hlink'⟩ := exists_nextLink exists_read_messages
    (echo (paramsOfLink link) (ascendingQuery [("id", cursorPredicate cursorAfter 1)])) cursorAfter 2
  have hnext : paginate byNumber "messages" {} (paramsOfLink link) (messagesOf [1, 2] 0) =
      (.ok (.cursor [message 2] (some 2) 1 (some link')), messagesOf [1, 2] 1) :=
    Finds.paginate_eq (.single hquery' rfl) hlink' 0
  have hschema : (messagesOf [1, 2] 0).schema = (messagesOf [1] 0).schema := rfl
  have hbehind := paginate_progress rfl hschema (numbered_messagesOf [1, 2] 0) rfl
    (noCursor_of_unmarked unmarked_messages) (congrArg Prod.fst hfirst) (congrArg Prod.fst hnext)
  refine ⟨link, _, congrArg Prod.fst hfirst, congrArg Prod.fst hnext, rfl, hbehind.2.1 ?_⟩
  rw [hparams]
  decide

/-- Overrides that ask for the numbers from one on. -/
def fromOne : Overrides :=
  { filters := .ofList [("id", .compare .moreOrEqual (.integer 1))] }

/-- A link for an ascending walk that leads to a record that is not behind the last one. -/
def FallsBack (path : String) (overrides : Overrides) (params : Params) (store : MemoryStore) :
    Prop :=
  ∃ shown after link page,
    (paginate byNumber path overrides params store).1 =
      .ok (.cursor shown (some after) shown.length (some link)) ∧
    cursorAfter ∈ (paramsOfLink link).names ∧
    (paginate byNumber path overrides (paramsOfLink link) store).1 = .ok page ∧
    ∃ r ∈ page.records, ¬ after < r.id

/-- A link that is composed to the query it comes from leads back. -/
lemma fallsBack_of_same {next : Params} {filters : List (String × Predicate)}
    (hquery : checkedQuery messages.schema byNumber params overrides = .ok (ascendingQuery filters))
    (hfound : ([1].map message).filter (ascendingQuery filters).filters.admits = [message 1])
    (haddress : ∃ url, Web.Url.read (listingAddress byNumber path) = .ok url)
    (hparams : (addressParams byNumber path).putAll
      (echo params (ascendingQuery filters) ++ [(cursorAfter, "1")]) = next)
    (hquery' : checkedQuery messages.schema byNumber next overrides = .ok (ascendingQuery filters))
    (hecho : echo next (ascendingQuery filters) = echo params (ascendingQuery filters))
    (hcursor : cursorAfter ∈ next.names) :
    FallsBack path overrides params (messagesOf [1] 0) := by
  obtain ⟨link, hlink⟩ :=
    exists_nextLink haddress (echo params (ascendingQuery filters)) cursorAfter 1
  have hnext : paramsOfLink link = next := by
    rw [paramsOfLink_nextLink hlink]
    exact hparams
  have hfirst : paginate byNumber path overrides params (messagesOf [1] 0) =
      (.ok (.cursor [message 1] (some 1) 1 (some link)), messagesOf [1] 1) :=
    Finds.paginate_eq (.single hquery hfound) hlink 0
  have hsecond : paginate byNumber path overrides (paramsOfLink link) (messagesOf [1] 0) =
      (.ok (.cursor [message 1] (some 1) 1 (some link)), messagesOf [1] 1) := by
    rw [hnext]
    exact Finds.paginate_eq (.single hquery' hfound) (hecho ▸ hlink) 0
  exact ⟨_, _, _, _, congrArg Prod.fst hfirst, hnext ▸ hcursor, congrArg Prod.fst hsecond,
    message 1, List.mem_singleton_self _, by decide⟩

/-- Where the overrides filter by the number, or the address has a cursor in front of another filter by
the number, a link leads back to the record that it comes from. -/
theorem paginate_fallsBack :
    (messagesOf [1] 0).schema.fieldType "id" = .ok .integer ∧
    (∀ r ∈ (messagesOf [1] 0).records, r.Numbered) ∧
    FallsBack "messages" fromOne (inOrder []) (messagesOf [1] 0) ∧
    FallsBack "messages?where__id__more_than=0" {}
      (inOrder [("where__id__less_than_or_equal", "5")]) (messagesOf [1] 0) := by
  refine ⟨rfl, numbered_messagesOf [1] 0, ?_, ?_⟩
  · -- the overrides replace the cursor
    have hquery : checkedQuery messages.schema byNumber (inOrder []) fromOne =
        .ok (ascendingQuery [("id", .compare .moreOrEqual (.integer 1))]) :=
      checkedQuery_eq_ok_iff.mpr ⟨Config.validate_default, rfl, _, rfl, rfl⟩
    have hquery' : checkedQuery messages.schema byNumber
        (inOrder [("take", "20"), (cursorAfter, "1")]) fromOne =
          .ok (ascendingQuery [("id", .compare .moreOrEqual (.integer 1))]) :=
      checkedQuery_eq_ok_iff.mpr ⟨Config.validate_default, rfl, _, rfl, rfl⟩
    refine fallsBack_of_same hquery rfl exists_read_messages ?_ hquery' rfl (by decide)
    rw [addressParams_of_unmarked unmarked_messages]
    rfl
  · -- the cursor keeps the place it has in the address, and the other filter follows it
    have haddress : addressParams byNumber "messages?where__id__more_than=0" =
        .ofList [(cursorAfter, "0")] := by decide +kernel
    have hquery : checkedQuery messages.schema byNumber
        (inOrder [("where__id__less_than_or_equal", "5")]) {} =
          .ok (ascendingQuery [("id", .compare .lessOrEqual (.integer 5))]) :=
      checkedQuery_of_compose Config.validate_default rfl
    have hquery' : checkedQuery messages.schema byNumber (.ofList [(cursorAfter, "1"),
        ("order__id", "asc"), ("where__id__less_than_or_equal", "5"), ("take", "20")]) {} =
          .ok (ascendingQuery [("id", .compare .lessOrEqual (.integer 5))]) :=
      checkedQuery_of_compose Config.validate_default rfl
    have hread := exists_read_of_addressParams haddress (by decide)
    refine fallsBack_of_same hquery rfl hread ?_ hquery' rfl (by decide)
    rw [haddress]
    rfl

end MemoryStore

end PagedListing

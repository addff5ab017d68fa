import PagedListing.Proofs.Paging.Effect
import PagedListing.Proofs.Paging.Progress

/-!
# Filters by number on a walk

A query has one predicate on each field, and a cursor is a predicate on the number of the records. So a
walk asks on its first page only what the request asks of that number: every later request has a cursor
at its end (`Follows`), and later pages have records behind the last one of the first page. What a
request asks holds on all pages if it holds of every number behind one of which it holds
(`MemoryStore.walk_numberFilter`).
-/

namespace PagedListing
open PagedListing.Number (int64Text)

variable {config : Config} {path : String} {overrides : Overrides} {schema : Schema}
variable {params : Params} {query q : PageQuery} {cursor link : String} {lastId : Int64}

/-- What stands behind a number that stands behind another one stands behind that one too. -/
lemma Beyond.trans {first second third : Int64} (h : Beyond cursor first second)
    (h' : Beyond cursor second third) : Beyond cursor first third := by
  unfold Beyond at h h' ⊢
  split at h
  · rename_i hcursor
    rw [if_pos hcursor] at h' ⊢
    exact Int64.lt_trans h h'
  · rename_i hcursor
    rw [if_neg hcursor] at h' ⊢
    exact Int64.lt_trans h' h

/-- An address that brings no directions of its own. -/
def NoDirection (config : Config) (path : String) : Prop :=
  ∀ name ∈ (addressParams config path).names, ∀ field,
    Directive.ofKey name ≠ .ok (some (.order field))

/-- An address without marks brings no directions. -/
lemma noDirection_of_unmarked (h : Web.Unmarked (listingAddress config path).toList) :
    NoDirection config path := by
  rw [NoDirection, addressParams_of_unmarked h]
  exact nofun

/-- A query is ordered by its overrides, or else by the parameters. -/
lemma order_of_checkedQuery (hquery : checkedQuery schema config params overrides = .ok query) :
    query.order = overrides.order.getD (orderOf params.entries) := by
  obtain ⟨-, -, q, hcompose, rfl⟩ := checkedQuery_eq_ok_iff.mp hquery
  obtain ⟨-, -, horder, -⟩ := compose_iff_reading.mp hcompose
  rw [PageQuery.override, horder]

/-- A link has the directions of the request. -/
lemma orderOf_nextLink (haddress : NoDirection config path) (hcursor : isCursor cursor = true)
    (hquery : checkedQuery schema config params overrides = .ok query)
    (h : nextLink config path (echo params q) cursor lastId = .ok link) :
    orderOf (paramsOfLink link).entries = orderOf params.entries := by
  have hnodup : (entryNames (echo params q ++ [(cursor, int64Text lastId)])).Nodup :=
    nodup_concat (nodup_echo_of_checkedQuery hquery) (not_mem_names_echo hcursor) _
  -- the address has no directions to put the repeated ones in another place
  have hread : orderOf (paramsOfLink link).entries =
      orderOf (echo params q ++ [(cursor, int64Text lastId)]) := by
    rw [paramsOfLink_nextLink h]
    exact congrArg OrderedMap.ofList (OrderedMap.filterMap_putAll
      (fun name hname value => orderOf?_eq_none value (haddress name hname)) hnodup)
  rw [hread, orderOf_echo_concat hcursor]

/-- A later request of a walk: it orders as the first query does, and its cursor stands at its end. -/
structure Follows (config : Config) (overrides : Overrides) (query : PageQuery) (lastId : Int64)
    (params : Params) : Prop where
  order : overrides.order.getD (orderOf params.entries) = query.order
  cursor : ∃ front, params.entries = front ++ [(cursorKey config query, int64Text lastId)]

/-- A link of a walk leads to a later request of the walk. -/
lemma Follows.of_nextLink (haddress : NoCursor config path) (hordered : NoDirection config path)
    (hquery : checkedQuery schema config params overrides = .ok q) (horder : q.order = query.order)
    (h : nextLink config path (echo params q) (cursorKey config q) lastId = .ok link) :
    Follows config overrides query lastId (paramsOfLink link) := by
  have hcursor := isCursor_cursorKey config q
  constructor
  · rw [orderOf_nextLink hordered hcursor hquery h, ← order_of_checkedQuery hquery, horder]
  · have hkey : cursorKey config q = cursorKey config query := cursorKey_congr horder
    exact ⟨_, hkey ▸ entries_of_nextLink haddress hcursor h⟩

/-- A predicate that holds of every number behind one of which it holds. -/
def Predicate.ClosedBeyond (p : Predicate) (cursor : String) : Prop :=
  ∀ first second : Int64, Beyond cursor first second → p.holds (.int first.toInt) = true →
    p.holds (.int second.toInt) = true

/-- A lower bound on the number stays satisfied upwards. -/
lemma Predicate.closedBeyond_moreOrEqual (bound : Int64) :
    (compare .moreOrEqual (.integer bound)).ClosedBeyond cursorAfter := by
  intro first second hbeyond h
  have hlt : first.toInt < second.toInt := Int64.lt_iff_toInt_lt.mp hbeyond
  rw [holds_compare_integer, Relation.holds, decide_eq_true_eq, ne_eq, Int.compare_eq_lt] at h ⊢
  omega

/-- An upper bound on the number stays satisfied downwards. -/
lemma Predicate.closedBeyond_lessOrEqual (bound : Int64) :
    (compare .lessOrEqual (.integer bound)).ClosedBeyond cursorBefore := by
  intro first second hbeyond h
  have hlt : second.toInt < first.toInt := Int64.lt_iff_toInt_lt.mp hbeyond
  rw [holds_compare_integer, Relation.holds, decide_eq_true_eq, ne_eq, Int.compare_eq_gt] at h ⊢
  omega

/-- A predicate on the number holds of all records of a page. -/
def Page.Satisfies (page : Page Record) (p : Predicate) : Prop :=
  ∀ r ∈ page.records, p.holds (.int r.id.toInt) = true

namespace MemoryStore

variable {store store' : MemoryStore} {pages : List (Page Record)} {n : Nat}

/-- A link of a walk leads to a later request of it, behind the last record of its page, and the records
stay as they are. -/
lemma follows_of_paginate {page : Page Record} {link : String} (haddress : NoCursor config path)
    (hordered : NoDirection config path)
    (horder : overrides.order.getD (orderOf params.entries) = query.order)
    (hpage : paginate config path overrides params store = (.ok page, store'))
    (hnext : page.next? = some link) :
    store'.schema = store.schema ∧ store'.records = store.records ∧
    ∃ last, page.records.getLast? = some last ∧
      Follows config overrides query last.id (paramsOfLink link) := by
  obtain ⟨q, last, hlast, hq, -, hlink, -⟩ := lastLink_of_paginate hpage hnext
  obtain ⟨hschema, hsame⟩ := paginate_frame config path overrides params store
  rw [hpage] at hschema hsame
  exact ⟨hschema, hsame, last, hlast,
    .of_nextLink haddress hordered hq ((order_of_checkedQuery hq).trans horder) hlink⟩

/-- From a later request on a walk shows the records behind its cursor. -/
lemma beyond_of_walk (hid : store.schema.fieldType "id" = .ok .integer)
    (hrecords : ∀ r ∈ store.records, r.Numbered) (hfree : overrides.filters.get? "id" = none)
    (haddress : NoCursor config path) (hordered : NoDirection config path)
    (hfollows : Follows config overrides query lastId params)
    (hwalk : walk config path overrides n params store = (.ok pages, store')) :
    ∀ page ∈ pages, ∀ r ∈ page.records, Beyond (cursorKey config query) lastId r.id := by
  have hcursor := isCursor_cursorKey config query
  -- on the number of pages; every link hands on a later request
  induction n generalizing params lastId store pages with
  | zero =>
    cases hwalk
    exact nofun
  | succ n ih =>
    obtain ⟨horder, front, hentries⟩ := hfollows
    obtain ⟨page, store₁, hpage, hcases⟩ := walk_succ_cases hwalk
    have hshown := beyond_of_paginate hid hrecords hcursor hfree hentries (congrArg Prod.fst hpage)
    obtain ⟨-, rfl⟩ | ⟨link, rest, hnext, hrest, rfl⟩ := hcases
    · intro page' hmem
      exact List.mem_singleton.mp hmem ▸ hshown
    · obtain ⟨hschema, hsame, last, hlast, hlater⟩ :=
        follows_of_paginate haddress hordered horder hpage hnext
      have hbehind := ih (hschema ▸ hid) (hsame ▸ hrecords) hlater hrest
      intro page' hmem r hr
      cases List.mem_cons.mp hmem with
      | inl e => exact hshown r (e ▸ hr)
      | inr hmem =>
        exact (hshown last (List.mem_of_getLast? hlast)).trans (hbehind page' hmem r hr)

/-- What a request asks of the number holds on the first page of a walk, and on all pages if it is
closed in the direction of the walk, as lower bounds are upwards and upper bounds downwards. -/
theorem walk_numberFilter {p : Predicate} (hid : store.schema.fieldType "id" = .ok .integer)
    (hrecords : ∀ r ∈ store.records, r.Numbered) (hfree : overrides.filters.get? "id" = none)
    (haddress : NoCursor config path) (hordered : NoDirection config path)
    (hquery : checkedQuery store.schema config params overrides = .ok query)
    (hp : query.filters.get? "id" = some p)
    (hwalk : (walk config path overrides (n + 1) params store).1 = .ok pages) :
    ∃ first later, pages = first :: later ∧ first.Satisfies p ∧
      (∀ page ∈ later, ∀ r ∈ page.records,
        ∃ shown ∈ first.records, Beyond (cursorKey config query) shown.id r.id) ∧
      (p.ClosedBeyond (cursorKey config query) → ∀ page ∈ pages, page.Satisfies p) ∧
      (∀ bound, p = .compare .moreOrEqual (.integer bound) → cursorKey config query = cursorAfter →
        ∀ page ∈ pages, page.Satisfies p) ∧
      (∀ bound, p = .compare .lessOrEqual (.integer bound) → cursorKey config query = cursorBefore →
        ∀ page ∈ pages, page.Satisfies p) := by
  have hforms : ∀ r ∈ store.records, r.HasForm := fun r hr => (hrecords r hr).hasForm
  obtain ⟨first, store₁, hpage, hcases⟩ := walk_succ_cases (Prod.ext hwalk rfl)
  -- the first page is of the listing of the query
  obtain ⟨query', hquery', hlisted⟩ := mem_listing_of_paginate hforms (congrArg Prod.fst hpage)
  rw [hquery] at hquery'
  cases hquery'
  have hfirst : first.Satisfies p :=
    fun r hr => holds_of_mem_listing hrecords hp (hlisted r hr)
  obtain ⟨later, rfl, hlater⟩ : ∃ later, pages = first :: later ∧ ∀ page ∈ later, ∀ r ∈ page.records,
      ∃ shown ∈ first.records, Beyond (cursorKey config query) shown.id r.id := by
    obtain ⟨-, rfl⟩ | ⟨link, rest, hnext, hrest, rfl⟩ := hcases
    · exact ⟨[], rfl, nofun⟩
    · -- the link leads on from a record of the first page
      obtain ⟨q, last, hlast, hq, hlink, -⟩ := nextLink_of_paginate hpage hnext
      rw [hquery] at hq
      cases hq
      have hfollows : Follows config overrides query last.id (paramsOfLink link) :=
        Follows.of_nextLink haddress hordered hquery rfl hlink
      obtain ⟨hschema, hsame⟩ := paginate_frame config path overrides params store
      rw [hpage] at hschema hsame
      have hbehind := beyond_of_walk (hschema ▸ hid) (hsame ▸ hrecords) hfree haddress hordered
        hfollows hrest
      exact ⟨rest, rfl, fun page hmem r hr => ⟨last, hlast, hbehind page hmem r hr⟩⟩
  have hclosed : p.ClosedBeyond (cursorKey config query) →
      ∀ page ∈ first :: later, page.Satisfies p := by
    intro hp page hmem r hr
    cases List.mem_cons.mp hmem with
    | inl e => exact hfirst r (e ▸ hr)
    | inr hmem =>
      obtain ⟨shown, hshown, hbehind⟩ := hlater page hmem r hr
      exact hp shown.id r.id hbehind (hfirst shown hshown)
  refine ⟨first, later, rfl, hfirst, hlater, hclosed, ?_, ?_⟩
  · rintro bound rfl hcursor
    exact hclosed (hcursor ▸ Predicate.closedBeyond_moreOrEqual bound)
  · rintro bound rfl hcursor
    exact hclosed (hcursor ▸ Predicate.closedBeyond_lessOrEqual bound)

/-- A walk of messages whose first pages show these numbers. -/
inductive Shows (path : String) (ids : List Int64) : Params → List (List Int64) → Prop where
  | stop {params : Params} : Shows path ids params []
  | next {params : Params} {query : PageQuery} {found before : List Int64} {last : Int64}
      {shown : List (List Int64)} (finds : Finds {} params ids query found before last)
      (rest : Shows path ids ((addressParams byNumber path).putAll
        (echo params query ++ [(cursorKey byNumber query, int64Text last)])) shown) :
      Shows path ids params ((before ++ [last]) :: shown)

/-- A walk of messages shows the numbers that are found for its requests. -/
lemma Shows.walk {ids : List Int64} {shown : List (List Int64)} (h : Shows path ids params shown)
    (haddress : ∃ url, Web.Url.read (listingAddress byNumber path) = .ok url) (k : UInt64) :
    ∃ pages store', walk byNumber path {} shown.length params (messagesOf ids k) =
      (.ok pages, store') ∧ pages.map Page.records = shown.map (·.map message) := by
  induction h generalizing k with
  | stop => exact ⟨[], _, rfl, rfl⟩
  | @next params query found before last shown finds rest ih =>
    obtain ⟨pages, store', hwalk, hpages⟩ := ih (k + 1)
    obtain ⟨link, hlink⟩ :=
      exists_nextLink haddress (echo params query) (cursorKey byNumber query) last
    rw [← paramsOfLink_nextLink hlink] at hwalk
    refine ⟨_, store', walk_next (finds.paginate_eq hlink k) rfl hwalk, ?_⟩
    rw [List.map_cons, hpages]
    rfl

/-- A lower bound holds of both messages of a walk in ascending order. -/
theorem walk_numberFilter_messages :
    ∃ pages : List (Page Record),
      (walk byNumber "messages" {} 2
        (inOrder [("where__id__more_than_or_equal", "1"), ("take", "1")]) (messagesOf [1, 2] 0)).1 =
        .ok pages ∧
      pages.map Page.records = [[message 1], [message 2]] ∧
      ∀ page ∈ pages, page.Satisfies (.compare .moreOrEqual (.integer 1)) := by
  have hfirst : Finds {} (inOrder [("where__id__more_than_or_equal", "1"), ("take", "1")]) [1, 2]
      { ascendingQuery [("id", .compare .moreOrEqual (.integer 1))] with take := 1 } [1, 2] [] 1 :=
    ⟨checkedQuery_of_compose Config.validate_default rfl, rfl, rfl,
      by decide +kernel, rfl⟩
  have hsecond : Finds {} (inOrder [("where__id__more_than_or_equal", "1"), ("take", "1"),
      (cursorAfter, "1")]) [1, 2]
      { ascendingQuery [("id", cursorPredicate cursorAfter 1)] with take := 1 } [2] [] 2 :=
    ⟨checkedQuery_of_compose Config.validate_default rfl, rfl, rfl,
      List.pairwise_singleton _ _, rfl⟩
  have hshows : Shows "messages" [1, 2]
      (inOrder [("where__id__more_than_or_equal", "1"), ("take", "1")]) [[1], [2]] := by
    refine .next hfirst ?_
    rw [addressParams_of_unmarked unmarked_messages]
    exact .next hsecond .stop
  obtain ⟨pages, store', hwalk, hpages⟩ := hshows.walk exists_read_messages 0
  obtain ⟨first, later, -, -, -, -, hbound, -⟩ := walk_numberFilter rfl
    (numbered_messagesOf [1, 2] 0) rfl (noCursor_of_unmarked unmarked_messages)
    (noDirection_of_unmarked unmarked_messages) hfirst.checked rfl (congrArg Prod.fst hwalk)
  exact ⟨pages, congrArg Prod.fst hwalk, hpages, hbound 1 rfl rfl⟩

/-- A walk of messages on which a filter by number does not hold of all that is shown. -/
def Escapes (path : String) (params : Params) (ids : List Int64) (n : Nat) : Prop :=
  ∃ query p pages,
    checkedQuery messages.schema byNumber params {} = .ok query ∧ query.page = none ∧
    query.filters.get? "id" = some p ∧
    (walk byNumber path {} n params (messagesOf ids 0)).1 = .ok pages ∧
    ∃ page ∈ pages, ¬ page.Satisfies p

/-- A filter by number that fails of a number on a page of a walk escapes the walk. -/
lemma Shows.escapes {ids : List Int64} {shown : List (List Int64)} {p : Predicate}
    (h : Shows path ids params shown)
    (haddress : ∃ url, Web.Url.read (listingAddress byNumber path) = .ok url)
    (hquery : checkedQuery messages.schema byNumber params {} = .ok query)
    (hpage : query.page = none) (hp : query.filters.get? "id" = some p)
    (hfails : ∃ numbers ∈ shown, ∃ id ∈ numbers, p.holds (.int id.toInt) = false) :
    Escapes path params ids shown.length := by
  obtain ⟨pages, store', hwalk, hpages⟩ := h.walk haddress 0
  obtain ⟨numbers, hnumbers, id, hid, hfails⟩ := hfails
  have hrecords : numbers.map message ∈ pages.map Page.records :=
    hpages ▸ List.mem_map_of_mem hnumbers
  obtain ⟨page, hmem, hpage'⟩ := List.mem_map.mp hrecords
  refine ⟨query, p, pages, hquery, hpage, hp, congrArg Prod.fst hwalk, page, hmem, fun hall => ?_⟩
  have hholds := hall (message id) (hpage' ▸ List.mem_map_of_mem hid)
  exact Bool.false_ne_true (hfails.symm.trans hholds)

/-- A message other than the one that is asked for is shown behind it. -/
lemma escapes_equal : Escapes "messages" (inOrder [("where__id", "1")]) [1, 2] 2 := by
  have hfirst : checkedQuery messages.schema byNumber (inOrder [("where__id", "1")]) {} =
      .ok (ascendingQuery [("id", .compare .equal (.integer 1))]) :=
    checkedQuery_of_compose Config.validate_default rfl
  have hsecond : checkedQuery messages.schema byNumber
      (inOrder [("where__id", "1"), ("take", "20"), (cursorAfter, "1")]) {} =
        .ok (ascendingQuery [("id", cursorPredicate cursorAfter 1)]) :=
    checkedQuery_of_compose Config.validate_default rfl
  have hshows : Shows "messages" [1, 2] (inOrder [("where__id", "1")]) [[1], [2]] := by
    refine .next (.single hfirst rfl) ?_
    rw [addressParams_of_unmarked unmarked_messages]
    exact .next (.single hsecond rfl) .stop
  exact hshows.escapes exists_read_messages hfirst rfl rfl (by decide)

/-- With a direction in the address a walk that begins downwards turns round. -/
lemma escapes_direction : Escapes "messages?order__id=asc"
    (.ofList [("where__id__less_than_or_equal", "2")]) [1, 2, 3] 3 := by
  have hown : addressParams byNumber "messages?order__id=asc" =
      .ofList [("order__id", "asc")] := by decide +kernel
  have haddress := exists_read_of_addressParams hown (by decide)
  have hfirst : Finds {} (.ofList [("where__id__less_than_or_equal", "2")]) [1, 2, 3]
      ⟨none, 20, none, .ofList [("id", .compare .lessOrEqual (.integer 2))], .empty⟩ [1, 2] [1] 2 :=
    ⟨checkedQuery_of_compose Config.validate_default rfl, rfl, rfl,
      by decide +kernel, rfl⟩
  have hsecond : Finds {} (inOrder [("where__id__less_than_or_equal", "2"), ("take", "20"),
      (cursorBefore, "2")]) [1, 2, 3]
      (ascendingQuery [("id", cursorPredicate cursorBefore 2)]) [1] [] 1 :=
    .single (checkedQuery_of_compose Config.validate_default rfl) rfl
  have hthird : Finds {} (inOrder [("where__id__less_than_or_equal", "2"), ("take", "20"),
      (cursorAfter, "1")]) [1, 2, 3]
      (ascendingQuery [("id", cursorPredicate cursorAfter 1)]) [2, 3] [2] 3 :=
    ⟨checkedQuery_of_compose Config.validate_default rfl, rfl, rfl,
      by decide +kernel, rfl⟩
  -- down to the first message, and from there up to those that were not asked for
  have hshows : Shows "messages?order__id=asc" [1, 2, 3]
      (.ofList [("where__id__less_than_or_equal", "2")]) [[1, 2], [1], [2, 3]] := by
    refine .next hfirst ?_
    rw [hown]
    refine .next hsecond ?_
    rw [hown]
    exact .next hthird .stop
  exact hshows.escapes haddress hfirst.checked rfl rfl (by decide)

/-- With a cursor in the address a filter that follows it there decides. -/
lemma escapes_cursor :
    Escapes "messages?where__id__more_than=0&where__id__more_than_or_equal=0&where__id__in=1"
      (inOrder [("where__id__more_than_or_equal", "2")]) [1, 2] 2 := by
  have hown : addressParams byNumber
      "messages?where__id__more_than=0&where__id__more_than_or_equal=0&where__id__in=1" =
        .ofList [(cursorAfter, "0"), ("where__id__more_than_or_equal", "0"),
          ("where__id__in", "1")] := by decide +kernel
  have haddress := exists_read_of_addressParams hown (by decide)
  have hfirst : checkedQuery messages.schema byNumber
      (inOrder [("where__id__more_than_or_equal", "2")]) {} =
        .ok (ascendingQuery [("id", .compare .moreOrEqual (.integer 2))]) :=
    checkedQuery_of_compose Config.validate_default rfl
  have hsecond : checkedQuery messages.schema byNumber (.ofList [(cursorAfter, "2"),
      ("where__id__more_than_or_equal", "2"), ("where__id__in", "1"), ("order__id", "asc"),
      ("take", "20")]) {} = .ok (ascendingQuery [("id", .among [.integer 1])]) :=
    checkedQuery_of_compose Config.validate_default rfl
  have hshows : Shows
      "messages?where__id__more_than=0&where__id__more_than_or_equal=0&where__id__in=1" [1, 2]
      (inOrder [("where__id__more_than_or_equal", "2")]) [[2], [1]] := by
    refine .next (.single hfirst rfl) ?_
    rw [hown]
    exact .next (.single hsecond rfl) .stop
  exact hshows.escapes haddress hfirst rfl rfl (by decide)

/-- A number that is asked for is not asked for behind the first page. Lower and upper bounds are lost
too if the address of the listing turns the walk round or has a cursor of its own. -/
theorem walk_escapes :
    messages.schema.fieldType "id" = .ok .integer ∧
    (∀ ids, ∀ r ∈ (messagesOf ids 0).records, r.Numbered) ∧
    Escapes "messages" (inOrder [("where__id", "1")]) [1, 2] 2 ∧
    Escapes "messages?order__id=asc" (.ofList [("where__id__less_than_or_equal", "2")])
      [1, 2, 3] 3 ∧
    Escapes "messages?where__id__more_than=0&where__id__more_than_or_equal=0&where__id__in=1"
      (inOrder [("where__id__more_than_or_equal", "2")]) [1, 2] 2 :=
  ⟨rfl, fun ids => numbered_messagesOf ids 0, escapes_equal, escapes_direction, escapes_cursor⟩

end MemoryStore

end PagedListing

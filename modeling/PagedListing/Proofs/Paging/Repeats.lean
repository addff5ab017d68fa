import PagedListing.Proofs.Paging.Ending

/-!
# Records that a walk repeats

A cursor is the number of the last record of a page, whatever the listing is ordered by. So later pages
stand behind the last record of every earlier one (`MemoryStore.precedes_of_walk`), and a walk repeats
the records of a page that stand behind its last one as well, since it does not tell them from those that
it has not shown (`MemoryStore.chain_of_walk`). Pages are apart if each of them ends with the last
number in the direction of the walk, as they do if the ordering agrees with the numbers
(`MemoryStore.walk_apart`).
-/

namespace PagedListing
open PagedListing.Sorting (PreorderOn mergeSort_filter)

variable {config : Config} {path : String} {overrides : Overrides} {schema : Schema}
variable {records : List Record} {first params : Params} {query : PageQuery} {cursor : String}
variable {behind : Option Int64}

/-- Nothing of what stands in the direction of a cursor stands behind the last record. -/
lemma not_beyond_getLast {l : List Record} {last r : Record}
    (h : l.Pairwise fun a b => ¬ Beyond cursor b.id a.id) (hlast : l.getLast? = some last)
    (hr : r ∈ l) : ¬ Beyond cursor last.id r.id := by
  obtain ⟨shown, rfl⟩ := List.getLast?_eq_some_iff.mp hlast
  cases List.mem_append.mp hr with
  | inl hr => exact (List.pairwise_append.mp h).2.2 r hr last (List.mem_singleton_self last)
  | inr hr =>
    rw [List.mem_singleton.mp hr]
    exact fun hself => hself.asymm hself

namespace Page

/-- Two pages have no number in common. -/
def Apart (page later : Page Record) : Prop :=
  ∀ a ∈ page.records, ∀ b ∈ later.records, a.id ≠ b.id

/-- The records of a page stand behind the last one of another page. -/
def Precedes (cursor : String) (page later : Page Record) : Prop :=
  ∀ last ∈ page.records.getLast?, ∀ r ∈ later.records, Beyond cursor last.id r.id

/-- The records of a page that stand behind its last one. -/
def beyondLast (cursor : String) (page : Page Record) : List Record :=
  page.records.filter fun r => page.records.getLast?.any fun last => Beyond cursor last.id r.id

/-- The last record of a page is the one at its end. -/
lemma beyondLast_of_concat {cursor : String} {page : Page Record} {shown : List Record}
    {last : Record} (h : page.records = shown ++ [last]) :
    page.beyondLast cursor =
      (shown ++ [last]).filter fun r => decide (Beyond cursor last.id r.id) := by
  rw [beyondLast, h, List.getLast?_concat]
  rfl

/-- No record of a page in order stands behind its last one. -/
lemma beyondLast_eq_nil_of_pairwise {page : Page Record}
    (h : page.records.Pairwise fun a b => ¬ Beyond cursor b.id a.id) :
    page.beyondLast cursor = [] := by
  rw [beyondLast, List.filter_eq_nil_iff]
  intro r hr hbeyond
  obtain ⟨last, hlast, hbeyond⟩ := (Option.any_eq_true _ _).mp hbeyond
  exact not_beyond_getLast h hlast hr (of_decide_eq_true hbeyond)

/-- Pages that stand one behind another are apart if each of them ends with its last number. -/
lemma pairwise_apart {pages : List (Page Record)} (hpages : pages.Pairwise (Precedes cursor))
    (hlast : ∀ page ∈ pages.dropLast, page.beyondLast cursor = []) : pages.Pairwise Apart := by
  induction pages with
  | nil => exact .nil
  | cons page rest ih =>
    obtain ⟨hpage, hrest⟩ := List.pairwise_cons.mp hpages
    refine List.pairwise_cons.mpr ⟨fun later hmem a ha b hb e => ?_, ?_⟩
    · -- a record with the number of a later one stands behind the last record too
      obtain ⟨last, hget⟩ : ∃ last, page.records.getLast? = some last :=
        ⟨_, List.getLast?_eq_some_getLast (List.ne_nil_of_mem ha)⟩
      have hbeyond : Beyond cursor last.id a.id := e ▸ hpage later hmem last hget b hb
      have hfound : a ∈ page.beyondLast cursor :=
        List.mem_filter.mpr ⟨ha, by rw [hget]; exact decide_eq_true hbeyond⟩
      have hmem' : page ∈ (page :: rest).dropLast := by
        rw [List.dropLast_cons_of_ne_nil (List.ne_nil_of_mem hmem)]
        exact List.mem_cons_self
      rw [hlast page hmem'] at hfound
      cases hfound
    · refine ih hrest fun other hmem => hlast other ?_
      cases rest with
      | nil => cases hmem
      | cons next rest =>
        rw [List.dropLast_cons_cons]
        exact List.mem_cons_of_mem _ hmem

/-- Where a page begins with what stands behind the last record of the one before it, pages that are
apart end with their last numbers. -/
lemma beyondLast_eq_nil {pages : List (Page Record)}
    (hchain : pages.IsChain fun page next => page.beyondLast cursor <+: next.records)
    (hapart : pages.Pairwise Apart) : ∀ page ∈ pages.dropLast, page.beyondLast cursor = [] := by
  induction hchain with
  | nil => nofun
  | singleton page => nofun
  | @cons_cons page next rest hbegins _ ih =>
    obtain ⟨hpage, hrest⟩ := List.pairwise_cons.mp hapart
    rw [List.dropLast_cons_cons, List.forall_mem_cons]
    refine ⟨List.eq_nil_iff_forall_not_mem.mpr fun r hr => ?_, ih hrest⟩
    exact hpage next List.mem_cons_self r (List.mem_filter.mp hr).1 r (hbegins.subset hr) rfl

end Page

/-! ## What a listing has left -/

/-- The records of a listing behind a number. -/
def remaining (cursor : String) (behind : Option Int64) (found : List Record) : List Record :=
  found.filter fun r => behind.all fun lastId => Beyond cursor lastId r.id

/-- What is left of a listing are its records behind the cursor. -/
lemma mem_remaining {found : List Record} {r : Record} :
    r ∈ remaining cursor behind found ↔
      r ∈ found ∧ ∀ lastId ∈ behind, Beyond cursor lastId r.id := by
  rw [remaining, List.mem_filter, all_beyond_iff]

/-- Without a cursor the whole listing is left. -/
lemma remaining_none (found : List Record) : remaining cursor none found = found :=
  List.filter_eq_self.mpr fun _ _ => rfl

/-- Behind a number the records that stand behind it are left. -/
lemma remaining_some (lastId : Int64) (found : List Record) :
    remaining cursor (some lastId) found =
      found.filter fun r => decide (Beyond cursor lastId r.id) := rfl

/-- Of what is left, the records behind one of the next ones are left after it. -/
lemma filter_remaining {found : List Record} {last : Record}
    (h : last ∈ remaining cursor behind found) :
    (remaining cursor behind found).filter (fun r => decide (Beyond cursor last.id r.id)) =
      remaining cursor (some last.id) found := by
  have hbehind := (mem_remaining.mp h).2
  rw [remaining_some, remaining, List.filter_filter]
  refine List.filter_congr fun r _ => ?_
  rw [Bool.and_eq_left_iff_imp, decide_eq_true_eq]
  exact fun hr => all_beyond_iff.mpr fun lastId hlast => (hbehind lastId hlast).trans hr

/-- The listing of a query is a part of the listing of all records, in its order. -/
lemma listing_sublist_all {order : OrderSpec} (hpreorder : PreorderOn (rowLe schema order) records)
    (filters : FilterSet) :
    (listing schema filters order records).Sublist (listing schema .empty order records) := by
  have hall : records.filter (FilterSet.admits .empty) = records :=
    List.filter_eq_self.mpr fun _ _ => rfl
  rw [listing, listing, hall, mergeSort_filter hpreorder]
  exact List.filter_sublist

/-- What a filter keeps of the first elements are the first ones that it keeps. -/
lemma filter_take_prefix {α : Type} (p : α → Bool) (l : List α) (n : Nat) :
    (l.take n).filter p <+: (l.filter p).take n :=
  List.prefix_take_iff.mpr ⟨(List.take_prefix n l).filter p,
    (List.length_filter_le p _).trans (List.length_take_le n l)⟩

/-- The requests of a walk show what is left of the listing of the first one. -/
lemma OnWalk.stage_remaining (hstart : WalkStart config path overrides schema first query)
    (hrecords : Walkable schema query.order records)
    (h : OnWalk first query (cursorKey config query) behind params) :
    ∃ q, Stage config overrides schema records first query params q
      (remaining (cursorKey config query) behind
        (listing schema query.filters query.order records)) := by
  cases h with
  | first =>
    rw [remaining_none]
    exact ⟨query, .start hstart⟩
  | later takes echoed =>
    rw [remaining_some]
    exact Stage.behind hstart hrecords echoed

namespace MemoryStore

variable {store store' : MemoryStore} {pages : List (Page Record)} {n : Nat}

/-- The pages of a walk are parts of listings that are ordered as the first one is. -/
lemma listed_of_walk (hrecords : ∀ r ∈ store.records, r.Numbered) (haddress : NoCursor config path)
    (hordered : NoDirection config path)
    (horder : overrides.order.getD (orderOf params.entries) = query.order)
    (hwalk : walk config path overrides n params store = (.ok pages, store')) :
    ∀ page ∈ pages, ∃ filters,
      page.records.Sublist (PagedListing.listing store.schema filters query.order store.records) := by
  induction n generalizing params store pages with
  | zero =>
    cases hwalk
    exact nofun
  | succ n ih =>
    have hforms : ∀ r ∈ store.records, r.HasForm := fun r hr => (hrecords r hr).hasForm
    obtain ⟨page, store₁, hpage, hcases⟩ := walk_succ_cases hwalk
    obtain ⟨q, hq, hsub⟩ := sublist_listing_of_paginate hforms (congrArg Prod.fst hpage)
    rw [listing, (order_of_checkedQuery hq).trans horder] at hsub
    obtain ⟨-, rfl⟩ | ⟨link, rest, hnext, hrest, rfl⟩ := hcases
    · exact fun page' hmem => List.mem_singleton.mp hmem ▸ ⟨_, hsub⟩
    · obtain ⟨hschema, hsame, last, -, hfollows⟩ :=
        follows_of_paginate haddress hordered horder hpage hnext
      have hlater := ih (hsame ▸ hrecords) hfollows.order hrest
      rw [hschema, hsame] at hlater
      exact List.forall_mem_cons.mpr ⟨⟨_, hsub⟩, hlater⟩

/-- Later pages of a walk stand behind the last record of each earlier one. -/
lemma precedes_of_walk (hid : store.schema.fieldType "id" = .ok .integer)
    (hrecords : ∀ r ∈ store.records, r.Numbered) (hfree : overrides.filters.get? "id" = none)
    (haddress : NoCursor config path) (hordered : NoDirection config path)
    (horder : overrides.order.getD (orderOf params.entries) = query.order)
    (hwalk : walk config path overrides n params store = (.ok pages, store')) :
    pages.Pairwise (Page.Precedes (cursorKey config query)) := by
  induction n generalizing params store pages with
  | zero =>
    cases hwalk
    exact .nil
  | succ n ih =>
    obtain ⟨page, store₁, hpage, hcases⟩ := walk_succ_cases hwalk
    obtain ⟨-, rfl⟩ | ⟨link, rest, hnext, hrest, rfl⟩ := hcases
    · exact List.pairwise_singleton _ _
    · obtain ⟨hschema, hsame, last, hlast, hfollows⟩ :=
        follows_of_paginate haddress hordered horder hpage hnext
      have hbehind := beyond_of_walk (hschema ▸ hid) (hsame ▸ hrecords) hfree haddress hordered
        hfollows hrest
      refine List.pairwise_cons.mpr ⟨fun later hmem last' hlast' r hr => ?_,
        ih (hschema ▸ hid) (hsame ▸ hrecords) hfollows.order hrest⟩
      rw [hlast] at hlast'
      cases hlast'
      exact hbehind later hmem r hr

/-- A walk without a filter on the number begins each page with those records of the page before that
stand behind its last one. -/
lemma chain_of_walk (hstart : WalkStart config path overrides schema first query)
    (hrecords : Walkable schema query.order records) {k : UInt64}
    (h : OnWalk first query (cursorKey config query) behind params)
    (hwalk : walk config path overrides n params (⟨schema, records, k⟩ : MemoryStore) =
      (.ok pages, store')) :
    (∀ page ∈ pages.head?, page.records =
      (remaining (cursorKey config query) behind
        (PagedListing.listing schema query.filters query.order records)).take query.take.toNat) ∧
    pages.IsChain fun page next => page.beyondLast (cursorKey config query) <+: next.records := by
  induction n generalizing behind params k pages with
  | zero =>
    cases hwalk
    exact ⟨nofun, .nil⟩
  | succ n ih =>
    obtain ⟨q, hstage⟩ := h.stage_remaining hstart hrecords
    obtain ⟨page, store₁, hpage, hcases⟩ := walk_succ_cases hwalk
    obtain ⟨hnil, hpage'⟩ | ⟨shown, last, link, hlast, hnext, hpage'⟩ :=
      hstage.paginate_cases hstart.request hrecords.hasForm k
    · rw [hpage'] at hpage
      cases hpage
      obtain ⟨-, rfl⟩ | ⟨link, rest, hlink, -⟩ := hcases
      · exact ⟨by rintro _ ⟨⟩; exact hnil.symm, .singleton _⟩
      · cases hlink
    · rw [hpage'] at hpage
      cases hpage
      obtain ⟨hlink, -⟩ | ⟨link', rest, hlink, hrest, rfl⟩ := hcases
      · cases hlink
      · cases hlink
        obtain ⟨hhead, hchain⟩ := ih (.later hstart.take_ne_zero hnext) hrest
        refine ⟨by rintro _ ⟨⟩; exact hlast.symm, ?_⟩
        cases rest with
        | nil => exact .singleton _
        | cons next rest =>
          refine .cons_cons ?_ hchain
          -- the next page is cut from what stands behind the last record
          have hmem := List.mem_of_mem_take (hlast ▸ List.mem_concat_self)
          rw [hhead next rfl, Page.beyondLast_of_concat rfl, ← hlast, ← filter_remaining hmem]
          exact filter_take_prefix _ _ _

/-- Later pages of a walk stand behind the last record of each earlier one, so they are apart if every
page ends with its last number. Without a filter on the number each page begins with the records of the
page before that stand behind its last one. -/
theorem walk_apart (hid : store.schema.fieldType "id" = .ok .integer)
    (hrecords : ∀ r ∈ store.records, r.Numbered) (hfree : overrides.filters.get? "id" = none)
    (haddress : NoCursor config path) (hordered : NoDirection config path)
    (hquery : checkedQuery store.schema config params overrides = .ok query)
    (hwalk : (walk config path overrides n params store).1 = .ok pages) :
    pages.Pairwise (Page.Precedes (cursorKey config query)) ∧
    ((∀ page ∈ pages.dropLast, page.beyondLast (cursorKey config query) = []) →
      pages.Pairwise Page.Apart) ∧
    (PreorderOn (rowLe store.schema query.order) store.records →
      (PagedListing.listing store.schema .empty query.order store.records).Pairwise
        (fun a b => ¬ Beyond (cursorKey config query) b.id a.id) → pages.Pairwise Page.Apart) ∧
    (WalkStart config path overrides store.schema params query →
      PreorderOn (rowLe store.schema query.order) store.records →
      pages.IsChain (fun page next => page.beyondLast (cursorKey config query) <+: next.records) ∧
      (pages.Pairwise Page.Apart ↔
        ∀ page ∈ pages.dropLast, page.beyondLast (cursorKey config query) = [])) := by
  have hwalk : walk config path overrides n params store = (.ok pages, _) := Prod.ext hwalk rfl
  have horder := (order_of_checkedQuery hquery).symm
  have hprecedes := precedes_of_walk hid hrecords hfree haddress hordered horder hwalk
  refine ⟨hprecedes, Page.pairwise_apart hprecedes, fun hpreorder hsorted => ?_,
    fun hstart hpreorder => ?_⟩
  · -- every listing of a walk is a part of the listing of all records
    refine Page.pairwise_apart hprecedes fun page hmem => Page.beyondLast_eq_nil_of_pairwise ?_
    obtain ⟨filters, hsub⟩ := listed_of_walk hrecords haddress hordered horder hwalk page
      (List.mem_of_mem_dropLast hmem)
    exact hsorted.sublist (hsub.trans (listing_sublist_all hpreorder filters))
  · have hchain := (chain_of_walk hstart ⟨hrecords, hpreorder⟩ .first hwalk).2
    exact ⟨hchain, Page.beyondLast_eq_nil hchain, Page.pairwise_apart hprecedes⟩

/-- Three messages in their order stand on pages that are apart. -/
theorem walk_apart_messages :
    ∃ pages : List (Page Record),
      (walk byNumber "messages" {} 2 messageParams (messagesOf [1, 2, 3] 0)).1 = .ok pages ∧
      pages.map Page.records = [[message 1, message 2], [message 3]] ∧
      pages.Pairwise Page.Apart ∧ ∀ page ∈ pages.dropLast, page.beyondLast cursorAfter = [] := by
  have hfirst : Finds {} messageParams [1, 2, 3] messageQuery [1, 2, 3] [1] 2 :=
    ⟨walkStart_messages.checked, rfl, rfl, by decide +kernel, rfl⟩
  have hsecond : Finds {} (inOrder [("take", "2"), (cursorAfter, "2")]) [1, 2, 3]
      { ascendingQuery [("id", cursorPredicate cursorAfter 2)] with take := 2 } [3] [] 3 :=
    ⟨checkedQuery_of_compose Config.validate_default rfl, rfl, rfl,
      List.pairwise_singleton _ _, rfl⟩
  have hshows : Shows "messages" [1, 2, 3] messageParams [[1, 2], [3]] := by
    refine .next hfirst ?_
    rw [addressParams_of_unmarked unmarked_messages]
    exact .next hsecond .stop
  obtain ⟨pages, store', hwalk, hpages⟩ := hshows.walk exists_read_messages 0
  have hall : PagedListing.listing messages.schema .empty messageQuery.order messages.records =
      [message 1, message 2, message 3] := List.mergeSort_of_pairwise (by decide +kernel)
  obtain ⟨-, -, hagrees, hstart⟩ := walk_apart rfl (numbered_messagesOf [1, 2, 3] 0) rfl
    (noCursor_of_unmarked unmarked_messages) (noDirection_of_unmarked unmarked_messages)
    hfirst.checked (congrArg Prod.fst hwalk)
  have hapart := hagrees walkable_messages.preorder (hall ▸ by decide)
  exact ⟨pages, congrArg Prod.fst hwalk, hpages, hapart,
    (hstart walkStart_messages walkable_messages.preorder).2.mp hapart⟩

/-- A walk of messages with different numbers that asks for none of them and shows one of them on two
pages. -/
def Repeats (path : String) (params : Params) (ids : List Int64) (n : Nat) : Prop :=
  ids.Nodup ∧ (∀ param ∈ params.entries, filtersBy "id" param = false) ∧
  (∃ query, checkedQuery messages.schema byNumber params {} = .ok query ∧ query.page = none) ∧
  ∃ pages, (walk byNumber path {} n params (messagesOf ids 0)).1 = .ok pages ∧
    ¬ pages.Pairwise Page.Apart

/-- A walk repeats a message that it shows on two pages. -/
lemma Shows.repeats {ids page later : List Int64} {shown : List (List Int64)} {id : Int64}
    (h : Shows path ids params shown)
    (haddress : ∃ url, Web.Url.read (listingAddress byNumber path) = .ok url) (hids : ids.Nodup)
    (hfree : ∀ param ∈ params.entries, filtersBy "id" param = false)
    (hquery : checkedQuery messages.schema byNumber params {} = .ok query) (hpage : query.page = none)
    (hsub : [page, later].Sublist shown) (hfirst : id ∈ page) (hagain : id ∈ later) :
    Repeats path params ids shown.length := by
  obtain ⟨pages, store', hwalk, hpages⟩ := h.walk haddress 0
  refine ⟨hids, hfree, ⟨query, hquery, hpage⟩, pages, congrArg Prod.fst hwalk, fun hapart => ?_⟩
  have hrecords : (pages.map Page.records).Pairwise fun page later =>
      ∀ a ∈ page, ∀ b ∈ later, a.id ≠ b.id := List.pairwise_map.mpr hapart
  rw [hpages, List.pairwise_map] at hrecords
  exact List.pairwise_pair.mp (hrecords.sublist hsub) (message id) (List.mem_map_of_mem hfirst)
    (message id) (List.mem_map_of_mem hagain) rfl

/-- Without directions a walk leads downwards, and messages are listed as they were inserted. -/
lemma repeats_unordered : Repeats "messages" .empty [1, 2] 2 := by
  have hfirst : Finds {} .empty [1, 2] ⟨none, 20, none, .empty, .empty⟩ [1, 2] [1] 2 :=
    ⟨checkedQuery_of_compose Config.validate_default rfl, rfl, rfl, by decide +kernel, rfl⟩
  have hsecond : Finds {} (.ofList [("take", "20"), (cursorBefore, "2")]) [1, 2]
      ⟨none, 20, none, .ofList [("id", cursorPredicate cursorBefore 2)], .empty⟩ [1] [] 1 :=
    ⟨checkedQuery_of_compose Config.validate_default rfl, rfl, rfl,
      List.pairwise_singleton _ _, rfl⟩
  have hshows : Shows "messages" [1, 2] .empty [[1, 2], [1]] := by
    refine .next hfirst ?_
    rw [addressParams_of_unmarked unmarked_messages]
    exact .next hsecond .stop
  have hpages : [[1, 2], [1]].Sublist [[1, 2], [(1 : Int64)]] := .refl _
  exact hshows.repeats exists_read_messages (by decide) nofun hfirst.checked rfl hpages
    List.mem_cons_self (List.mem_singleton_self 1)

/-- A direction in the address turns a walk round. -/
lemma repeats_direction : Repeats "messages?order__id=asc" (.ofList [("take", "1")]) [2, 1] 3 := by
  have hown : addressParams byNumber "messages?order__id=asc" =
      .ofList [("order__id", "asc")] := by decide +kernel
  have haddress := exists_read_of_addressParams hown (by decide)
  have hfirst : Finds {} (.ofList [("take", "1")]) [2, 1] ⟨none, 1, none, .empty, .empty⟩ [2, 1] [] 2 :=
    ⟨checkedQuery_of_compose Config.validate_default rfl, rfl, rfl, by decide +kernel, rfl⟩
  have hsecond : Finds {} (inOrder [("take", "1"), (cursorBefore, "2")]) [2, 1]
      { ascendingQuery [("id", cursorPredicate cursorBefore 2)] with take := 1 } [1] [] 1 :=
    ⟨checkedQuery_of_compose Config.validate_default rfl, rfl, rfl,
      List.pairwise_singleton _ _, rfl⟩
  have hthird : Finds {} (inOrder [("take", "1"), (cursorAfter, "1")]) [2, 1]
      { ascendingQuery [("id", cursorPredicate cursorAfter 1)] with take := 1 } [2] [] 2 :=
    ⟨checkedQuery_of_compose Config.validate_default rfl, rfl, rfl,
      List.pairwise_singleton _ _, rfl⟩
  -- down to the second message, and from there up to the first one again
  have hshows : Shows "messages?order__id=asc" [2, 1] (.ofList [("take", "1")]) [[2], [1], [2]] := by
    refine .next hfirst ?_
    rw [hown]
    refine .next hsecond ?_
    rw [hown]
    exact .next hthird .stop
  have hpages : [[2], [2]].Sublist [[2], [1], [(2 : Int64)]] := .cons_cons _ (.cons _ (.refl _))
  exact hshows.repeats haddress (by decide) (by decide) hfirst.checked rfl hpages
    (List.mem_singleton_self 2) (List.mem_singleton_self 2)

/-- With a cursor in the address another filter that follows it there decides. -/
lemma repeats_cursor :
    Repeats "messages?where__id__more_than=0&where__id__in=1" (inOrder []) [1] 2 := by
  have hown : addressParams byNumber "messages?where__id__more_than=0&where__id__in=1" =
      .ofList [(cursorAfter, "0"), ("where__id__in", "1")] := by decide +kernel
  have haddress := exists_read_of_addressParams hown (by decide)
  have hfirst : checkedQuery messages.schema byNumber (inOrder []) {} = .ok (ascendingQuery []) :=
    checkedQuery_of_compose Config.validate_default rfl
  have hsecond : checkedQuery messages.schema byNumber (.ofList [(cursorAfter, "1"),
      ("where__id__in", "1"), ("order__id", "asc"), ("take", "20")]) {} =
        .ok (ascendingQuery [("id", .among [.integer 1])]) :=
    checkedQuery_of_compose Config.validate_default rfl
  have hshows : Shows "messages?where__id__more_than=0&where__id__in=1" [1] (inOrder [])
      [[1], [1]] := by
    refine .next (.single hfirst rfl) ?_
    rw [hown]
    exact .next (.single hsecond rfl) .stop
  exact hshows.repeats haddress (by decide) (by decide) hfirst rfl (.refl _)
    (List.mem_singleton_self 1) (List.mem_singleton_self 1)

/-- A walk repeats a message if the listing is not in the order of the numbers, and also if the address
of the listing turns the walk round or has a cursor of its own. -/
theorem walk_repeats :
    messages.schema.fieldType "id" = .ok .integer ∧
    (∀ ids, ∀ r ∈ (messagesOf ids 0).records, r.Numbered) ∧
    Repeats "messages" .empty [1, 2] 2 ∧
    Repeats "messages?order__id=asc" (.ofList [("take", "1")]) [2, 1] 3 ∧
    Repeats "messages?where__id__more_than=0&where__id__in=1" (inOrder []) [1] 2 :=
  ⟨rfl, fun ids => numbered_messagesOf ids 0, repeats_unordered, repeats_direction, repeats_cursor⟩

end MemoryStore

end PagedListing

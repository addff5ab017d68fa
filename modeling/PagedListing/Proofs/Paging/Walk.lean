import PagedListing.Paging.Walk
import PagedListing.Proofs.Paging.Echo
import PagedListing.Proofs.Sorting

/-!
# Walks visit the listing

A walk visits every record of a listing once and in order, and then it ends
(`MemoryStore.walk_listing`). At every stage of a walk the request in hand has what is left of the
listing for its own listing (`Stage`): the filter on the number of the records keeps the records behind
the last one that was shown, since sorting and filtering may change places. One step shows the first
records that are left and hands on to a stage with the others (`Stage.step`), and the walk follows by
induction on their number.
-/

namespace PagedListing
open PagedListing.Sorting (PreorderOn mergeSort_filter)

/-- Whether the second number stands behind the first one in the direction of a cursor. -/
def Beyond (cursor : String) (first second : Int64) : Prop :=
  if cursor = cursorAfter then first < second else second < first

/-- Whether a number stands behind another one is decided by the order of the numbers. -/
instance (cursor : String) (first second : Int64) : Decidable (Beyond cursor first second) :=
  inferInstanceAs (Decidable (if cursor = cursorAfter then first < second else second < first))

/-- Of two numbers not both stand behind the other. -/
lemma Beyond.asymm {cursor : String} {first second : Int64} (h : Beyond cursor first second) :
    ¬ Beyond cursor second first := by
  unfold Beyond at h ⊢
  split
  · rename_i hcursor
    rw [if_pos hcursor] at h
    exact Int64.lt_asymm h
  · rename_i hcursor
    rw [if_neg hcursor] at h
    exact Int64.lt_asymm h

/-- A comparison by number holds of a number as the numbers compare. -/
lemma holds_compare_integer (relation : Relation) (bound id : Int64) :
    (Predicate.compare relation (.integer bound)).holds (.int id.toInt) =
      relation.holds (compare id.toInt bound.toInt) := by
  show (if (Json.int id.toInt).isNull then false else
    Predicate.related (.int id.toInt) relation (.integer bound)) = _
  simp only [Json.isNull, Bool.false_eq_true, if_false]
  simp only [Predicate.related, Operand.compare?, Json.asInt64?, Number.int64?_toInt,
    Option.any_some]

/-- A cursor holds of the numbers behind it. -/
lemma holds_cursorPredicate {cursor : String} (lastId id : Int64) :
    (cursorPredicate cursor lastId).holds (.int id.toInt) = decide (Beyond cursor lastId id) := by
  rw [cursorPredicate, holds_compare_integer]
  unfold cursorRelation Beyond
  split
  · rw [Relation.holds, decide_eq_decide, Int.compare_eq_gt, Int64.lt_iff_toInt_lt]
  · rw [Relation.holds, decide_eq_decide, Int.compare_eq_lt, Int64.lt_iff_toInt_lt]

/-- One more filter, on a field that no other filter is on, holds beside them. -/
lemma FilterSet.holds_insert_insertAll {filters scope : FilterSet} {field : String}
    {predicate : Predicate} (hfilters : filters.get? field = none) (hscope : scope.get? field = none)
    (row : Members) :
    FilterSet.holds ((filters.insert field predicate).insertAll scope) row =
      (FilterSet.holds (filters.insertAll scope) row && predicate.holds (row.value field)) := by
  have hget : ∀ name, ((filters.insert field predicate).insertAll scope).get? name =
      if name = field then some predicate else (filters.insertAll scope).get? name := by
    intro name
    rw [SortedMap.get?_insertAll, SortedMap.get?_insertAll, SortedMap.get?_insert]
    split
    · rename_i e
      rw [e, hscope, Option.none_or]
    · rfl
  have hnone : (filters.insertAll scope).get? field = none := by
    rw [SortedMap.get?_insertAll, hscope, hfilters, Option.none_or]
  -- on both sides what every look-up finds has to hold
  rw [Bool.eq_iff_iff, Bool.and_eq_true, FilterSet.holds_iff, FilterSet.holds_iff]
  constructor
  · intro h
    refine ⟨fun name other hother => h name other ?_, h field predicate ?_⟩
    · have hne : name ≠ field := by
        rintro rfl
        rw [hnone] at hother
        cases hother
      rw [hget, if_neg hne, hother]
    · rw [hget, if_pos rfl]
  · rintro ⟨hrest, hfield⟩ name other hother
    rw [hget] at hother
    split at hother
    · rename_i e
      cases hother
      exact e ▸ hfield
    · exact hrest name other hother

/-- Records that have their numbers in their JSON objects, and an ordering that is a preorder on
them. -/
structure Walkable (schema : Schema) (order : OrderSpec) (records : List Record) : Prop where
  numbered : ∀ r ∈ records, ∃ ms : Members,
    r.form = .ok (.obj ms) ∧ ms.value "id" = .int r.id.toInt
  preorder : PreorderOn (rowLe schema order) records

namespace Walkable

variable {schema : Schema} {order : OrderSpec} {records : List Record}

/-- Records that can be walked have forms. -/
lemma hasForm (h : Walkable schema order records) : ∀ r ∈ records, r.HasForm :=
  fun r hr => Record.Numbered.hasForm (h.numbered r hr)

/-- The listing under a cursor is what is behind its number in the listing without the cursor. -/
lemma listing_cursor (h : Walkable schema order records) {filters scope : FilterSet}
    {cursor : String} {lastId : Int64} (hfilters : filters.get? "id" = none)
    (hscope : scope.get? "id" = none) :
    listing schema ((filters.insert "id" (cursorPredicate cursor lastId)).insertAll scope) order
        records =
      (listing schema (filters.insertAll scope) order records).filter
        fun r => decide (Beyond cursor lastId r.id) := by
  have hadmits : ∀ r ∈ records,
      FilterSet.admits ((filters.insert "id" (cursorPredicate cursor lastId)).insertAll scope) r =
        (decide (Beyond cursor lastId r.id) && FilterSet.admits (filters.insertAll scope) r) := by
    intro r hr
    rw [FilterSet.admits, FilterSet.holds_insert_insertAll hfilters hscope,
      Record.Numbered.value_id (h.numbered r hr),
      holds_cursorPredicate, Bool.and_comm]
    rfl
  -- the records behind the cursor may be picked before sorting or after it
  rw [listing, listing, List.filter_congr hadmits, ← List.filter_filter]
  exact mergeSort_filter (h.preorder.subset List.filter_sublist.subset) _

end Walkable

/-! ## Runs of a walk -/

/-- Where two steps answer, the first one does, and the second one behind it. -/
lemma Answer.bind_eq_ok {σ α β : Type} {x : Answer σ α} {f : α → Answer σ β} {b : β} {s s'' : σ}
    (h : Answer.bind x f s = (.ok b, s'')) : ∃ a s', x s = (.ok a, s') ∧ f a s' = (.ok b, s'') := by
  rw [Answer.bind] at h
  split at h
  · rename_i a s' hx
    exact ⟨a, s', hx, h⟩
  · cases h

section

variable {σ ρ : Type} [Store σ ρ] {config : Config} {path : String} {overrides : Overrides}
variable {params : Params} {page : Page ρ} {store store' store'' : σ} {n : Nat}

/-- All that a page of a walk can be. -/
lemma cursorPage_cases {query : PageQuery}
    (h : cursorPage config path params query store = (.ok page, store')) :
    ∃ records store'',
      Store.find { query.findOptions with skip := none } store = (.ok records, store'') ∧
      ((records = [] ∧ page = .cursor [] none 0 none) ∨
      (∃ last link, records.getLast? = some last ∧
        nextLink config path (echo params query) (cursorKey config query) (Store.id σ last) =
          .ok link ∧
        page = .cursor records (some (Store.id σ last)) records.length (some link))) := by
  obtain ⟨records, store'', hfind, h⟩ := Answer.bind_eq_ok h
  refine ⟨records, store'', hfind, ?_⟩
  cases hlast : records.getLast? with
  | none =>
    rw [hlast] at h
    cases h
    exact .inl ⟨List.getLast?_eq_none_iff.mp hlast, rfl⟩
  | some last =>
    rw [hlast] at h
    obtain ⟨link, _, hlink, h⟩ := Answer.bind_eq_ok h
    cases h
    exact .inr ⟨last, link, rfl, congrArg Prod.fst hlink, rfl⟩

/-- A request that is answered passed the checks, and it asks for a counted page or for one of a walk. -/
lemma paginate_cases (h : paginate config path overrides params store = (.ok page, store')) :
    ∃ query, checkedQuery (Store.schema store) config params overrides = .ok query ∧
      ((query.page ≠ none ∧ ∃ records total, page = .offset records total) ∨
      (query.page = none ∧ cursorPage config path params query store = (.ok page, store'))) := by
  rw [paginate] at h
  cases hquery : checkedQuery (Store.schema store) config params overrides with
  | error e =>
    rw [hquery] at h
    cases h
  | ok query =>
    rw [hquery] at h
    dsimp only at h
    refine ⟨query, rfl, ?_⟩
    cases hpage : query.page with
    | some number =>
      rw [hpage] at h
      obtain ⟨⟨records, total⟩, _, -, h⟩ := Answer.bind_eq_ok h
      cases h
      exact .inl ⟨Option.some_ne_none number, records, total, rfl⟩
    | none =>
      rw [hpage] at h
      exact .inr ⟨rfl, h⟩

/-- A page with a link is one of a walk, and its link leads on from its last record. -/
lemma lastLink_of_paginate {link : String}
    (h : paginate config path overrides params store = (.ok page, store'))
    (hnext : page.next? = some link) :
    ∃ query last, page.records.getLast? = some last ∧
      checkedQuery (Store.schema store) config params overrides = .ok query ∧ query.page = none ∧
      nextLink config path (echo params query) (cursorKey config query) (Store.id σ last) = .ok link ∧
      page = .cursor page.records (some (Store.id σ last)) page.records.length (some link) := by
  obtain ⟨query, hquery, ⟨-, records, total, rfl⟩ | ⟨hpage, h⟩⟩ := paginate_cases h
  · -- counted pages have no links
    cases hnext
  · obtain ⟨records, _, -, ⟨-, rfl⟩ | ⟨last, link', hlast, hlink, rfl⟩⟩ := cursorPage_cases h
    · cases hnext
    · cases hnext
      exact ⟨query, last, hlast, hquery, hpage, hlink, rfl⟩

/-- A walk stops at a page without a link. -/
lemma walk_stop (hpage : paginate config path overrides params store = (.ok page, store'))
    (hnext : page.next? = none) :
    walk config path overrides (n + 1) params store = (.ok [page], store') := by
  show Answer.bind (paginate config path overrides params) _ store = _
  rw [Answer.bind, hpage]
  dsimp only
  rw [hnext]
  rfl

/-- A walk goes on with the request of the link of a page. -/
lemma walk_next {link : String} {pages : List (Page ρ)}
    (hpage : paginate config path overrides params store = (.ok page, store'))
    (hnext : page.next? = some link)
    (hrest : walk config path overrides n (paramsOfLink link) store' = (.ok pages, store'')) :
    walk config path overrides (n + 1) params store = (.ok (page :: pages), store'') := by
  show Answer.bind (paginate config path overrides params) _ store = _
  rw [Answer.bind, hpage]
  dsimp only
  rw [hnext]
  show Answer.bind (walk config path overrides n (paramsOfLink link)) _ store' = _
  rw [Answer.bind, hrest]
  rfl

/-- A walk begins with a page, and either the page has no link or the walk goes on from its link. -/
lemma walk_succ_cases {pages : List (Page ρ)}
    (hwalk : walk config path overrides (n + 1) params store = (.ok pages, store'')) :
    ∃ page store', paginate config path overrides params store = (.ok page, store') ∧
      ((page.next? = none ∧ pages = [page]) ∨
      (∃ link rest, page.next? = some link ∧
        walk config path overrides n (paramsOfLink link) store' = (.ok rest, store'') ∧
        pages = page :: rest)) := by
  obtain ⟨page, store', hpage, h⟩ := Answer.bind_eq_ok hwalk
  refine ⟨page, store', hpage, ?_⟩
  cases hnext : page.next? with
  | none =>
    rw [walk_stop hpage hnext] at hwalk
    cases hwalk
    exact .inl ⟨rfl, rfl⟩
  | some link =>
    rw [hnext] at h
    obtain ⟨rest, store₂, hrest, h⟩ := Answer.bind_eq_ok h
    cases h
    exact .inr ⟨link, rest, rfl, hrest, rfl⟩

end

/-! ## Stages -/

/-- A request of a walk that has these records left to show: its query `q` has them for its listing,
and it agrees with the first request on everything that the links and the pages depend on. -/
structure Stage (config : Config) (overrides : Overrides) (schema : Schema) (records : List Record)
    (first : Params) (query : PageQuery) (params : Params) (q : PageQuery) (rest : List Record) :
    Prop where
  checked : checkedQuery schema config params overrides = .ok q
  unpaged : q.page = none
  take : q.take = query.take
  cursor : cursorKey config q = cursorKey config query
  echoes : echo params q = echo first query
  listing : listing schema q.filters q.order records = rest

/-- Of a list in the direction of a cursor, those behind an element are the ones after it. -/
lemma filter_beyond {cursor : String} {before rest : List Record} {last : Record}
    (h : (before ++ last :: rest).Pairwise fun a b => Beyond cursor a.id b.id) :
    (before ++ last :: rest).filter (fun r => decide (Beyond cursor last.id r.id)) = rest := by
  obtain ⟨-, hlast, hbefore⟩ := List.pairwise_append.mp h
  have hrest := (List.pairwise_cons.mp hlast).1
  have hirrefl : ¬ Beyond cursor last.id last.id := fun hself => hself.asymm hself
  have hnone : before.filter (fun r => decide (Beyond cursor last.id r.id)) = [] := by
    rw [List.filter_eq_nil_iff]
    intro r hr
    rw [decide_eq_true_eq]
    exact (hbefore r hr last List.mem_cons_self).asymm
  have hall : rest.filter (fun r => decide (Beyond cursor last.id r.id)) = rest := by
    rw [List.filter_eq_self]
    exact fun r hr => decide_eq_true (hrest r hr)
  rw [List.filter_append, hnone, List.filter_cons_of_neg (by simpa using hirrefl), hall,
    List.nil_append]

namespace Stage

variable {config : Config} {path : String} {overrides : Overrides} {schema : Schema}
variable {records rest : List Record} {first params : Params} {query q : PageQuery}

/-- The first request of a walk has the whole listing left. -/
lemma start (h : WalkStart config path overrides schema first query) :
    Stage config overrides schema records first query first query
      (PagedListing.listing schema query.filters query.order records) :=
  ⟨h.checked, h.unpaged, rfl, rfl, rfl, rfl⟩

/-- A request that repeats the first one has what stands behind its cursor left. -/
lemma behind (hstart : WalkStart config path overrides schema first query)
    (hrecords : Walkable schema query.order records) {lastId : Int64}
    (hnext : EchoOf first query (cursorKey config query) lastId params) :
    ∃ q, Stage config overrides schema records first query params q
      ((PagedListing.listing schema query.filters query.order records).filter
        fun r => decide (Beyond (cursorKey config query) lastId r.id)) := by
  have hcursor := isCursor_cursorKey config query
  obtain ⟨filters, hfilters, hfree, hchecked⟩ := hstart.checkedQuery_of_echo hcursor hnext
  refine ⟨_, hchecked, hstart.unpaged, rfl, rfl, hnext.echo_eq hcursor _, ?_⟩
  rw [hrecords.listing_cursor hfree hstart.idFree, ← hfilters]

/-- A stage of a walk shows the first records that are left. -/
lemma paginate_eq (hforms : ∀ r ∈ records, r.HasForm)
    (h : Stage config overrides schema records first query params q rest) (k : UInt64) :
    paginate config path overrides params (⟨schema, records, k⟩ : MemoryStore) =
      (MemoryStore.cursorAnswer config path params q (rest.take query.take.toNat),
        ⟨schema, records, k + 1⟩) := by
  have hforms : ∀ r ∈ (⟨schema, records, k⟩ : MemoryStore).records, r.HasForm := hforms
  have hchecked : checkedQuery (⟨schema, records, k⟩ : MemoryStore).schema config params overrides =
      .ok q := h.checked
  have hlisting : (⟨schema, records, k⟩ : MemoryStore).listing q = rest := h.listing
  rw [MemoryStore.paginate_cursor hforms hchecked h.unpaged, hlisting, h.take]
  rfl

/-- A stage shows the first records that are left. If there are none, the walk is over; if there are
some, the link repeats the first request behind the last one of them. -/
lemma paginate_cases (hrequest : WalkRequest config path overrides schema first query)
    (hforms : ∀ r ∈ records, r.HasForm)
    (h : Stage config overrides schema records first query params q rest) (k : UInt64) :
    (rest.take query.take.toNat = [] ∧
      paginate config path overrides params (⟨schema, records, k⟩ : MemoryStore) =
        (.ok (.cursor [] none 0 none), ⟨schema, records, k + 1⟩)) ∨
    (∃ shown last link, rest.take query.take.toNat = shown ++ [last] ∧
      EchoOf first query (cursorKey config query) last.id (paramsOfLink link) ∧
      paginate config path overrides params (⟨schema, records, k⟩ : MemoryStore) =
        (.ok (.cursor (shown ++ [last]) (some last.id) (shown ++ [last]).length (some link)),
          ⟨schema, records, k + 1⟩)) := by
  rw [h.paginate_eq hforms]
  cases List.eq_nil_or_concat (rest.take query.take.toNat) with
  | inl hnil =>
    rw [hnil]
    exact .inl ⟨rfl, rfl⟩
  | inr hsome =>
    obtain ⟨shown, last, hlast⟩ := hsome
    rw [List.concat_eq_append] at hlast
    obtain ⟨link, hlink, hnext⟩ :=
      hrequest.nextLink_of_echo (isCursor_cursorKey config query) last.id
    refine .inr ⟨shown, last, link, hlast, hnext, ?_⟩
    rw [hlast, MemoryStore.cursorAnswer, List.getLast?_concat]
    dsimp only
    rw [h.echoes, h.cursor, hlink]
    rfl

/-- A stage with records left shows the first ones, and the link leads to a stage with the others. -/
lemma step (hstart : WalkStart config path overrides schema first query)
    (hrecords : Walkable schema query.order records) {before : List Record}
    (hfound : PagedListing.listing schema query.filters query.order records = before ++ rest)
    (hsorted : (before ++ rest).Pairwise fun a b => Beyond (cursorKey config query) a.id b.id)
    (h : Stage config overrides schema records first query params q rest) (hne : rest ≠ [])
    (k : UInt64) :
    ∃ after link q',
      paginate config path overrides params (⟨schema, records, k⟩ : MemoryStore) =
        (.ok (.cursor (rest.take query.take.toNat) after (rest.take query.take.toNat).length (some link)),
          ⟨schema, records, k + 1⟩) ∧
      Stage config overrides schema records first query (paramsOfLink link) q'
        (rest.drop query.take.toNat) := by
  have hpos : query.take.toNat ≠ 0 := fun e => hstart.take_ne_zero (UInt32.toNat_inj.mp e)
  obtain ⟨hnil, -⟩ | ⟨shown, last, link, hlast, hnext, hpage⟩ :=
    h.paginate_cases hstart.request hrecords.hasForm k
  · exact absurd (List.take_eq_nil_iff.mp hnil) (not_or.mpr ⟨hpos, hne⟩)
  · -- what stands behind the last record that is shown is what comes after it
    have hsplit : before ++ rest = (before ++ shown) ++ last :: rest.drop query.take.toNat := by
      rw [List.append_assoc, ← List.singleton_append, ← List.append_assoc shown, ← hlast,
        List.take_append_drop]
    obtain ⟨q', hstage⟩ := behind hstart hrecords hnext
    rw [hfound, hsplit, filter_beyond (hsplit ▸ hsorted)] at hstage
    exact ⟨some last.id, link, q', hlast ▸ hpage, hstage⟩

end Stage

/-! ## The pages of a walk -/

/-- Pages that show some records, a number of them at a time, and then no more. -/
structure Visits (take : Nat) (rest : List Record) (pages : List (Page Record)) : Prop where
  parts : pages.map Page.records =
    (List.range pages.length).map fun i => pagePart rest take (i + 1)
  all : pages.flatMap Page.records = rest
  length : pages.length = (rest.length + take - 1) / take + 1
  last : pages.getLast? = some (.cursor [] none 0 none)

/-- A walk with nothing left shows an empty page. -/
lemma Visits.nil {take : Nat} (hpos : 0 < take) : Visits take [] [.cursor [] none 0 none] where
  parts := by
    rw [List.map_singleton, List.length_singleton, List.range_one, List.map_singleton,
      pagePart_of_length_le (Nat.zero_le _)]
    rfl
  all := rfl
  length := by
    rw [List.length_nil, Nat.zero_add, Nat.div_eq_of_lt (by omega)]
    rfl
  last := rfl

/-- A walk shows a page of what is left, and then what is left behind it. -/
lemma Visits.cons {take : Nat} {rest : List Record} {page : Page Record}
    {pages : List (Page Record)} (hpos : 0 < take) (hne : rest ≠ [])
    (hpage : page.records = rest.take take) (h : Visits take (rest.drop take) pages) :
    Visits take rest (page :: pages) where
  parts := by
    have hfirst : page.records = pagePart rest take 1 := by
      rw [hpage, pagePart_eq_take_drop rest take Nat.one_pos, Nat.sub_self, Nat.mul_zero,
        List.drop_zero]
    -- the pages of what is left are those of the whole from the second one on
    have hnext : ∀ i, pagePart (rest.drop take) take (i + 1) = pagePart rest take (i + 2) := by
      intro i
      have hplace : take + take * i = take * (i + 1) := by rw [Nat.mul_succ, Nat.add_comm]
      rw [pagePart_eq_take_drop _ _ (Nat.succ_pos i), pagePart_eq_take_drop _ _ (Nat.succ_pos _),
        List.drop_drop]
      exact congrArg (fun place => (rest.drop place).take take) hplace
    rw [List.map_cons, h.parts, List.length_cons, List.range_succ_eq_map, List.map_cons,
      List.map_map, hfirst]
    exact congrArg _ (List.map_congr_left fun i _ => hnext i)
  all := by
    rw [List.flatMap_cons, h.all, hpage, List.take_append_drop]
  length := by
    have hlen : 0 < rest.length := List.length_pos_iff.mpr hne
    have hsum : rest.length + take - 1 = (rest.length - 1) + take := by omega
    have hrest : (rest.length - take + take - 1) / take = (rest.length - 1) / take := by
      by_cases hle : take ≤ rest.length
      · rw [Nat.sub_add_cancel hle]
      · rw [Nat.div_eq_of_lt (by omega), Nat.div_eq_of_lt (by omega)]
    rw [List.length_cons, h.length, List.length_drop, hrest, hsum, Nat.add_div_right _ hpos]
  last := by
    rw [List.getLast?_cons, h.last]
    rfl

namespace MemoryStore

variable {config : Config} {path : String} {overrides : Overrides} {schema : Schema}
variable {records : List Record} {first : Params} {query : PageQuery}

/-- A query counts one more than the queries after it. -/
lemma queries_add_succ (k : UInt64) (n : Nat) :
    k + 1 + UInt64.ofNat n = k + UInt64.ofNat (n + 1) := by
  rw [UInt64.ofNat_add, UInt64.add_assoc, UInt64.add_comm 1]
  rfl

/-- From a stage on a walk visits the records that are left. -/
lemma walk_stage (hstart : WalkStart config path overrides schema first query)
    (hrecords : Walkable schema query.order records) {before rest : List Record} {params : Params}
    {q : PageQuery} (k : UInt64)
    (hfound : PagedListing.listing schema query.filters query.order records = before ++ rest)
    (hsorted : (before ++ rest).Pairwise fun a b => Beyond (cursorKey config query) a.id b.id)
    (h : Stage config overrides schema records first query params q rest) :
    ∃ pages, Visits query.take.toNat rest pages ∧ ∀ n, pages.length ≤ n →
      walk config path overrides n params (⟨schema, records, k⟩ : MemoryStore) =
        (.ok pages, ⟨schema, records, k + .ofNat pages.length⟩) := by
  have hpos : 0 < query.take.toNat := by
    rw [Nat.pos_iff_ne_zero]
    exact fun e => hstart.take_ne_zero (UInt32.toNat_inj.mp e)
  -- on the number of records left; the stage is what every link hands on
  induction hcount : rest.length using Nat.strongRecOn generalizing before rest params q k with
  | ind count ih =>
    by_cases hnil : rest = []
    · subst hnil
      refine ⟨_, Visits.nil hpos, fun n hn => ?_⟩
      obtain ⟨m, rfl⟩ : ∃ m, n = m + 1 := ⟨n - 1, by simp at hn; omega⟩
      refine walk_stop ?_ rfl
      rw [h.paginate_eq hrecords.hasForm, List.take_nil]
      rfl
    · obtain ⟨after, link, q', hpage, hnext⟩ :=
        h.step hstart hrecords hfound hsorted hnil k
      have hsplit : before ++ rest = (before ++ rest.take query.take.toNat) ++
          rest.drop query.take.toNat := by
        rw [List.append_assoc, List.take_append_drop]
      have hless : (rest.drop query.take.toNat).length < count := by
        have hlen := List.length_pos_iff.mpr hnil
        rw [List.length_drop]
        omega
      obtain ⟨pages, hvisits, hwalk⟩ := ih _ hless (k + 1) (hfound.trans hsplit)
        (hsplit ▸ hsorted) hnext rfl
      refine ⟨.cursor (rest.take query.take.toNat) after (rest.take query.take.toNat).length
          (some link) :: pages,
        hvisits.cons hpos hnil rfl, fun n hn => ?_⟩
      obtain ⟨m, rfl⟩ : ∃ m, n = m + 1 := ⟨n - 1, by simp at hn; omega⟩
      have hrest := hwalk m (Nat.le_of_succ_le_succ hn)
      rw [walk_next hpage rfl hrest, List.length_cons, queries_add_succ]

/-- A walk visits the listing: followed from link to link until there is none, its pages show the
records of the listing in order, as many at a time as the page size says, and then no more. -/
theorem walk_listing {store : MemoryStore} {params : Params} {found : List Record}
    (hstart : WalkStart config path overrides store.schema params query)
    (hrecords : Walkable store.schema query.order store.records)
    (hfind : (Store.find { filters := query.filters, order := query.order } store).1 = .ok found)
    (hsorted : found.Pairwise fun a b => Beyond (cursorKey config query) a.id b.id) :
    ∃ pages : List (Page Record),
      (∀ n, pages.length ≤ n → walk config path overrides n params store =
        (.ok pages, { store with queries := store.queries + .ofNat pages.length })) ∧
      pages.flatMap Page.records = found ∧
      pages.map Page.records = (List.range pages.length).map (fun i =>
        pagePart found query.take.toNat (i + 1)) ∧
      pages.length = (found.length + query.take.toNat - 1) / query.take.toNat + 1 ∧
      pages.getLast? = some (.cursor [] none 0 none) := by
  have hfound : PagedListing.listing store.schema query.filters query.order store.records =
      [] ++ found := by
    rw [find_eq hrecords.hasForm] at hfind
    cases hfind
    rfl
  have hstage : Stage config overrides store.schema store.records params query params query
      ([] ++ found) := hfound ▸ Stage.start hstart
  obtain ⟨pages, hvisits, hwalk⟩ :=
    walk_stage hstart hrecords store.queries hfound hsorted hstage
  exact ⟨pages, hwalk, hvisits.all, hvisits.parts, hvisits.length, hvisits.last⟩

/-- A message with a number. -/
def message (id : Int64) : Record :=
  .ofJson id (.obj [("id", .int id.toInt)])

/-- A store of three messages. -/
def messages : MemoryStore :=
  ⟨⟨"message", [⟨"id", .integer⟩]⟩, [message 1, message 2, message 3], 0⟩

/-- The parameters that ask for messages in ascending order, two at a time. -/
def messageParams : Params :=
  .ofList [("order__id", "asc"), ("take", "2")]

/-- The query for messages in ascending order, two at a time. -/
def messageQuery : PageQuery :=
  ⟨none, 2, none, .empty, .ofList [("id", .ascending)]⟩

/-- Requests for messages by number that neither filter by it nor by an empty value begin a walk. -/
lemma walkStart_byNumber {params : Params}
    (hquery : checkedQuery messages.schema { cursorOrderField := "id" } params {} = .ok query)
    (hpage : query.page = none)
    (hparams : ∀ param ∈ params.entries, filtersBy "id" param = false ∧ param.2 ≠ "") :
    WalkStart { cursorOrderField := "id" } "messages" {} messages.schema params query where
  idType := rfl
  checked := hquery
  unpaged := hpage
  hostUnmarked := by decide
  pathUnmarked := by decide
  address := Steps.exists_eq_ok_of_toBool (by decide +kernel)
  noId := by
    intro param hmem operator hkey
    have hnot := (hparams param hmem).1
    rw [filtersBy_eq_true_iff.mpr ⟨operator, hkey⟩] at hnot
    cases hnot
  noEmpty := fun param hmem hempty => absurd hempty (hparams param hmem).2
  idFree := rfl
  takes := by decide

/-- The request for messages is the first one of a walk. -/
lemma walkStart_messages :
    WalkStart { cursorOrderField := "id" } "messages" {} messages.schema messageParams
      messageQuery :=
  walkStart_byNumber (checkedQuery_of_compose Config.validate_default rfl) rfl (by decide)

/-- The messages can be walked. -/
lemma walkable_messages : Walkable messages.schema messageQuery.order messages.records where
  numbered := by
    intro r hr
    simp only [messages, List.mem_cons, List.not_mem_nil, or_false] at hr
    rcases hr with rfl | rfl | rfl
    · exact ⟨_, rfl, rfl⟩
    · exact ⟨_, rfl, rfl⟩
    · exact ⟨_, rfl, rfl⟩
  preorder := ⟨by decide +kernel, by decide +kernel⟩

/-- A walk over three messages, two at a time. -/
theorem walk_listing_messages :
    ∃ pages : List (Page Record),
      (walk { cursorOrderField := "id" } "messages" {} 3 messageParams messages).1 = .ok pages ∧
      pages.map Page.records = [[message 1, message 2], [message 3], []] := by
  have hsorted : [message 1, message 2, message 3].Pairwise fun a b =>
      rowLe messages.schema messageQuery.order a b = true := by decide +kernel
  have hfind : (Store.find { filters := messageQuery.filters, order := messageQuery.order }
      messages).1 = .ok [message 1, message 2, message 3] := by
    rw [find_eq walkable_messages.hasForm]
    exact congrArg Except.ok (List.mergeSort_of_pairwise hsorted)
  obtain ⟨pages, hwalk, -, hparts, hlength, -⟩ :=
    walk_listing walkStart_messages walkable_messages hfind (by decide +kernel)
  have hlength : pages.length = 3 := hlength
  refine ⟨pages, ?_, ?_⟩
  · rw [hwalk 3 (Nat.le_of_eq hlength)]
  · rw [hparts, hlength]
    rfl

end MemoryStore

end PagedListing

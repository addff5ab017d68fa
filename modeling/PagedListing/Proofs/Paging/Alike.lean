import Mathlib.Logic.Relation
import PagedListing.Proofs.Paging.NumberFilter

/-!
# The links of a walk are alike

A request that is reached by following links repeats the first one of its walk (`Repeats`): the link of
its page is built from the parameters that the first request repeats, in their order, and from the same
cursor. Reading the link gives these parameters back, so the next link is built from them again. All
links of a walk are therefore one text up to the number at its end (`links_alike`), on every store,
whatever is stored there from one request to the next.
-/

namespace PagedListing
open PagedListing.Number (int64Text)
open PagedListing.Web (Unmarked)

variable {config : Config} {path : String} {overrides : Overrides} {schema : Schema}
variable {first params next : Params} {query q : PageQuery} {lastId : Int64} {link : String}

/-! ## Following links -/

section

variable (σ : Type) {ρ : Type} [Store σ ρ]
variable (config : Config) (path : String) (overrides : Overrides) (schema : Schema)

/-- A store of a schema can answer a request by a page. -/
def Answers (params : Params) (page : Page ρ) : Prop :=
  ∃ store : σ, Store.schema store = schema ∧
    (paginate config path overrides params store).1 = .ok page

/-- A request can be answered by a page whose link makes the other request. -/
def Leads (params next : Params) : Prop :=
  ∃ page link, Answers σ config path overrides schema params page ∧ page.next? = some link ∧
    next = paramsOfLink link

end

/-- The requests that repeat the first request of a walk: itself, and what follows behind a number. -/
def Repeats (config : Config) (first : Params) (query : PageQuery) (params : Params) : Prop :=
  params = first ∨ ∃ lastId, EchoOf first query (cursorKey config query) lastId params

/-- A link behind a number as all links of a walk are, whose page answers a request with a query `q`:
`front` is their common text, and the parameters that links repeat and the cursor are those of the first
request. -/
structure Alike (config : Config) (path : String) (overrides : Overrides) (schema : Schema)
    (first : Params) (query : PageQuery) (front : String) (params : Params) (q : PageQuery)
    (lastId : Int64) (link : String) : Prop where
  built : nextLink config path (echo params q) (cursorKey config q) lastId = .ok link
  echoes : echo params q = echo first query
  cursor : cursorKey config q = cursorKey config query
  text : link = front ++ int64Text lastId
  readBack : (paramsOfLink link).entries = echo params q ++ [(cursorKey config q, int64Text lastId)]
  repeated : ∀ q', echo (paramsOfLink link) q' = echo params q
  sameCursor : ∀ q', checkedQuery schema config (paramsOfLink link) overrides = .ok q' →
    cursorKey config q' = cursorKey config q
  accepted : q.take ≠ 0 → ∃ q',
    checkedQuery schema config (paramsOfLink link) overrides = .ok q' ∧ q'.page = none

/-! ## What the requests of a walk have in common -/

/-- A later request orders as the first one does. -/
lemma EchoOf.order_eq {cursor : String} (hcursor : isCursor cursor = true)
    (hnext : EchoOf params query cursor lastId next)
    (hchecked : checkedQuery schema config params overrides = .ok query)
    (hq : checkedQuery schema config next overrides = .ok q) : q.order = query.order := by
  have hsame : orderOf next.entries = orderOf params.entries := by
    rw [show next.entries = _ from hnext, orderOf_echo_concat hcursor]
  rw [order_of_checkedQuery hq, order_of_checkedQuery hchecked, hsame]

namespace Repeats

/-- A request that repeats the first one is ordered as it is. -/
lemma order_eq (h : Repeats config first query params)
    (hchecked : checkedQuery schema config first overrides = .ok query)
    (hq : checkedQuery schema config params overrides = .ok q) : q.order = query.order := by
  obtain rfl | ⟨lastId, hnext⟩ := h
  · rw [hchecked] at hq
    cases hq
    rfl
  · exact hnext.order_eq (isCursor_cursorKey config query) hchecked hq

/-- The links of a request that repeats the first one repeat what its links do. -/
lemma echo_eq (h : Repeats config first query params)
    (hchecked : checkedQuery schema config first overrides = .ok query)
    (hq : checkedQuery schema config params overrides = .ok q) :
    echo params q = echo first query := by
  obtain rfl | ⟨lastId, hnext⟩ := h
  · rw [hchecked] at hq
    cases hq
    rfl
  · exact hnext.echo_eq (isCursor_cursorKey config query) q

/-- The link of a page makes a request that repeats the first one. -/
lemma of_nextLink (haddress : Unmarked (listingAddress config path).toList)
    (hchecked : checkedQuery schema config first overrides = .ok query)
    (h : Repeats config first query params)
    (hq : checkedQuery schema config params overrides = .ok q)
    (hlink : nextLink config path (echo params q) (cursorKey config q) lastId = .ok link) :
    Repeats config first query (paramsOfLink link) := by
  rw [h.echo_eq hchecked hq, cursorKey_congr (h.order_eq hchecked hq)] at hlink
  exact .inr ⟨lastId, .of_nextLink haddress hchecked (isCursor_cursorKey config query) hlink⟩

end Repeats

section

variable {σ ρ : Type} [Store σ ρ] {page : Page ρ}

/-- A page with a link comes of a checked request, and its link leads on from its last record. -/
lemma Answers.lastLink (h : Answers σ config path overrides schema params page)
    (hnext : page.next? = some link) :
    ∃ q last, page.records.getLast? = some last ∧
      checkedQuery schema config params overrides = .ok q ∧ q.page = none ∧
      nextLink config path (echo params q) (cursorKey config q) (Store.id σ last) = .ok link := by
  obtain ⟨store, rfl, hpage⟩ := h
  obtain ⟨q, last, hlast, hq, hunpaged, hlink, -⟩ := lastLink_of_paginate (Prod.ext hpage rfl) hnext
  exact ⟨q, last, hlast, hq, hunpaged, hlink⟩

/-- Every request that is reached by following links repeats the first one. -/
theorem repeats_of_leads (haddress : Unmarked (listingAddress config path).toList)
    (hchecked : checkedQuery schema config first overrides = .ok query)
    (h : Relation.ReflTransGen (Leads σ config path overrides schema) first params) :
    Repeats config first query params := by
  induction h with
  | refl => exact .inl rfl
  | tail _ hstep ih =>
    obtain ⟨page, link, hanswers, hnext, rfl⟩ := hstep
    obtain ⟨q, last, -, hq, -, hlink⟩ := hanswers.lastLink hnext
    exact ih.of_nextLink haddress hchecked hq hlink

end

/-- Up to the number of the last record all links of a walk are one text, on any stores of a schema with
an integer `id`: each repeats what the first one repeats, with the same cursor, and so it is read back.
-/
theorem links_alike (σ : Type) {ρ : Type} [Store σ ρ] (hhost : Unmarked config.host.toList)
    (hpath : Unmarked path.toList)
    (hid : schema.fieldType "id" = .ok .integer)
    (hchecked : checkedQuery schema config first overrides = .ok query) :
    ∃ front : String, ∀ (params : Params) (page : Page ρ) (link : String),
      Relation.ReflTransGen (Leads σ config path overrides schema) first params →
      Answers σ config path overrides schema params page → page.next? = some link →
      ∃ q last, checkedQuery schema config params overrides = .ok q ∧ q.page = none ∧
        page.records.getLast? = some last ∧
        Alike config path overrides schema first query front params q (Store.id σ last) link := by
  obtain ⟨hconfig, -⟩ := checkedQuery_eq_ok_iff.mp hchecked
  have haddress := unmarked_listingAddress hconfig hhost hpath
  obtain ⟨front, hfront⟩ :=
    exists_front_nextLink haddress (echo first query) (cursorKey config query)
  refine ⟨front, fun params page link hleads hanswers hnext => ?_⟩
  have hrepeats := repeats_of_leads haddress hchecked hleads
  obtain ⟨q, last, hlast, hq, hunpaged, hlink⟩ := hanswers.lastLink hnext
  have hechoes := hrepeats.echo_eq hchecked hq
  have hcursor : cursorKey config q = cursorKey config query :=
    cursorKey_congr (hrepeats.order_eq hchecked hq)
  have hkey := isCursor_cursorKey config q
  have hread : EchoOf params q (cursorKey config q) (Store.id σ last) (paramsOfLink link) :=
    .of_nextLink haddress hq hkey hlink
  refine ⟨q, last, hq, hunpaged, hlast, hlink, hechoes, hcursor, ?_, hread, hread.echo_eq hkey,
    fun q' hq' => cursorKey_congr (hread.order_eq hkey hq hq'), fun hpos => ?_⟩
  · exact hfront _ _ (hechoes ▸ hcursor ▸ hlink)
  · exact ⟨_, hread.checkedQuery_eq hid hq hunpaged hpos hkey, hunpaged⟩

namespace MemoryStore

/-- Parameters for messages in ascending order, and others that no link repeats: a page number that asks
for no page, a cursor and an empty value. -/
def strayParams : Params :=
  inOrder [("page", "0"), (cursorBefore, "9"), ("tag", ""), ("take", "1")]

/-- The query of these parameters. -/
def strayQuery : PageQuery :=
  { ascendingQuery [("id", cursorPredicate cursorBefore 9)] with take := 1 }

/-- The request shows the two messages one at a time, the first one first. -/
lemma finds_stray : Finds {} strayParams [1, 2] strayQuery [1, 2] [] 1 :=
  ⟨checkedQuery_of_compose Config.validate_default rfl, rfl, rfl, by decide +kernel, rfl⟩

/-- The links of two messages differ in the number at their end. -/
theorem links_alike_messages :
    ∃ front link link',
      (paginate byNumber "messages" {} strayParams (messagesOf [1, 2] 0)).1 =
        .ok (.cursor [message 1] (some 1) 1 (some link)) ∧
      (paginate byNumber "messages" {} (paramsOfLink link) (messagesOf [1, 2] 1)).1 =
        .ok (.cursor [message 2] (some 2) 1 (some link')) ∧
      link = front ++ "1" ∧ link' = front ++ "2" := by
  have hsecond : Finds {} (inOrder [("take", "1"), (cursorAfter, "1")]) [1, 2]
      { ascendingQuery [("id", cursorPredicate cursorAfter 1)] with take := 1 } [2] [] 2 :=
    ⟨checkedQuery_of_compose Config.validate_default rfl, rfl, rfl,
      List.pairwise_singleton _ _, rfl⟩
  obtain ⟨link, hlink, hread⟩ :=
    exists_link_messages (echo strayParams strayQuery) cursorAfter 1
  have hread : paramsOfLink link = inOrder [("take", "1"), (cursorAfter, "1")] := hread
  obtain ⟨link', hlink', -⟩ := exists_link_messages (echo (inOrder [("take", "1"), (cursorAfter, "1")])
    { ascendingQuery [("id", cursorPredicate cursorAfter 1)] with take := 1 }) cursorAfter 2
  have hpage := congrArg Prod.fst (finds_stray.paginate_eq hlink 0)
  have hpage' := congrArg Prod.fst (hsecond.paginate_eq hlink' 1)
  rw [← hread] at hpage'
  have hanswers : Answers MemoryStore byNumber "messages" {} messages.schema strayParams
      (.cursor [message 1] (some 1) 1 (some link)) := ⟨messagesOf [1, 2] 0, rfl, hpage⟩
  have hanswers' : Answers MemoryStore byNumber "messages" {} messages.schema (paramsOfLink link)
      (.cursor [message 2] (some 2) 1 (some link')) := ⟨messagesOf [1, 2] 1, rfl, hpage'⟩
  have hpath : Unmarked "messages".toList := by decide
  -- the second request is reached by the link of the first one
  obtain ⟨front, halike⟩ := links_alike MemoryStore (by decide) hpath rfl finds_stray.checked
  obtain ⟨_, _, -, -, hlast, h⟩ := halike _ _ link .refl hanswers rfl
  obtain ⟨_, _, -, -, hlast', h'⟩ :=
    halike _ _ link' (.single ⟨_, link, hanswers, rfl, rfl⟩) hanswers' rfl
  cases hlast
  cases hlast'
  exact ⟨front, link, link', hpage, hpage', h.text, h'.text⟩

end MemoryStore

end PagedListing

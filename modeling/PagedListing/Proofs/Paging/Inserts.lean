import PagedListing.Proofs.Paging.Repeats

/-!
# Insertions beside a walk

Records may be inserted between the requests of a walk. What happens then is a history
(`MemoryStore.history`): insertions and pages, up to the page that has no link. If the listing is
ordered by number, a cursor tells what was visited from what was not, so a history goes on from its
cursor as if it began there (`Steady`), whatever was inserted before. A walk visits the numbers in
their order, and where it ends it has visited all that was stored before it and all that was inserted
behind the last number it had visited by then (`MemoryStore.history_stable`).
-/

namespace PagedListing
open PagedListing.Sorting (PreorderOn pairwise_mergeSort)

variable {config : Config} {path : String} {overrides : Overrides} {schema : Schema}
variable {records : List Record} {first params : Params} {query : PageQuery} {cursor : String}
variable {behind : Option Int64} {direction : Direction} {order : OrderSpec}

/-! ## The order of the numbers -/

/-- Whether a number stands before another one in a direction. -/
def Direction.Leads : Direction → Int64 → Int64 → Prop
  | ascending, first, second => first < second
  | descending, first, second => second < first

/-- Of two numbers that are different one stands behind the other. -/
lemma Beyond.trichotomy (cursor : String) (first second : Int64) :
    first = second ∨ Beyond cursor first second ∨ Beyond cursor second first := by
  have hnumbers : first = second ∨ first < second ∨ second < first := by
    rw [← Int64.toInt_inj, Int64.lt_iff_toInt_lt, Int64.lt_iff_toInt_lt]
    omega
  unfold Beyond
  split
  · exact hnumbers
  · rw [or_comm (a := second < first)]
    exact hnumbers

/-- What stands behind a number stands behind those that the number does not lead. -/
lemma Beyond.of_not {first second third : Int64} (h : ¬ Beyond cursor second first)
    (h' : Beyond cursor second third) : Beyond cursor first third := by
  rcases Beyond.trichotomy cursor first second with rfl | hbeyond | hbeyond
  · exact h'
  · exact hbeyond.trans h'
  · exact absurd hbeyond h

/-- If a listing is ordered by the number alone, its cursor goes in the direction of the listing. -/
lemma beyond_cursorKey (hfield : config.cursorOrderField = "id")
    (horder : query.order.entries = [("id", direction)]) :
    Beyond (cursorKey config query) = direction.Leads := by
  have hget : query.order.get? "id" = some direction :=
    (query.order.mem_entries_iff _ _).mp (horder ▸ List.mem_singleton_self _)
  funext first second
  rw [cursorKey, hfield, hget]
  cases direction with
  | ascending => rfl
  | descending => rfl

/-- Under an ordering by the number a row comes no later than those whose number does not lead its own.
-/
lemma rowLe_byNumber (hid : schema.fieldType "id" = .ok .integer)
    (horder : order.entries = [("id", direction)]) {a b : Record} (ha : a.Numbered)
    (hb : b.Numbered) : rowLe schema order a b = true ↔ ¬ direction.Leads b.id a.id := by
  have htype : (schema.field? "id").map (·.type) = some .integer := by
    unfold Schema.fieldType at hid
    cases hfield : schema.field? "id" with
    | none =>
      rw [hfield] at hid
      cases hid
    | some field =>
      rw [hfield] at hid
      exact congrArg some (Except.ok.inj hid)
  have hcompare : compareRows schema order.entries a.members b.members =
      direction.apply (compare a.id.toInt b.id.toInt) := by
    rw [horder, compareRows, compareRows, compareField, ha.value_id, hb.value_id, htype]
    simp only [Json.isNull, compareValues, compareNumbers?, Json.asInt64?, Number.int64?_toInt]
    exact Ordering.then_eq
  rw [rowLe, hcompare, bne_iff_ne, not_iff_not]
  cases direction with
  | ascending => rw [Direction.apply, Int.compare_eq_gt, Direction.Leads, Int64.lt_iff_toInt_lt]
  | descending =>
    rw [Direction.apply, Ordering.swap_eq_gt, Int.compare_eq_lt, Direction.Leads,
      Int64.lt_iff_toInt_lt]

section

variable (hid : schema.fieldType "id" = .ok .integer) (horder : order.entries = [("id", direction)])
variable (hcursor : Beyond cursor = direction.Leads) (hrecords : ∀ r ∈ records, r.Numbered)

include hid horder hcursor hrecords

/-- Under the ordering of the cursor a record comes no later than those that stand behind it or with it.
-/
lemma rowLe_of_mem {a b : Record} (ha : a ∈ records) (hb : b ∈ records) :
    rowLe schema order a b = true ↔ ¬ Beyond cursor b.id a.id := by
  rw [rowLe_byNumber hid horder (hrecords a ha) (hrecords b hb), hcursor]

/-- The ordering by the number is a preorder on records with numbers. -/
lemma preorderOn_byNumber : PreorderOn (rowLe schema order) records := by
  have hle := fun {a b : Record} => rowLe_of_mem hid horder hcursor hrecords (a := a) (b := b)
  constructor
  · intro a ha b hb c hc hab hbc
    rw [hle ha hb] at hab
    rw [hle hb hc] at hbc
    rw [hle ha hc]
    exact fun hca => hab (Beyond.of_not hbc hca)
  · intro a ha b hb
    rw [Bool.or_eq_true, hle ha hb, hle hb ha, ← not_and_or]
    exact fun h => h.1.asymm h.2

/-- A listing by number stands in the direction of its cursor. -/
lemma pairwise_listing (filters : FilterSet) :
    (listing schema filters order records).Pairwise fun a b => ¬ Beyond cursor b.id a.id := by
  have hpreorder := preorderOn_byNumber hid horder hcursor hrecords
  have hsorted : (listing schema filters order records).Pairwise fun a b =>
      rowLe schema order a b = true :=
    pairwise_mergeSort (hpreorder.subset List.filter_sublist.subset)
  refine hsorted.imp_of_mem fun ha hb hle => ?_
  exact (rowLe_of_mem hid horder hcursor hrecords (admits_of_mem_listing ha).1
    (admits_of_mem_listing hb).1).mp hle

end

/-- A listing shows no number twice if no two records have the same. -/
lemma nodup_listing {filters : FilterSet} (h : (records.map Record.id).Nodup) :
    ((listing schema filters order records).map Record.id).Nodup := by
  have hfound : ((records.filter filters.admits).map Record.id).Nodup :=
    h.sublist (List.filter_sublist.map Record.id)
  exact ((List.mergeSort_perm _ _).map Record.id).nodup_iff.mpr hfound

/-- A matching record behind the cursor is left in the listing. -/
lemma mem_remaining_listing {filters : FilterSet} {r : Record} (hr : r ∈ records)
    (hadmits : filters.admits r = true) (hbehind : ∀ lastId ∈ behind, Beyond cursor lastId r.id) :
    r ∈ remaining cursor behind (listing schema filters order records) :=
  mem_remaining.mpr ⟨List.mem_mergeSort.mpr (List.mem_filter.mpr ⟨hr, hadmits⟩), hbehind⟩

/-- What is left in order is on its first part, up to the number, or behind the last record of it. -/
lemma mem_or_beyond_of_take {found shown : List Record} {last r : Record} {n : Nat}
    (hsorted : found.Pairwise fun a b => ¬ Beyond cursor b.id a.id)
    (hlast : found.take n = shown ++ [last]) (hr : r ∈ found) :
    r.id ∈ (shown ++ [last]).map Record.id ∨ Beyond cursor last.id r.id := by
  have hmem : last ∈ shown ++ [last] := List.mem_concat_self
  rw [← List.take_append_drop n found, hlast] at hsorted hr
  cases List.mem_append.mp hr with
  | inl hr => exact .inl (List.mem_map_of_mem hr)
  | inr hr =>
    have hnot := (List.pairwise_append.mp hsorted).2.2 last hmem r hr
    rcases Beyond.trichotomy cursor last.id r.id with e | hbeyond | hbeyond
    · exact .inl (e ▸ List.mem_map_of_mem hmem)
    · exact .inr hbeyond
    · exact absurd hbeyond hnot

/-! ## Histories -/

/-- What comes next beside a walk: a record is inserted, or the walk is followed to its next page. -/
inductive Move where
  | insert (r : Record)
  | follow

/-- What happened beside a walk and on it. -/
inductive Event where
  | inserted (r : Record)
  | shown (page : Page Record)
  | failed (e : Error)

/-- The records that the moves insert, in their order. -/
def insertions (moves : List Move) : List Record :=
  moves.filterMap fun
    | .insert r => some r
    | .follow => none

/-- The pages that were shown, in their order. -/
def pagesShown (events : List Event) : List (Page Record) :=
  events.filterMap fun
    | .shown page => some page
    | _ => none

/-- The records on the pages that were shown, in their order. -/
def visited (events : List Event) : List Record :=
  (pagesShown events).flatMap Page.records

/-- A walk that has reached a page without records. -/
def Ended (events : List Event) : Prop :=
  ∃ page ∈ pagesShown events, page.records = []

namespace MemoryStore

/-- What happens on a walk beside insertions, until it fails or a page has no link. -/
def history (config : Config) (path : String) (overrides : Overrides) :
    List Move → Params → MemoryStore → List Event
  | [], _, _ => []
  | .insert r :: moves, params, store =>
    .inserted r :: history config path overrides moves params (store.insert r)
  | .follow :: moves, params, store =>
    match paginate config path overrides params store with
    | (.error e, _) => [.failed e]
    | (.ok page, store) =>
      .shown page ::
        match page.next? with
        | none => []
        | some link => history config path overrides moves (paramsOfLink link) store

section

variable {store store' : MemoryStore} {moves : List Move} {page : Page Record} {link : String}

/-- A history ends with a page without a link. -/
lemma history_stop (hpage : paginate config path overrides params store = (.ok page, store'))
    (hnext : page.next? = none) :
    history config path overrides (.follow :: moves) params store = [.shown page] := by
  rw [history, hpage]
  dsimp only
  rw [hnext]

/-- A history goes on with the request of the link of a page. -/
lemma history_next (hpage : paginate config path overrides params store = (.ok page, store'))
    (hnext : page.next? = some link) :
    history config path overrides (.follow :: moves) params store =
      .shown page :: history config path overrides moves (paramsOfLink link) store' := by
  rw [history, hpage]
  dsimp only
  rw [hnext]

end

end MemoryStore

/-- A history on a walk that goes on behind a number, with some records stored and others inserted: it
visits numbers behind it, each page behind the one before, and where it ends it has visited what was due
by the cursor. -/
structure Steady (cursor : String) (filters : FilterSet) (behind : Option Int64)
    (stored inserted : List Record) (events : List Event) : Prop where
  answered : ∀ e, .failed e ∉ events
  recorded : ∀ r, .inserted r ∈ events → r ∈ inserted
  known : ∀ r ∈ visited events, r ∈ stored ++ inserted
  beyond : ∀ r ∈ visited events, ∀ lastId ∈ behind, Beyond cursor lastId r.id
  sorted : ∀ page ∈ pagesShown events,
    page.records.Pairwise fun a b => ¬ Beyond cursor b.id a.id
  distinct : ((stored ++ inserted).map Record.id).Nodup →
    ∀ page ∈ pagesShown events, (page.records.map Record.id).Nodup
  apart : (pagesShown events).Pairwise fun page later =>
    ∀ a ∈ page.records, ∀ b ∈ later.records, Beyond cursor a.id b.id
  storedShown : Ended events → ∀ r ∈ stored, filters.admits r = true →
    (∀ lastId ∈ behind, Beyond cursor lastId r.id) → r.id ∈ (visited events).map Record.id
  insertedShown : Ended events → ∀ before r after, events = before ++ .inserted r :: after →
    filters.admits r = true →
    (∀ lastId ∈ ((visited before).getLast?.map Record.id).or behind, Beyond cursor lastId r.id) →
    r.id ∈ (visited events).map Record.id

namespace Steady

variable {filters : FilterSet} {stored inserted : List Record} {events : List Event}

/-- A walk that has not begun is steady. -/
lemma nil : Steady cursor filters behind stored inserted [] where
  answered := nofun
  recorded := nofun
  known := nofun
  beyond := nofun
  sorted := nofun
  distinct := nofun
  apart := .nil
  storedShown := nofun
  insertedShown := nofun

/-- An insertion before a steady history stores the record for all that follows. -/
lemma insert {r : Record} (h : Steady cursor filters behind (stored ++ [r]) inserted events) :
    Steady cursor filters behind stored (r :: inserted) (.inserted r :: events) where
  answered := fun e hmem => h.answered e ((List.mem_cons.mp hmem).resolve_left nofun)
  recorded := by
    intro a hmem
    cases List.mem_cons.mp hmem with
    | inl e =>
      cases e
      exact List.mem_cons_self
    | inr hmem => exact List.mem_cons_of_mem _ (h.recorded a hmem)
  known := by
    rw [List.append_cons]
    exact h.known
  beyond := h.beyond
  sorted := h.sorted
  distinct := by
    rw [List.append_cons]
    exact h.distinct
  apart := h.apart
  storedShown := fun hends a ha => h.storedShown hends a (List.mem_append_left _ ha)
  insertedShown := by
    rintro hends before a after e hadmits hbehind
    cases List.cons_eq_append_iff.mp e with
    | inl hhead =>
      -- the record is stored for what follows
      obtain ⟨rfl, e⟩ := hhead
      cases e
      exact h.storedShown hends _ List.mem_concat_self hadmits hbehind
    | inr hlater =>
      obtain ⟨before, rfl, rfl⟩ := hlater
      exact h.insertedShown hends before a after rfl hadmits hbehind

/-- A history that ends with an empty page is steady if no matching record is left. -/
lemma stop (hnone : ∀ r ∈ stored, filters.admits r = true →
      ¬ ∀ lastId ∈ behind, Beyond cursor lastId r.id) :
    Steady cursor filters behind stored inserted [.shown (.cursor [] none 0 none)] where
  answered := fun e hmem => nomatch List.mem_singleton.mp hmem
  recorded := fun r hmem => nomatch List.mem_singleton.mp hmem
  known := nofun
  beyond := nofun
  sorted := fun page hmem => List.mem_singleton.mp hmem ▸ .nil
  distinct := fun _ page hmem => List.mem_singleton.mp hmem ▸ .nil
  apart := List.pairwise_singleton _ _
  storedShown := fun _ r hr hadmits hbehind => absurd hbehind (hnone r hr hadmits)
  insertedShown := by
    rintro - before r after e
    have hmem : Event.inserted r ∈ [Event.shown (.cursor [] none 0 none)] :=
      e ▸ List.mem_append_right _ List.mem_cons_self
    exact nomatch List.mem_singleton.mp hmem

section

variable {page : Page Record} {last : Record}

/-- A page with records is not where a history ends. -/
lemma ended_of_cons (hlast : page.records.getLast? = some last)
    (h : Ended (.shown page :: events)) : Ended events := by
  obtain ⟨other, hmem, hnone⟩ := h
  cases List.mem_cons.mp hmem with
  | inl e =>
    rw [← e, hnone] at hlast
    cases hlast
  | inr hmem => exact ⟨other, hmem, hnone⟩

/-- Behind a page the last number that was visited is that of its last record, until there is a later
one. -/
lemma lastVisited_cons (hlast : page.records.getLast? = some last) (before : List Event) :
    ((visited (.shown page :: before)).getLast?.map Record.id).or behind =
      ((visited before).getLast?.map Record.id).or (some last.id) := by
  rw [show visited (.shown page :: before) = page.records ++ visited before from rfl,
    List.getLast?_append, hlast]
  cases (visited before).getLast? with
  | none => rfl
  | some r => rfl

/-- A page of the stored records behind the cursor stands before what is steady behind its last record.
-/
lemma shown (hlast : page.records.getLast? = some last)
    (hsorted : page.records.Pairwise fun a b => ¬ Beyond cursor b.id a.id)
    (hknown : ∀ r ∈ page.records, r ∈ stored)
    (hbeyond : ∀ r ∈ page.records, ∀ lastId ∈ behind, Beyond cursor lastId r.id)
    (hdistinct : (stored.map Record.id).Nodup → (page.records.map Record.id).Nodup)
    (hleft : ∀ r ∈ stored, filters.admits r = true →
      (∀ lastId ∈ behind, Beyond cursor lastId r.id) →
      r.id ∈ page.records.map Record.id ∨ Beyond cursor last.id r.id)
    (h : Steady cursor filters (some last.id) stored inserted events) :
    Steady cursor filters behind stored inserted (.shown page :: events) where
  answered := fun e hmem => h.answered e ((List.mem_cons.mp hmem).resolve_left nofun)
  recorded := fun r hmem => h.recorded r ((List.mem_cons.mp hmem).resolve_left nofun)
  known := by
    intro r hr
    cases List.mem_append.mp hr with
    | inl hr => exact List.mem_append_left _ (hknown r hr)
    | inr hr => exact h.known r hr
  beyond := by
    intro r hr lastId hbehind
    cases List.mem_append.mp hr with
    | inl hr => exact hbeyond r hr lastId hbehind
    | inr hr =>
      have hpage := hbeyond last (List.mem_of_getLast? hlast) lastId hbehind
      exact hpage.trans (h.beyond r hr last.id rfl)
  sorted := List.forall_mem_cons.mpr ⟨hsorted, h.sorted⟩
  distinct := by
    intro hnodup
    have hstored : (stored.map Record.id).Nodup :=
      hnodup.sublist ((List.sublist_append_left _ _).map _)
    exact List.forall_mem_cons.mpr ⟨hdistinct hstored, h.distinct hnodup⟩
  apart := by
    -- what is visited later stands behind the last record, and nothing on the page does
    refine List.pairwise_cons.mpr ⟨fun later hmem a ha b hb => ?_, h.apart⟩
    have hlater : Beyond cursor last.id b.id :=
      h.beyond b (List.mem_flatMap.mpr ⟨later, hmem, hb⟩) last.id rfl
    exact Beyond.of_not (not_beyond_getLast hsorted hlast ha) hlater
  storedShown := by
    intro hended r hr hadmits hbehind
    show r.id ∈ (page.records ++ visited events).map Record.id
    rw [List.map_append, List.mem_append]
    refine (hleft r hr hadmits hbehind).imp id fun hlater => ?_
    exact h.storedShown (ended_of_cons hlast hended) r hr hadmits (by rintro _ ⟨⟩; exact hlater)
  insertedShown := by
    intro hended before r after e hadmits hbehind
    show r.id ∈ (page.records ++ visited events).map Record.id
    rw [List.map_append, List.mem_append]
    obtain ⟨-, hhead⟩ | ⟨before, rfl, rfl⟩ := List.cons_eq_append_iff.mp e
    · cases hhead
    · rw [lastVisited_cons hlast] at hbehind
      exact .inr (h.insertedShown (ended_of_cons hlast hended) before r after rfl hadmits hbehind)

/-- The first records that are left of a listing in the direction of the cursor, before a history behind
the last one of them. -/
lemma shown_of_take {before : List Record} {n : Nat}
    (hsorted : (listing schema filters order stored).Pairwise fun a b => ¬ Beyond cursor b.id a.id)
    (hpage : page.records = before ++ [last])
    (hlast : (remaining cursor behind (listing schema filters order stored)).take n =
      before ++ [last])
    (h : Steady cursor filters (some last.id) stored inserted events) :
    Steady cursor filters behind stored inserted (.shown page :: events) := by
  have htake : page.records =
      (remaining cursor behind (listing schema filters order stored)).take n := hpage.trans hlast.symm
  have hpart : page.records.Sublist (remaining cursor behind (listing schema filters order stored)) :=
    htake ▸ List.take_sublist _ _
  have hsub : page.records.Sublist (listing schema filters order stored) :=
    hpart.trans List.filter_sublist
  refine .shown (hpage ▸ List.getLast?_concat) (hsorted.sublist hsub) ?_ ?_ ?_ ?_ h
  · exact fun r hr => (admits_of_mem_listing (hsub.subset hr)).1
  · exact fun r hr => (mem_remaining.mp (hpart.subset hr)).2
  · exact fun hnodup => (nodup_listing hnodup).sublist (hsub.map Record.id)
  · intro r hr hadmits hbehind
    rw [hpage]
    exact mem_or_beyond_of_take (hsorted.sublist List.filter_sublist) hlast
      (mem_remaining_listing hr hadmits hbehind)

end

end Steady

namespace MemoryStore

/-- From any of its requests on a walk by number has a steady history, whatever is inserted. -/
lemma steady_history (hstart : WalkStart config path overrides schema first query)
    (horder : query.order.entries = [("id", direction)])
    (hcursor : Beyond (cursorKey config query) = direction.Leads) (moves : List Move)
    (hnumbered : ∀ r ∈ records ++ insertions moves, r.Numbered) (k : UInt64)
    (h : OnWalk first query (cursorKey config query) behind params) :
    Steady (cursorKey config query) query.filters behind records (insertions moves)
      (history config path overrides moves params ⟨schema, records, k⟩) := by
  induction moves generalizing behind params records k with
  | nil => exact .nil
  | cons move moves ih =>
    cases move with
    | insert r =>
      have hnumbered : ∀ a ∈ (records ++ [r]) ++ insertions moves, a.Numbered := by
        rw [← List.append_cons]
        exact hnumbered
      exact (ih hnumbered k h).insert
    | follow =>
      have hrecords : ∀ r ∈ records, r.Numbered :=
        fun r hr => hnumbered r (List.mem_append_left _ hr)
      have hwalkable : Walkable schema query.order records :=
        ⟨hrecords, preorderOn_byNumber hstart.idType horder hcursor hrecords⟩
      have hlisting := pairwise_listing hstart.idType horder hcursor hrecords query.filters
      obtain ⟨q, hstage⟩ := h.stage_remaining hstart hwalkable
      obtain ⟨hnil, hpage⟩ | ⟨shown, last, link, hlast, hnext, hpage⟩ :=
        hstage.paginate_cases hstart.request hwalkable.hasForm k
      · have htakes : query.take.toNat ≠ 0 :=
          fun e => hstart.take_ne_zero (UInt32.toNat_inj.mp e)
        have hnone := (List.take_eq_nil_iff.mp hnil).resolve_left htakes
        rw [history_stop hpage rfl]
        exact .stop fun r hr hadmits hbehind =>
          List.ne_nil_of_mem (mem_remaining_listing hr hadmits hbehind) hnone
      · have hlater := ih hnumbered (k + 1) (.later hstart.take_ne_zero hnext)
        rw [history_next hpage rfl]
        exact hlater.shown_of_take hlisting rfl hlast

end MemoryStore

/-- A record that a walk has to visit: it was stored before the walk, or it was inserted behind the last
record that was visited by then. -/
def Due (direction : Direction) (stored : List Record) (events : List Event) (r : Record) : Prop :=
  r ∈ stored ∨ ∃ before after, events = before ++ .inserted r :: after ∧
    ∀ last ∈ (visited before).getLast?, direction.Leads last.id r.id

namespace Steady

variable {filters : FilterSet} {stored inserted : List Record} {events : List Event}

/-- Where a walk by number ends it has visited the number of every matching record that was due. -/
lemma number_visited (hcursor : Beyond cursor = direction.Leads)
    (h : Steady cursor filters none stored inserted events) (hends : Ended events) {r : Record}
    (hr : Due direction stored events r) (hadmits : filters.admits r = true) :
    r.id ∈ (visited events).map Record.id := by
  obtain hr | ⟨before, after, e, hbehind⟩ := hr
  · exact h.storedShown hends r hr hadmits nofun
  · refine h.insertedShown hends before r after e hadmits fun lastId hlast => ?_
    rw [Option.or_none] at hlast
    obtain ⟨last, hget, rfl⟩ := Option.map_eq_some_iff.mp hlast
    rw [hcursor]
    exact hbehind last hget

/-- On a page different numbers in order are strictly in order. -/
lemma pairwise_beyond (h : Steady cursor filters behind stored inserted events)
    (hnodup : ((stored ++ inserted).map Record.id).Nodup) :
    (visited events).Pairwise fun a b => Beyond cursor a.id b.id := by
  refine List.pairwise_flatMap.mpr ⟨fun page hmem => ?_, h.apart⟩
  have hne : page.records.Pairwise fun a b => a.id ≠ b.id :=
    List.pairwise_map.mp (h.distinct hnodup page hmem)
  refine (hne.and (h.sorted page hmem)).imp fun ⟨hne, hnot⟩ => ?_
  rcases Beyond.trichotomy cursor _ _ with e | hbeyond | hbeyond
  · exact absurd e hne
  · exact hbeyond
  · exact absurd hbeyond hnot

/-- A record that is due was stored or inserted. -/
lemma mem_of_due (h : Steady cursor filters behind stored inserted events) {r : Record}
    (hr : Due direction stored events r) : r ∈ stored ++ inserted := by
  obtain hr | ⟨before, after, rfl, -⟩ := hr
  · exact List.mem_append_left _ hr
  · exact List.mem_append_right _ (h.recorded r (List.mem_append_right _ List.mem_cons_self))

end Steady

namespace MemoryStore

/-- A walk by number is stable under insertions between its requests: it does not fail, its pages are
apart and in order, and where it ends it has visited every matching number that was due. If all numbers
are different, it visits each once, with its record. -/
theorem history_stable {store : MemoryStore} {moves : List Move} {events : List Event}
    (hstart : WalkStart config path overrides store.schema params query)
    (hfield : config.cursorOrderField = "id") (horder : query.order.entries = [("id", direction)])
    (hrecords : ∀ r ∈ store.records ++ insertions moves, r.Numbered)
    (hevents : history config path overrides moves params store = events) :
    (∀ e, .failed e ∉ events) ∧
    (visited events).Pairwise (fun a b => ¬ direction.Leads b.id a.id) ∧
    (pagesShown events).Pairwise Page.Apart ∧
    (Ended events → ∀ r, Due direction store.records events r → query.filters.admits r = true →
      r.id ∈ (visited events).map Record.id) ∧
    (((store.records ++ insertions moves).map Record.id).Nodup →
      (visited events).Pairwise (fun a b => direction.Leads a.id b.id) ∧
      (Ended events → ∀ r, Due direction store.records events r → query.filters.admits r = true →
        r ∈ visited events)) := by
  have hcursor := beyond_cursorKey hfield horder
  have hsteady := steady_history hstart horder hcursor moves hrecords store.queries .first
  rw [show history config path overrides moves params _ = events from hevents] at hsteady
  refine ⟨hsteady.answered, ?_, ?_,
    fun hends r hr hadmits => hsteady.number_visited hcursor hends hr hadmits,
    fun hnodup => ⟨?_, fun hends r hr hadmits => ?_⟩⟩
  · rw [← hcursor]
    refine List.pairwise_flatMap.mpr ⟨hsteady.sorted, hsteady.apart.imp fun h a ha b hb => ?_⟩
    exact (h a ha b hb).asymm
  · refine hsteady.apart.imp fun h a ha b hb e => ?_
    have hself : Beyond (cursorKey config query) b.id b.id := e ▸ h a ha b hb
    exact hself.asymm hself
  · rw [← hcursor]
    exact hsteady.pairwise_beyond hnodup
  · -- the number of the record was visited, and no other record has it
    obtain ⟨other, hother, e⟩ := List.mem_map.mp (hsteady.number_visited hcursor hends hr hadmits)
    exact List.inj_on_of_nodup_map hnodup (hsteady.known other hother) (hsteady.mem_of_due hr) e ▸
      hother

/-- A message that is inserted behind what was visited is visited, and one that is inserted before it is
not. -/
theorem history_stable_messages :
    ∃ events, history byNumber "messages" {}
        [.follow, .insert (message 4), .insert (message 0), .follow, .follow] messageParams
        (messagesOf [1, 2, 3] 0) = events ∧
      Ended events ∧ (visited events).Pairwise (fun a b => a.id < b.id) ∧
      message 4 ∈ visited events := by
  have hfirst : Finds {} messageParams [1, 2, 3] messageQuery [1, 2, 3] [1] 2 :=
    ⟨walkStart_messages.checked, rfl, rfl, by decide +kernel, rfl⟩
  have hsecond : Finds {} (inOrder [("take", "2"), (cursorAfter, "2")]) [1, 2, 3, 4, 0]
      { ascendingQuery [("id", cursorPredicate cursorAfter 2)] with take := 2 } [3, 4] [3] 4 :=
    ⟨checkedQuery_of_compose Config.validate_default rfl, rfl, rfl, by decide +kernel, rfl⟩
  have hthird : checkedQuery messages.schema byNumber (inOrder [("take", "2"), (cursorAfter, "4")]) {} =
      .ok { ascendingQuery [("id", cursorPredicate cursorAfter 4)] with take := 2 } :=
    checkedQuery_of_compose Config.validate_default rfl
  obtain ⟨link, hlink, hparams⟩ :=
    exists_link_messages (echo messageParams messageQuery) cursorAfter 2
  have hparams : paramsOfLink link = inOrder [("take", "2"), (cursorAfter, "2")] := hparams
  obtain ⟨link', hlink', hparams'⟩ := exists_link_messages
    (echo (inOrder [("take", "2"), (cursorAfter, "2")])
      { ascendingQuery [("id", cursorPredicate cursorAfter 2)] with take := 2 }) cursorAfter 4
  have hparams' : paramsOfLink link' = inOrder [("take", "2"), (cursorAfter, "4")] := hparams'
  have hforms : ∀ r ∈ (messagesOf [1, 2, 3, 4, 0] (1 + 1)).records, r.HasForm :=
    fun r hr => (numbered_messagesOf _ _ r hr).hasForm
  have hpage := hfirst.paginate_eq hlink 0
  have hpage' := hsecond.paginate_eq hlink' 1
  have hend : paginate byNumber "messages" {} (inOrder [("take", "2"), (cursorAfter, "4")])
      (messagesOf [1, 2, 3, 4, 0] (1 + 1)) =
        (.ok (.cursor [] none 0 none), messagesOf [1, 2, 3, 4, 0] (1 + 1 + 1)) :=
    paginate_none hforms hthird rfl rfl
  have hevents : history byNumber "messages" {}
      [.follow, .insert (message 4), .insert (message 0), .follow, .follow] messageParams
      (messagesOf [1, 2, 3] 0) = [.shown (.cursor [message 1, message 2] (some 2) 2 (some link)),
        .inserted (message 4), .inserted (message 0),
        .shown (.cursor [message 3, message 4] (some 4) 2 (some link')),
        .shown (.cursor [] none 0 none)] := by
    rw [history_next hpage rfl, hparams]
    show _ :: _ :: _ :: history byNumber "messages" {} [.follow, .follow] _
      (messagesOf [1, 2, 3, 4, 0] 1) = _
    rw [history_next hpage' rfl, hparams', history_stop hend rfl]
    rfl
  have hnumbered : ∀ r ∈ (messagesOf [1, 2, 3] 0).records ++ insertions
      [.follow, .insert (message 4), .insert (message 0), .follow, .follow], r.Numbered :=
    numbered_messagesOf [1, 2, 3, 4, 0] 0
  obtain ⟨-, -, -, -, hdistinct⟩ :=
    history_stable walkStart_messages rfl rfl hnumbered hevents
  obtain ⟨hsorted, hvisits⟩ := hdistinct (by decide)
  have hended : Ended [.shown (.cursor [message 1, message 2] (some 2) 2 (some link)),
      .inserted (message 4), .inserted (message 0),
      .shown (.cursor [message 3, message 4] (some 4) 2 (some link')),
      .shown (.cursor [] none 0 none)] :=
    ⟨.cursor [] none 0 none, List.mem_cons_of_mem _ (List.mem_cons_of_mem _ List.mem_cons_self), rfl⟩
  refine ⟨_, hevents, hended, hsorted, hvisits hended _ (.inr ⟨[_], _, rfl, ?_⟩) rfl⟩
  rintro last ⟨⟩
  show (2 : Int64) < 4
  decide

/-- A message with the number of another one. -/
def twin : Record :=
  .ofJson 1 (.obj [("id", .int 1), ("read", .bool true)])

/-- A store of two messages with one number. -/
def twins : MemoryStore :=
  ⟨messages.schema, [message 1, twin], 0⟩

/-- The twins are records with numbers. -/
lemma numbered_twins : ∀ r ∈ twins.records, r.Numbered := by
  intro r hr
  simp only [twins, List.mem_cons, List.not_mem_nil, or_false] at hr
  rcases hr with rfl | rfl
  · exact ⟨_, rfl, rfl⟩
  · exact ⟨_, rfl, rfl⟩

/-- Of two messages with one number the second one is visited at the same number on the same page, and
if the page ends between them it is not visited. -/
theorem history_twins :
    (∀ r ∈ twins.records, r.Numbered) ∧
    (∃ query, WalkStart byNumber "messages" {} twins.schema (inOrder []) query ∧
      query.order.entries = [("id", .ascending)] ∧
      ¬ (visited (history byNumber "messages" {} [.follow] (inOrder []) twins)).Pairwise
        fun a b => a.id < b.id) ∧
    ∃ query, WalkStart byNumber "messages" {} twins.schema (inOrder [("take", "1")]) query ∧
      query.order.entries = [("id", .ascending)] ∧
      Ended (history byNumber "messages" {} [.follow, .follow] (inOrder [("take", "1")]) twins) ∧
      twin ∈ twins.records ∧ query.filters.admits twin = true ∧
      twin ∉ visited
        (history byNumber "messages" {} [.follow, .follow] (inOrder [("take", "1")]) twins) := by
  have hforms : ∀ k, ∀ r ∈ (⟨messages.schema, twins.records, k⟩ : MemoryStore).records, r.HasForm :=
    fun _ r hr => (numbered_twins r hr).hasForm
  have hsorted : twins.records.Pairwise fun a b =>
      rowLe messages.schema (ascendingQuery []).order a b = true := by decide +kernel
  have htogether : checkedQuery messages.schema byNumber (inOrder []) {} = .ok (ascendingQuery []) :=
    checkedQuery_of_compose Config.validate_default rfl
  have hfirst : checkedQuery messages.schema byNumber (inOrder [("take", "1")]) {} =
      .ok { ascendingQuery [] with take := 1 } :=
    checkedQuery_of_compose Config.validate_default rfl
  have hsecond : checkedQuery messages.schema byNumber
      (inOrder [("take", "1"), (cursorAfter, "1")]) {} =
        .ok { ascendingQuery [("id", cursorPredicate cursorAfter 1)] with take := 1 } :=
    checkedQuery_of_compose Config.validate_default rfl
  refine ⟨numbered_twins, ⟨_, walkStart_byNumber htogether rfl (by decide), rfl, ?_⟩,
    _, walkStart_byNumber hfirst rfl (by decide), rfl, ?_⟩
  · obtain ⟨link, hlink, -⟩ :=
      exists_link_messages (echo (inOrder []) (ascendingQuery [])) cursorAfter 1
    have htaken : twins.records.take 20 = [message 1] ++ [twin] := rfl
    have hpage : paginate byNumber "messages" {} (inOrder []) twins =
        (.ok (.cursor [message 1, twin] (some 1) 2 (some link)), twins.counted) :=
      paginate_sorted (hforms 0) htogether rfl rfl hsorted htaken hlink
    rw [history_next hpage rfl]
    intro hstrict
    exact absurd ((List.pairwise_cons.mp hstrict).1 twin (List.mem_singleton_self _)) (by decide)
  · obtain ⟨link, hlink, hparams⟩ := exists_link_messages
      (echo (inOrder [("take", "1")]) { ascendingQuery [] with take := 1 }) cursorAfter 1
    have hparams : paramsOfLink link = inOrder [("take", "1"), (cursorAfter, "1")] := hparams
    have htaken : twins.records.take 1 = [] ++ [message 1] := rfl
    have hpage : paginate byNumber "messages" {} (inOrder [("take", "1")]) twins =
        (.ok (.cursor [message 1] (some 1) 1 (some link)), twins.counted) :=
      paginate_sorted (hforms 0) hfirst rfl rfl hsorted htaken hlink
    have hend : paginate byNumber "messages" {} (inOrder [("take", "1"), (cursorAfter, "1")])
        twins.counted = (.ok (.cursor [] none 0 none), twins.counted.counted) :=
      paginate_none (hforms 1) hsecond rfl rfl
    rw [history_next hpage rfl, hparams, history_stop hend rfl]
    refine ⟨⟨.cursor [] none 0 none, List.mem_cons_of_mem _ List.mem_cons_self, rfl⟩,
      List.mem_cons_of_mem _ List.mem_cons_self, rfl, fun hmem => ?_⟩
    have hsame : twin = message 1 := List.mem_singleton.mp hmem
    injection hsame with _ hform
    cases hform

end MemoryStore

end PagedListing

import PagedListing.Proofs.Paging.NumberFilter
import Mathlib.Data.Finset.Card

/-!
# Walks end

Every request of a walk is the first one or repeats it behind the last record that was shown
(`OnWalk`), whatever the first one filters by and however it orders. What a later request has left
stands behind its cursor (`OnWalk.stage`), so each page with records takes the number of its last
record from those behind the cursor (`card_numbersBehind_lt`). A walk has at most one page more than the
store has numbers, and it fails nowhere (`MemoryStore.walk_ends`).
-/

namespace PagedListing

variable {config : Config} {path : String} {overrides : Overrides} {schema : Schema}
variable {records : List Record} {first params : Params} {query : PageQuery} {cursor : String}
variable {behind : Option Int64}

/-- The requests of a walk, with the number behind which they ask. -/
inductive OnWalk (first : Params) (query : PageQuery) (cursor : String) :
    Option Int64 → Params → Prop where
  | first : OnWalk first query cursor none first
  | later {lastId : Int64} {params : Params} (takes : query.take ≠ 0)
      (echoed : EchoOf first query cursor lastId params) :
      OnWalk first query cursor (some lastId) params

/-- A request of a walk has records behind its cursor left. -/
lemma OnWalk.stage (hrequest : WalkRequest config path overrides schema first query)
    (hrecords : ∀ r ∈ records, r.Numbered)
    (h : OnWalk first query (cursorKey config query) behind params) :
    ∃ q rest, Stage config overrides schema records first query params q rest ∧
      ∀ r ∈ rest, r ∈ records ∧ ∀ lastId ∈ behind, Beyond (cursorKey config query) lastId r.id := by
  cases h with
  | first =>
    exact ⟨query, _, ⟨hrequest.checked, hrequest.unpaged, rfl, rfl, rfl, rfl⟩,
      fun r hr => ⟨(admits_of_mem_listing hr).1, nofun⟩⟩
  | @later lastId _ takes echoed =>
    have hcursor := isCursor_cursorKey config query
    have hchecked := hrequest.checkedQuery_of_echo takes hcursor echoed
    -- the cursor is what the request asks of the number, whatever the first one asks of it
    obtain ⟨front, hentries⟩ : ∃ front, params.entries =
        front ++ [(cursorKey config query, Number.int64Text lastId)] := ⟨_, echoed⟩
    have hp := get?_id_of_concat hrequest.idType hcursor hrequest.idFree hentries hchecked
    refine ⟨_, _, ⟨hchecked, hrequest.unpaged, rfl, rfl, echoed.echo_eq hcursor _, rfl⟩,
      fun r hr => ⟨(admits_of_mem_listing hr).1, ?_⟩⟩
    rintro _ ⟨⟩
    have hrecords : ∀ r ∈ (⟨schema, records, 0⟩ : MemoryStore).records, r.Numbered := hrecords
    have hholds := MemoryStore.holds_of_mem_listing hrecords hp hr
    rw [holds_cursorPredicate] at hholds
    exact of_decide_eq_true hholds

/-! ## The numbers behind a cursor -/

/-- The numbers of some records that stand behind a number. -/
def numbersBehind (cursor : String) (behind : Option Int64) (records : List Record) :
    Finset Int64 :=
  (records.map Record.id).toFinset.filter fun id => behind.all fun lastId => Beyond cursor lastId id

/-- The test for a number behind the cursor is the statement about it. -/
lemma all_beyond_iff {id : Int64} :
    (behind.all fun lastId => decide (Beyond cursor lastId id)) = true ↔
      ∀ lastId ∈ behind, Beyond cursor lastId id := by
  rw [Option.all_eq_true]
  exact forall₂_congr fun _ _ => decide_eq_true_iff

/-- The numbers behind a cursor are those of the records that stand behind it. -/
lemma mem_numbersBehind {id : Int64} :
    id ∈ numbersBehind cursor behind records ↔
      (∃ r ∈ records, r.id = id) ∧ ∀ lastId ∈ behind, Beyond cursor lastId id := by
  rw [numbersBehind, Finset.mem_filter, List.mem_toFinset, List.mem_map, all_beyond_iff]

/-- There are fewer numbers behind a record that stands behind the cursor than behind the cursor. -/
lemma card_numbersBehind_lt {last : Record} (hmem : last ∈ records)
    (hbehind : ∀ lastId ∈ behind, Beyond cursor lastId last.id) :
    (numbersBehind cursor (some last.id) records).card <
      (numbersBehind cursor behind records).card := by
  refine Finset.card_lt_card (Finset.ssubset_iff_of_subset ?_ |>.mpr ⟨last.id, ?_, ?_⟩)
  · intro id hid
    obtain ⟨hid, hlast⟩ := mem_numbersBehind.mp hid
    exact mem_numbersBehind.mpr
      ⟨hid, fun lastId h => (hbehind lastId h).trans (hlast last.id rfl)⟩
  · exact mem_numbersBehind.mpr ⟨⟨last, hmem, rfl⟩, hbehind⟩
  · intro hself
    have hself := (mem_numbersBehind.mp hself).2 last.id rfl
    exact hself.asymm hself

/-! ## The length of a walk -/

/-- Pages of which all but the last one show records and lead on, at most one more than a bound. -/
structure Ends (bound : Nat) (pages : List (Page Record)) : Prop where
  bounded : pages.length ≤ bound + 1
  last : ∃ shown, pages = shown ++ [.cursor [] none 0 none] ∧
    ∀ page ∈ shown, page.records ≠ [] ∧ page.next? ≠ none

/-- An empty page is the end of a walk, under any bound. -/
lemma Ends.nil (bound : Nat) : Ends bound [.cursor [] none 0 none] where
  bounded := Nat.le_add_left 1 bound
  last := ⟨[], rfl, nofun⟩

/-- A page that shows records and leads on comes before pages under a smaller bound. -/
lemma Ends.cons {bound bound' : Nat} {page : Page Record} {pages : List (Page Record)}
    (hless : bound < bound') (hrecords : page.records ≠ []) (hnext : page.next? ≠ none)
    (h : Ends bound pages) : Ends bound' (page :: pages) where
  bounded := by
    have hlength := h.bounded
    rw [List.length_cons]
    omega
  last := by
    obtain ⟨shown, rfl, hshown⟩ := h.last
    exact ⟨page :: shown, rfl, List.forall_mem_cons.mpr ⟨⟨hrecords, hnext⟩, hshown⟩⟩

namespace MemoryStore

/-- From any of its requests on a walk has at most one page more than there are numbers behind the
cursor. -/
lemma walk_onWalk (hrequest : WalkRequest config path overrides schema first query)
    (hrecords : ∀ r ∈ records, r.Numbered) (k : UInt64)
    (h : OnWalk first query (cursorKey config query) behind params) :
    ∃ pages, Ends (numbersBehind (cursorKey config query) behind records).card pages ∧
      ∀ n, walk config path overrides n params (⟨schema, records, k⟩ : MemoryStore) =
        (.ok (pages.take n), ⟨schema, records, k + .ofNat (min n pages.length)⟩) := by
  -- on the numbers behind the cursor, of which every page with records takes one
  induction hcount : (numbersBehind (cursorKey config query) behind records).card
    using Nat.strongRecOn generalizing behind params k with
  | ind count ih =>
    obtain ⟨q, rest, hstage, hrest⟩ := h.stage hrequest hrecords
    have hforms : ∀ r ∈ records, r.HasForm := fun r hr => (hrecords r hr).hasForm
    obtain ⟨-, hpage⟩ | ⟨shown, last, link, hlast, hnext, hpage⟩ :=
      hstage.paginate_cases hrequest hforms k
    · refine ⟨_, .nil _, fun n => ?_⟩
      cases n with
      | zero =>
        rw [Nat.zero_min, show UInt64.ofNat 0 = 0 from rfl, UInt64.add_zero]
        rfl
      | succ n =>
        rw [walk_stop hpage rfl, List.length_singleton, Nat.min_eq_right (Nat.le_add_left 1 n),
          List.take_succ_cons, List.take_nil]
        rfl
    · have htakes : query.take ≠ 0 := by
        intro e
        rw [e] at hlast
        simp at hlast
      have hmem : last ∈ rest := List.mem_of_mem_take (hlast ▸ List.mem_concat_self)
      obtain ⟨hmem, hbehind⟩ := hrest last hmem
      have hless := card_numbersBehind_lt hmem hbehind
      obtain ⟨pages, hends, hwalk⟩ := ih _ (hcount ▸ hless) (k + 1) (.later htakes hnext) rfl
      have hsome : shown ++ [last] ≠ [] := List.append_ne_nil_of_right_ne_nil _ nofun
      refine ⟨.cursor (shown ++ [last]) (some last.id) (shown ++ [last]).length (some link) :: pages,
        hends.cons (hcount ▸ hless) hsome nofun, fun n => ?_⟩
      cases n with
      | zero =>
        rw [Nat.zero_min, show UInt64.ofNat 0 = 0 from rfl, UInt64.add_zero]
        rfl
      | succ n =>
        rw [walk_next hpage rfl (hwalk n), List.length_cons, queries_add_succ,
          Nat.add_min_add_right]
        rfl

/-- A walk ends: without a filter of the overrides on the number of the records it fails nowhere, and it
has at most one page more than the store has numbers, the last of them without records and without a
link. -/
theorem walk_ends {store : MemoryStore}
    (hrequest : WalkRequest config path overrides store.schema params query)
    (hrecords : ∀ r ∈ store.records, r.Numbered) :
    ∃ pages : List (Page Record),
      (∀ n, walk config path overrides n params store =
        (.ok (pages.take n), { store with queries := store.queries + .ofNat (min n pages.length) })) ∧
      pages.length ≤ (store.records.map Record.id).toFinset.card + 1 ∧
      ∃ shown, pages = shown ++ [.cursor [] none 0 none] ∧
        ∀ page ∈ shown, page.records ≠ [] ∧ page.next? ≠ none := by
  obtain ⟨pages, hends, hwalk⟩ := walk_onWalk hrequest hrecords store.queries .first
  have hfewer : (numbersBehind (cursorKey config query) none store.records).card ≤
      (store.records.map Record.id).toFinset.card := Finset.card_filter_le _ _
  exact ⟨pages, hwalk, hends.bounded.trans (Nat.succ_le_succ hfewer), hends.last⟩

/-- A walk over messages of two numbers has three pages at most, also if it asks for one number. -/
theorem walk_ends_messages :
    ∃ pages : List (Page Record),
      (walk byNumber "messages" {} 3 (inOrder [("where__id", "1")]) (messagesOf [1, 2, 2] 0)).1 =
        .ok pages ∧
      pages.getLast? = some (.cursor [] none 0 none) := by
  have hrequest : WalkRequest byNumber "messages" {} (messagesOf [1, 2, 2] 0).schema
      (inOrder [("where__id", "1")]) (ascendingQuery [("id", .compare .equal (.integer 1))]) :=
    ⟨rfl, checkedQuery_of_compose Config.validate_default rfl, rfl, by decide, by decide,
      exists_read_messages, rfl⟩
  obtain ⟨pages, hwalk, hlength, shown, hlast, -⟩ :=
    walk_ends hrequest (numbered_messagesOf [1, 2, 2] 0)
  have hnumbers : ((messagesOf [1, 2, 2] 0).records.map Record.id).toFinset.card = 2 := by decide
  rw [hnumbers] at hlength
  refine ⟨pages, ?_, ?_⟩
  · rw [hwalk 3, List.take_of_length_le hlength]
  · rw [hlast, List.getLast?_concat]

end MemoryStore

end PagedListing

import Mathlib.Data.List.Basic
import PagedListing.Proofs.Paging.Link
import PagedListing.Proofs.Paging.Page
import PagedListing.Proofs.Query.Reading

/-!
# Requests of a walk

Links leave out the cursors, the page number and empty values, and what reads nothing in these reads in
a link what it reads in the request (`filterMap_echo`). The page size that links add is the one in use
(`readTake_of_echo`).

A request of a walk (`WalkRequest`) is repeated by every later request of the walk, up to the cursor: a
later request is composed to the query of the first one, but for the filters
(`EchoOf.checkedQuery_eq`). If the request has no filter that links leave out (`WalkStart`),
they are those of the first query and one more, on the number of the records
(`WalkStart.checkedQuery_of_echo`). A later request repeats itself in the same way (`EchoOf.echo_eq`).
-/

namespace PagedListing
open PagedListing.Steps
open PagedListing.Number (int64Text)
open PagedListing.Web (Unmarked)

/-- A request that a walk can begin with, and its query under overrides: it asks for no page number
and filters neither by the number of the records nor by an empty value. -/
structure WalkStart (config : Config) (path : String) (overrides : Overrides) (schema : Schema)
    (params : Params) (query : PageQuery) : Prop where
  idType : schema.fieldType "id" = .ok .integer
  checked : checkedQuery schema config params overrides = .ok query
  unpaged : query.page = none
  hostUnmarked : Unmarked config.host.toList
  pathUnmarked : Unmarked path.toList
  address : ∃ url, Web.Url.read (listingAddress config path) = .ok url
  noId : ∀ param ∈ params.entries, ∀ operator,
    Directive.ofKey param.1 ≠ .ok (some (.filter "id" operator))
  noEmpty : ∀ param ∈ params.entries, param.2 = "" → ∀ field operator,
    Directive.ofKey param.1 ≠ .ok (some (.filter field operator))
  idFree : overrides.filters.get? "id" = none
  takes : overrides.take ≠ some 0

/-- A request that is answered by a page of a walk, on an address without marks, and its query under
overrides that do not filter by the number of the records. -/
structure WalkRequest (config : Config) (path : String) (overrides : Overrides) (schema : Schema)
    (params : Params) (query : PageQuery) : Prop where
  idType : schema.fieldType "id" = .ok .integer
  checked : checkedQuery schema config params overrides = .ok query
  unpaged : query.page = none
  hostUnmarked : Unmarked config.host.toList
  pathUnmarked : Unmarked path.toList
  address : ∃ url, Web.Url.read (listingAddress config path) = .ok url
  idFree : overrides.filters.get? "id" = none

/-- Parameters that a link repeats for a request and its query, with a cursor behind them. -/
def EchoOf (params : Params) (query : PageQuery) (cursor : String) (lastId : Int64)
    (next : Params) : Prop :=
  next.entries = echo params query ++ [(cursor, int64Text lastId)]

/-- What a link repeats is among the parameters of its request. -/
lemma EchoOf.subset {params next : Params} {query : PageQuery} {cursor : String} {lastId : Int64}
    (h : EchoOf params query cursor lastId next) : echo params query ⊆ next.entries := by
  intro param hmem
  rw [show next.entries = _ from h]
  exact List.mem_append_left _ hmem

/-- The text of a number is not empty. -/
lemma toString_ne_empty (n : UInt32) : toString n ≠ "" := by
  intro e
  have hread := Number.readUInt32?_toString n
  rw [e] at hread
  cases hread

/-- The cursors are neither the page size nor the page. -/
lemma isCursor_cases {name : String} (h : isCursor name = true) :
    name ≠ Params.take ∧ name ≠ Params.page := by
  have hkey := ofKey_cursor h
  constructor
  · rintro rfl
    rw [ofKey_take] at hkey
    cases hkey
  · rintro rfl
    rw [ofKey_page] at hkey
    cases hkey

/-- A link is continued under one of the cursors. -/
lemma isCursor_cursorKey (config : Config) (query : PageQuery) :
    isCursor (cursorKey config query) = true := by
  unfold cursorKey
  split
  · decide
  · decide

/-- The direction of a walk depends on the ordering only. -/
lemma cursorKey_congr {config : Config} {query q : PageQuery} (h : q.order = query.order) :
    cursorKey config q = cursorKey config query := by
  rw [cursorKey, cursorKey, h]

/-- What a cursor asks of the number of a record. -/
def cursorPredicate (cursor : String) (lastId : Int64) : Predicate :=
  .compare (cursorRelation cursor) (.integer lastId)

/-- The text of a number is read back by a cursor. -/
lemma build_cursor (cursor : String) (lastId : Int64) :
    (Operator.compare (cursorRelation cursor)).build "id" .integer (int64Text lastId) =
      .ok (cursorPredicate cursor lastId) := by
  refine bind_eq_ok_iff.mpr ⟨.integer lastId, ?_, rfl⟩
  rw [Operand.read, Operand.read?, Number.trim_int64Text, Number.readInt64?_int64Text]
  rfl

/-! ## What links repeat -/

section

variable {params next : Params} {query : PageQuery} {cursor : String}

/-- A parameter is dropped if it is empty, a cursor or the page. -/
lemma isEchoed_eq_false_iff {name value : String} :
    isEchoed (name, value) = false ↔
      value = "" ∨ isCursor name = true ∨ name = Params.page := by
  simp only [isEchoed, Bool.and_eq_false_iff, decide_eq_false_iff_not, ne_eq, not_not,
    Bool.not_eq_false', or_assoc]

/-- A link repeats only parameters that are not dropped. -/
lemma isEchoed_of_mem_echo {param : String × String} (hmem : param ∈ echo params query) :
    isEchoed param = true := by
  rw [echo, List.mem_append] at hmem
  cases hmem with
  | inl hmem => exact (List.mem_filter.mp hmem).2
  | inr hmem =>
    split at hmem
    · cases hmem
    · rw [List.mem_singleton.mp hmem]
      have hne : decide (toString query.take ≠ "") = true :=
        decide_eq_true (toString_ne_empty query.take)
      rw [isEchoed, hne]
      rfl

/-- What a link repeats is neither empty nor a cursor nor the page. -/
lemma name_of_mem_echo {name value : String} (hmem : (name, value) ∈ echo params query) :
    value ≠ "" ∧ isCursor name = false ∧ name ≠ Params.page := by
  have hechoed := isEchoed_of_mem_echo hmem
  simp only [isEchoed, Bool.and_eq_true, decide_eq_true_eq, Bool.not_eq_true'] at hechoed
  exact ⟨hechoed.1.1, hechoed.1.2, hechoed.2⟩

/-- What a link repeats is a parameter of the request or the page size of the query. -/
lemma mem_or_eq_take_of_mem_echo {param : String × String} (hmem : param ∈ echo params query) :
    param ∈ params.entries ∨ param = (Params.take, toString query.take) := by
  rw [echo, List.mem_append] at hmem
  cases hmem with
  | inl hmem => exact .inl (List.mem_filter.mp hmem).1
  | inr hmem =>
    split at hmem
    · cases hmem
    · exact .inr (List.mem_singleton.mp hmem)

/-- A filter that drops only what gives no result leaves the results as they are. -/
lemma filterMap_filter_of_dropped {α β : Type} {f : α → Option β} {keep : α → Bool} {l : List α}
    (h : ∀ a ∈ l, keep a = false → f a = none) : (l.filter keep).filterMap f = l.filterMap f := by
  rw [List.filterMap_filter]
  refine List.filterMap_congr fun a hmem => ?_
  cases hkeep : keep a with
  | true => rfl
  | false => exact (h a hmem hkeep).symm

/-- Where nothing is read in what is left out, the same is read in what is repeated. -/
theorem filterMap_echo {β : Type} {f : String × String → Option β}
    (hdropped : ∀ param ∈ params.entries, isEchoed param = false → f param = none)
    (htake : ∀ value, f (Params.take, value) = none) :
    (echo params query).filterMap f = params.entries.filterMap f := by
  rw [echo, List.filterMap_append, filterMap_filter_of_dropped hdropped]
  split
  · exact List.append_nil _
  · rw [List.filterMap_cons_none (htake _)]
    exact List.append_nil _

/-- No direction is left out: none is empty. -/
lemma orderOf?_of_dropped {param : String × String} (h : isEchoed param = false) :
    orderOf? param = none := by
  obtain ⟨name, value⟩ := param
  rcases isEchoed_eq_false_iff.mp h with rfl | hcursor | rfl
  · unfold orderOf?
    split
    · rfl
    · rfl
  · exact orderOf?_eq_none value (by rw [ofKey_cursor hcursor]; nofun)
  · exact orderOf?_eq_none value (by rw [ofKey_page]; nofun)

/-- The directions of a request are repeated. -/
lemma orderOf_echo (params : Params) (query : PageQuery) :
    orderOf (echo params query) = orderOf params.entries :=
  congrArg OrderedMap.ofList (filterMap_echo (fun _ _ => orderOf?_of_dropped)
    fun value => orderOf?_eq_none value (by rw [ofKey_take]; nofun))

/-- A cursor gives no direction. -/
lemma orderOf_echo_concat (hcursor : isCursor cursor = true) (value : String) :
    orderOf (echo params query ++ [(cursor, value)]) = orderOf params.entries := by
  have hnone : orderOf? (cursor, value) = none :=
    orderOf?_eq_none _ (by rw [ofKey_cursor hcursor]; nofun)
  rw [orderOf_concat, hnone, Option.elim_none, orderOf_echo]

/-- Links repeat only parameters that can be read if those of the request can be read. -/
lemma readable_echo {schema : Schema} (h : ∀ param ∈ params.entries, Readable schema param) :
    ∀ param ∈ echo params query, Readable schema param := by
  intro param hmem
  cases mem_or_eq_take_of_mem_echo hmem with
  | inl hmem => exact h param hmem
  | inr e => exact e ▸ ⟨_, Draft.add_of_no_directive ofKey_take _⟩

/-- A page size that is read without being named is in no parameter. -/
lemma take_absent {config : Config} {take : UInt32} (htake : readTake params config = .ok take)
    (hnames : namesTake params = false) : params.get? Params.take = none := by
  rw [namesTake] at hnames
  cases hget : params.get? Params.take with
  | none => rfl
  | some raw =>
    rw [hget] at hnames
    have hempty : raw = "" := by simpa using hnames
    rw [readTake, hget, hempty] at htake
    cases htake

/-- What a link repeats has each name once. -/
lemma nodup_echo {config : Config} {take : UInt32} (htake : readTake params config = .ok take) :
    (entryNames (echo params query)).Nodup := by
  have hkept : (entryNames (params.entries.filter isEchoed)).Nodup :=
    params.nodup.sublist (List.filter_sublist.map _)
  rw [echo]
  cases hnames : namesTake params with
  | true =>
    rw [if_pos rfl, List.append_nil]
    exact hkept
  | false =>
    have hnew := OrderedMap.not_mem_names_of_get?_eq_none (take_absent htake hnames)
    rw [if_neg Bool.false_ne_true]
    exact nodup_concat hkept (fun hmem => hnew ((List.filter_sublist.map _).subset hmem)) _

/-- No name is repeated twice for a request that passes the checks. -/
lemma nodup_echo_of_checkedQuery {config : Config} {overrides : Overrides} {schema : Schema}
    {q : PageQuery} (h : checkedQuery schema config params overrides = .ok q) :
    (entryNames (echo params query)).Nodup := by
  obtain ⟨-, -, _, hcompose, -⟩ := checkedQuery_eq_ok_iff.mp h
  obtain ⟨-, htake, -⟩ := compose_eq_ok_iff.mp hcompose
  exact nodup_echo htake

/-- A cursor is not among what a link repeats. -/
lemma not_mem_names_echo (hcursor : isCursor cursor = true) :
    cursor ∉ entryNames (echo params query) := by
  intro hmem
  obtain ⟨⟨name, value⟩, hentry, e⟩ := List.mem_map.mp hmem
  have hnot := (name_of_mem_echo hentry).2.1
  rw [show name = cursor from e, hcursor] at hnot
  cases hnot

/-- The page size that is repeated is the one that the request names, or else the one in use. -/
lemma take_mem_echo_cases (params : Params) (query : PageQuery) :
    (namesTake params = true ∧ ∃ raw, params.get? Params.take = some raw ∧
      (Params.take, raw) ∈ echo params query) ∨
    (namesTake params = false ∧ (Params.take, toString query.take) ∈ echo params query) := by
  cases hnames : namesTake params with
  | true =>
    rw [namesTake] at hnames
    cases hget : params.get? Params.take with
    | none =>
      rw [hget] at hnames
      cases hnames
    | some raw =>
      rw [hget] at hnames
      refine .inl ⟨rfl, raw, rfl, List.mem_append_left _ (List.mem_filter.mpr ⟨?_, ?_⟩)⟩
      · exact (params.mem_entries_iff _ _).mpr hget
      · rw [isEchoed, show decide (raw ≠ "") = true from hnames]
        rfl
  | false =>
    refine .inr ⟨rfl, List.mem_append_right _ ?_⟩
    rw [hnames, if_neg Bool.false_ne_true]
    exact List.mem_singleton_self _

/-- A request that repeats another one names the page size that the other one names, or the one in
use. -/
lemma get?_take_of_echo (hsub : echo params query ⊆ next.entries) :
    (namesTake params = true ∧ next.get? Params.take = params.get? Params.take) ∨
      (namesTake params = false ∧ next.get? Params.take = some (toString query.take)) := by
  obtain ⟨hnames, raw, hget, hmem⟩ | ⟨hnames, hmem⟩ := take_mem_echo_cases params query
  · exact .inl ⟨hnames, hget ▸ (next.mem_entries_iff _ _).mp (hsub hmem)⟩
  · exact .inr ⟨hnames, (next.mem_entries_iff _ _).mp (hsub hmem)⟩

/-- A request that repeats another one can read a page size, and it reads the one of the other request
if that is in use. -/
lemma readTake_of_echo {config : Config} {take : UInt32} (hconfig : config.validate = .ok ())
    (htake : readTake params config = .ok take) (hpos : query.take ≠ 0)
    (hsub : echo params query ⊆ next.entries) :
    ∃ size, readTake next config = .ok size ∧ (query.take = take → size = take) := by
  cases get?_take_of_echo hsub with
  | inl hsame => exact ⟨take, (readTake_congr config hsame.2).trans htake, fun _ => rfl⟩
  | inr hnamed =>
    refine ⟨_, readTake_of_text hpos hnamed.2, fun hsize => ?_⟩
    -- the size is the one by default, which the bound leaves alone
    rw [readTake, take_absent htake hnamed.1] at htake
    cases htake
    rw [hsize, Config.bounded_defaultTake hconfig]

end

/-! ## Later requests -/

namespace EchoOf

variable {params next : Params} {query : PageQuery} {cursor : String} {lastId : Int64}

/-- What a later request names, an earlier one repeats or it is the cursor. -/
lemma get?_cases (hnext : EchoOf params query cursor lastId next) {name value : String}
    (hget : next.get? name = some value) :
    (name, value) ∈ echo params query ∨ (name = cursor ∧ value = int64Text lastId) := by
  have hmem := (next.mem_entries_iff name value).mpr hget
  rw [show next.entries = _ from hnext, List.mem_append, List.mem_singleton, Prod.mk.injEq] at hmem
  exact hmem

/-- The request of a link asks for no page. -/
lemma readPage_eq (hcursor : isCursor cursor = true)
    (hnext : EchoOf params query cursor lastId next) : readPage next = .ok none := by
  refine readPage_of_absent ?_
  cases hget : next.get? Params.page with
  | none => rfl
  | some value =>
    cases hnext.get?_cases hget with
    | inl hmem => exact absurd rfl (name_of_mem_echo hmem).2.2
    | inr hlast => exact absurd hlast.1.symm (isCursor_cases hcursor).2

/-- The request of a link names its page size. -/
lemma namesTake_eq (hnext : EchoOf params query cursor lastId next) : namesTake next = true := by
  cases get?_take_of_echo hnext.subset with
  | inl hsame =>
    rw [namesTake, hsame.2]
    exact hsame.1
  | inr hsize =>
    rw [namesTake, hsize.2]
    exact decide_eq_true (toString_ne_empty query.take)

/-- A later request repeats what the first one repeats, whatever its query. -/
theorem echo_eq (hcursor : isCursor cursor = true)
    (hnext : EchoOf params query cursor lastId next) (q : PageQuery) :
    echo next q = echo params query := by
  have hkept : (echo params query).filter isEchoed = echo params query :=
    List.filter_eq_self.mpr fun _ => isEchoed_of_mem_echo
  have hdropped : isEchoed (cursor, int64Text lastId) = false := by
    simp only [isEchoed, hcursor, Bool.not_true, Bool.and_false, Bool.false_and]
  rw [echo, hnext.namesTake_eq, if_pos rfl, List.append_nil,
    show next.entries = _ from hnext, List.filter_append, hkept,
    List.filter_cons_of_neg (by simp [hdropped]), List.filter_nil, List.append_nil]

variable {config : Config} {overrides : Overrides} {schema : Schema}

/-- The link behind a record makes a later request. -/
lemma of_nextLink {path link : String} (haddress : Unmarked (listingAddress config path).toList)
    (hchecked : checkedQuery schema config params overrides = .ok query)
    (hcursor : isCursor cursor = true)
    (hlink : nextLink config path (echo params query) cursor lastId = .ok link) :
    EchoOf params query cursor lastId (paramsOfLink link) := by
  rw [EchoOf, paramsOfLink_nextLink hlink, addressParams_of_unmarked haddress]
  exact OrderedMap.entries_putAll _ .empty
    (nodup_concat (nodup_echo_of_checkedQuery hchecked) (not_mem_names_echo hcursor) _)

/-- A later request reads a page size that comes to the one in use. -/
lemma exists_readTake (hchecked : checkedQuery schema config params overrides = .ok query)
    (hpos : query.take ≠ 0) (hnext : EchoOf params query cursor lastId next) :
    ∃ take, readTake next config = .ok take ∧ overrides.take.getD take = query.take := by
  obtain ⟨hconfig, -, q, hcompose, hquery⟩ := checkedQuery_eq_ok_iff.mp hchecked
  obtain ⟨-, htake, -⟩ := compose_eq_ok_iff.mp hcompose
  have hsize : query.take = overrides.take.getD q.take := by rw [hquery, PageQuery.override]
  obtain ⟨size, hread, hsame⟩ := readTake_of_echo hconfig htake hpos hnext.subset
  refine ⟨size, hread, ?_⟩
  cases htakes : overrides.take with
  | some n =>
    rw [hsize, htakes]
    rfl
  | none =>
    rw [htakes, Option.getD_none] at hsize
    rw [Option.getD_none, hsame hsize, hsize]

/-- A later request is composed to the query of the first one, but for the filters: they are those that
are repeated, with the cursor for the number of the records. -/
theorem checkedQuery_eq (hid : schema.fieldType "id" = .ok .integer)
    (hchecked : checkedQuery schema config params overrides = .ok query) (hunpaged : query.page = none)
    (hpos : query.take ≠ 0) (hcursor : isCursor cursor = true)
    (hnext : EchoOf params query cursor lastId next) :
    checkedQuery schema config next overrides = .ok { query with
      filters := ((filtersOf schema (echo params query)).insert "id"
        (cursorPredicate cursor lastId)).insertAll overrides.filters } := by
  obtain ⟨take, htake, hsize⟩ := hnext.exists_readTake hchecked hpos
  obtain ⟨hconfig, hcheck, q, hcompose, rfl⟩ := checkedQuery_eq_ok_iff.mp hchecked
  obtain ⟨hreadable, -, horder, -⟩ := compose_iff_reading.mp hcompose
  have hunpaged : q.page = none := hunpaged
  have hrepeated : ∀ param ∈ echo params (q.override overrides), Readable schema param :=
    readable_echo hreadable
  have hechoed := foldlM_add_eq_ok_iff.mpr ⟨hrepeated, rfl⟩
  rw [orderOf_echo, ← horder] at hechoed
  -- the cursor is the last parameter, so its filter is set over the others
  have hfold : next.entries.foldlM (Draft.add schema) .empty =
      .ok ⟨(filtersOf schema (echo params (q.override overrides))).insert "id"
        (cursorPredicate cursor lastId), q.order⟩ := by
    rw [show next.entries = _ from hnext]
    exact foldlM_concat_eq_ok_iff.mpr
      ⟨_, hechoed, Draft.add_filter (ofKey_cursor hcursor) hid (build_cursor cursor lastId)⟩
  have hcomposed : compose next schema config =
      .ok ⟨none, take, none, (filtersOf schema (echo params (q.override overrides))).insert "id"
        (cursorPredicate cursor lastId), q.order⟩ :=
    compose_eq_ok_iff.mpr ⟨hfold, htake, hnext.readPage_eq hcursor, rfl⟩
  obtain ⟨-, -, -, hskips⟩ := compose_eq_ok_iff.mp hcompose
  obtain ⟨-, -, -, hskips'⟩ := compose_eq_ok_iff.mp hcomposed
  refine checkedQuery_eq_ok_iff.mpr ⟨hconfig, hcheck, _, hcomposed, ?_⟩
  rw [hskips'.override_unpaged rfl, hsize, hskips.override_unpaged hunpaged]

end EchoOf

namespace WalkRequest

variable {config : Config} {path : String} {overrides : Overrides} {schema : Schema}
variable {params next : Params} {query : PageQuery} {cursor : String} {lastId : Int64}

/-- The query of a request is composed from its parameters and put under the overrides. -/
lemma composed (h : WalkRequest config path overrides schema params query) :
    config.validate = .ok () ∧ overrides.check schema = .ok () ∧
      ∃ q, compose params schema config = .ok q ∧ query = q.override overrides :=
  checkedQuery_eq_ok_iff.mp h.checked

/-- The link behind a record leads to a later request. -/
lemma nextLink_of_echo (h : WalkRequest config path overrides schema params query)
    (hcursor : isCursor cursor = true) (lastId : Int64) :
    ∃ link, nextLink config path (echo params query) cursor lastId = .ok link ∧
      EchoOf params query cursor lastId (paramsOfLink link) := by
  have haddress := unmarked_listingAddress h.composed.1 h.hostUnmarked h.pathUnmarked
  obtain ⟨link, hlink⟩ := exists_nextLink h.address (echo params query) cursor lastId
  exact ⟨link, hlink, .of_nextLink haddress h.checked hcursor hlink⟩

/-- A later request is composed to the query of the first one, but for the filters. -/
theorem checkedQuery_of_echo (h : WalkRequest config path overrides schema params query)
    (hpos : query.take ≠ 0) (hcursor : isCursor cursor = true)
    (hnext : EchoOf params query cursor lastId next) :
    checkedQuery schema config next overrides = .ok { query with
      filters := ((filtersOf schema (echo params query)).insert "id"
        (cursorPredicate cursor lastId)).insertAll overrides.filters } :=
  hnext.checkedQuery_eq h.idType h.checked h.unpaged hpos hcursor

end WalkRequest

namespace WalkStart

variable {config : Config} {path : String} {overrides : Overrides} {schema : Schema}
variable {params next : Params} {query : PageQuery} {cursor : String} {lastId : Int64}

/-- The first request of a walk is one of its requests. -/
lemma request (h : WalkStart config path overrides schema params query) :
    WalkRequest config path overrides schema params query :=
  ⟨h.idType, h.checked, h.unpaged, h.hostUnmarked, h.pathUnmarked, h.address, h.idFree⟩

/-- The first page of a walk has room for records. -/
lemma take_ne_zero (h : WalkStart config path overrides schema params query) : query.take ≠ 0 := by
  obtain ⟨hconfig, -, q, hcompose, rfl⟩ := h.request.composed
  obtain ⟨-, htake, -⟩ := compose_eq_ok_iff.mp hcompose
  rw [PageQuery.override]
  cases htakes : overrides.take with
  | none => exact readTake_ne_zero hconfig htake
  | some n =>
    rintro rfl
    exact h.takes htakes

/-- A filter is left out of a link only if it is empty or on the number of the records. -/
lemma filtersOf_echo (h : WalkStart config path overrides schema params query) :
    filtersOf schema (echo params query) = filtersOf schema params.entries := by
  have hdropped : ∀ param ∈ params.entries, isEchoed param = false →
      filterOf? schema param = none := by
    rintro ⟨name, value⟩ hmem hdropped
    rcases isEchoed_eq_false_iff.mp hdropped with rfl | hcursor | rfl
    · exact filterOf?_eq_none _ (h.noEmpty _ hmem rfl)
    · exact absurd (ofKey_cursor hcursor) (h.noId _ hmem _)
    · exact filterOf?_eq_none _ (by rw [ofKey_page]; nofun)
  exact congrArg SortedMap.ofList (filterMap_echo hdropped
    fun value => filterOf?_eq_none value (by rw [ofKey_take]; nofun))

/-- A later request is composed to the query of the first one, with a filter on the number of the
records. -/
theorem checkedQuery_of_echo (h : WalkStart config path overrides schema params query)
    (hcursor : isCursor cursor = true) (hnext : EchoOf params query cursor lastId next) :
    ∃ filters : FilterSet, query.filters = filters.insertAll overrides.filters ∧
      filters.get? "id" = none ∧
      checkedQuery schema config next overrides = .ok { query with
        filters := (filters.insert "id" (cursorPredicate cursor lastId)).insertAll
          overrides.filters } := by
  have hchecked := h.request.checkedQuery_of_echo h.take_ne_zero hcursor hnext
  obtain ⟨-, -, q, hcompose, hquery⟩ := h.request.composed
  obtain ⟨hdraft, -, -⟩ := compose_eq_ok_iff.mp hcompose
  obtain ⟨-, hfilters, -⟩ := compose_iff_reading.mp hcompose
  refine ⟨q.filters, by rw [hquery, PageQuery.override], get?_filters_eq_none hdraft h.noId, ?_⟩
  rw [hchecked, h.filtersOf_echo, ← hfilters]

end WalkStart

end PagedListing

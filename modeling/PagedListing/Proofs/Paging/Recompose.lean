import PagedListing.Proofs.Paging.Echo

/-!
# What links repeat, composed again

The parameters that a link repeats are composed to what the request asks for without its cursors: no
page number, the same page size and the same ordering. The filters are the same but on a field whose
last filter has an empty value (`LosesFilter`), since empty values are not repeated (`compose_echo`).
-/

namespace PagedListing
open PagedListing.Steps

/-- The parameters of a request but for its cursors. -/
def withoutCursors (params : Params) : Params :=
  ⟨params.entries.filter fun param => !isCursor param.1,
    params.nodup.sublist (List.filter_sublist.map _)⟩

/-- Whether the last filter on a field has an empty value. -/
def LosesFilter (params : Params) (field : String) : Prop :=
  ∃ param, lastFilter? field (withoutCursors params).entries = some param ∧ param.2 = ""

variable {params : Params} {schema : Schema} {config : Config} {query : PageQuery}

/-- Without the cursors the other parameters are looked up as before. -/
lemma get?_withoutCursors {name : String} (h : isCursor name = false) :
    (withoutCursors params).get? name = params.get? name := by
  refine Option.ext fun value => ?_
  rw [← OrderedMap.mem_entries_iff, ← OrderedMap.mem_entries_iff]
  show (name, value) ∈ params.entries.filter _ ↔ _
  rw [List.mem_filter, h]
  exact and_iff_left rfl

/-- The cursors are no directions. -/
lemma orderOf_withoutCursors (params : Params) :
    orderOf (withoutCursors params).entries = orderOf params.entries := by
  refine congrArg OrderedMap.ofList (filterMap_filter_of_dropped fun param _ hcursor => ?_)
  have hcursor : isCursor param.1 = true := by simpa using hcursor
  exact orderOf?_eq_none param.2 (by rw [ofKey_cursor hcursor]; nofun)

/-- Without its cursors a request is composed to the same query, but for the filters. -/
lemma compose_withoutCursors (hcompose : compose params schema config = .ok query) :
    compose (withoutCursors params) schema config =
      .ok { query with filters := filtersOf schema (withoutCursors params).entries } := by
  obtain ⟨hreadable, -, horder, htake, hpage⟩ := compose_iff_reading.mp hcompose
  refine compose_iff_reading.mpr ⟨?_, rfl, ?_, ?_, ?_⟩
  · exact fun param hmem => hreadable param (List.mem_filter.mp hmem).1
  · exact horder.trans (orderOf_withoutCursors params).symm
  · exact (readTake_congr config (get?_withoutCursors (by decide))).trans htake
  · rw [readPage, get?_withoutCursors (by decide)]
    exact hpage

/-- What a link repeats is composed to the same query, but for the page number and the filters. -/
lemma compose_ofList_echo (hconfig : config.validate = .ok ())
    (hcompose : compose params schema config = .ok query) :
    compose (.ofList (echo params query)) schema config =
      .ok { query with
        page := none
        skip := none
        filters := filtersOf schema (echo params query) } := by
  obtain ⟨hreadable, -, horder, htake, -⟩ := compose_iff_reading.mp hcompose
  -- no name is repeated twice, so nothing is lost in the map
  have hentries : (OrderedMap.ofList (echo params query)).entries = echo params query :=
    OrderedMap.entries_ofList (nodup_echo htake)
  have hsub : echo params query ⊆ (OrderedMap.ofList (echo params query)).entries := by
    rw [hentries]
    exact List.Subset.refl _
  obtain ⟨size, hread, hsize⟩ :=
    readTake_of_echo hconfig htake (readTake_ne_zero hconfig htake) hsub
  refine compose_iff_reading.mpr ⟨?_, ?_, ?_, ?_, ?_, rfl⟩
  · rw [hentries]
    exact readable_echo hreadable
  · rw [hentries]
  · rw [hentries, orderOf_echo]
    exact horder
  · rw [hread, hsize rfl]
  · refine readPage_of_absent ?_
    cases hget : (OrderedMap.ofList (echo params query)).get? Params.page with
    | none => rfl
    | some value =>
      have hmem := (OrderedMap.mem_entries_iff _ _ _).mpr hget
      exact absurd rfl (name_of_mem_echo (hentries ▸ hmem)).2.2

/-- Of the filters on a field those with a value are repeated. -/
lemma filter_filtersBy_echo (params : Params) (query : PageQuery) (field : String) :
    (echo params query).filter (filtersBy field) =
      ((withoutCursors params).entries.filter (filtersBy field)).filter (·.2 ≠ "") := by
  -- the page number and the page size are no filters
  have hno : ∀ {name} value, Directive.ofKey name = .ok none →
      filtersBy field (name, value) = false := by
    intro name value hkey
    simp only [filtersBy, hkey]
  have hkept : (params.entries.filter isEchoed).filter (filtersBy field) =
      ((withoutCursors params).entries.filter (filtersBy field)).filter (·.2 ≠ "") := by
    show _ = ((params.entries.filter _).filter _).filter _
    rw [List.filter_filter, List.filter_filter, List.filter_filter]
    refine List.filter_congr fun param _ => ?_
    obtain ⟨name, value⟩ := param
    by_cases hpage : name = Params.page
    · rw [hpage, hno value ofKey_page]
      simp only [Bool.false_and, Bool.and_false]
    · simp only [isEchoed, hpage, ne_eq, not_false_eq_true, decide_true, Bool.and_true]
      rw [Bool.and_comm, Bool.and_assoc, Bool.and_comm (!isCursor name),
        ← Bool.and_assoc]
  rw [echo, List.filter_append, hkept]
  split
  · exact List.append_nil _
  · rw [List.filter_cons_of_neg (by simp [hno _ ofKey_take])]
    exact List.append_nil _

/-- A link keeps the predicate on a field unless the last filter on it has an empty value. -/
theorem get?_filtersOf_echo_iff (hreadable : ∀ param ∈ params.entries, Readable schema param)
    (field : String) :
    (filtersOf schema (echo params query)).get? field =
        (filtersOf schema (withoutCursors params).entries).get? field ↔
      ¬ LosesFilter params field := by
  have hasked : ∀ param ∈ (withoutCursors params).entries, Readable schema param :=
    fun param hmem => hreadable param (List.mem_filter.mp hmem).1
  -- both sides look for the last filter, the left one among those with a value
  rw [get?_filtersOf (readable_echo hreadable), get?_filtersOf hasked, LosesFilter, lastFilter?,
    lastFilter?, filter_filtersBy_echo]
  have hby : ∀ param ∈ (withoutCursors params).entries.filter (filtersBy field),
      ∃ predicate, filterOf? schema param = some (field, predicate) ∧
        predicate.asksEmpty = decide (param.2 = "") := by
    intro param hmem
    obtain ⟨hentry, hby⟩ := List.mem_filter.mp hmem
    exact exists_filterOf?_of_filtersBy (hasked param hentry) hby
  generalize (withoutCursors params).entries.filter (filtersBy field) = filters at hby
  cases hlast : filters.getLast? with
  | none =>
    rw [List.getLast?_eq_none_iff.mp hlast]
    refine ⟨fun _ => ?_, fun _ => rfl⟩
    rintro ⟨param, e, -⟩
    cases e
  | some last =>
    obtain ⟨before, rfl⟩ := List.getLast?_eq_some_iff.mp hlast
    obtain ⟨predicate, hfilter, hasks⟩ :=
      hby last (List.mem_append_right _ (List.mem_singleton_self last))
    by_cases hempty : last.2 = ""
    · -- the filter that is found instead of the last one has a value
      refine ⟨fun e => ?_, fun hnot => absurd ⟨last, rfl, hempty⟩ hnot⟩
      rw [Option.bind_some, hfilter, Option.map_some] at e
      obtain ⟨other, hother, e⟩ := Option.bind_eq_some_iff.mp e
      obtain ⟨hmem, hne⟩ := List.mem_filter.mp (List.mem_of_getLast? hother)
      obtain ⟨predicate', hfilter', hasks'⟩ := hby other hmem
      rw [hfilter', Option.map_some] at e
      cases e
      rw [hasks, decide_eq_true hempty] at hasks'
      exact absurd (of_decide_eq_true hasks'.symm) (of_decide_eq_true hne)
    · rw [List.filter_append, List.filter_cons_of_pos (by simpa using hempty), List.filter_nil,
        List.getLast?_concat]
      refine ⟨fun _ => ?_, fun _ => rfl⟩
      rintro ⟨param, e, hblank⟩
      cases e
      exact hempty hblank

/-- What a link repeats is composed to what the request asks for without its cursors: no page number,
the same page size, the same ordering, and the same predicate on every field whose last filter has a
value. On a field whose last filter has an empty value the predicates differ. -/
theorem compose_echo (hconfig : config.validate = .ok ())
    (hcompose : compose params schema config = .ok query) (hpage : query.page = none) :
    ∃ asked echoed,
      compose (withoutCursors params) schema config = .ok asked ∧
      compose (.ofList (echo params query)) schema config = .ok echoed ∧
      asked.page = none ∧ echoed.page = none ∧
      echoed.take = asked.take ∧ echoed.order = asked.order ∧
      (∀ field, echoed.filters.get? field = asked.filters.get? field ↔ ¬ LosesFilter params field) ∧
      (echoed.filters = asked.filters ↔ ∀ field, ¬ LosesFilter params field) := by
  obtain ⟨hreadable, -⟩ := compose_iff_reading.mp hcompose
  have hfield : ∀ field, (filtersOf schema (echo params query)).get? field =
      (filtersOf schema (withoutCursors params).entries).get? field ↔ ¬ LosesFilter params field :=
    get?_filtersOf_echo_iff hreadable
  refine ⟨_, _, compose_withoutCursors hcompose, compose_ofList_echo hconfig hcompose, hpage, rfl,
    rfl, rfl, hfield, ?_⟩
  constructor
  · intro e field
    exact (hfield field).mp (congrArg (·.get? field) e)
  · intro h
    exact SortedMap.eq_of_get? fun field => (hfield field).mpr (h field)

/-- Notes with titles. -/
def titled : Schema :=
  ⟨"note", [⟨"id", .integer⟩, ⟨"title", .text⟩]⟩

/-- The parameters that ask for notes with a title, behind a cursor. -/
def titledParams (title : String) : Params :=
  .ofList [("where__title", title), ("order__id", "asc"), (cursorAfter, "3")]

/-- The query for notes with a title, behind a cursor. -/
def titledQuery (title : String) : PageQuery :=
  ⟨none, 20, none, .ofList [("title", .compare .equal (.text title)),
    ("id", .compare .more (.integer 3))], .ofList [("id", .ascending)]⟩

/-- A title is asked for again. -/
theorem compose_echo_title :
    ∃ asked echoed, compose (withoutCursors (titledParams "a")) titled {} = .ok asked ∧
      compose (.ofList (echo (titledParams "a") (titledQuery "a"))) titled {} = .ok echoed ∧
      echoed.take = asked.take ∧ echoed.order = asked.order ∧ echoed.filters = asked.filters := by
  have hcompose : compose (titledParams "a") titled {} = .ok (titledQuery "a") := rfl
  obtain ⟨asked, echoed, hasked, hechoed, -, -, htake, horder, -, hfilters⟩ :=
    compose_echo Config.validate_default hcompose rfl
  refine ⟨asked, echoed, hasked, hechoed, htake, horder, hfilters.mpr ?_⟩
  rintro field ⟨param, hlast, hempty⟩
  have hvalues : ∀ param ∈ (withoutCursors (titledParams "a")).entries, param.2 ≠ "" := by decide
  exact hvalues param (List.mem_filter.mp (List.mem_of_getLast? hlast)).1 hempty

/-- The empty title is not asked for again. -/
theorem compose_echo_noTitle :
    Config.validate {} = .ok () ∧ compose (titledParams "") titled {} = .ok (titledQuery "") ∧
    ∃ asked echoed, compose (withoutCursors (titledParams "")) titled {} = .ok asked ∧
      compose (.ofList (echo (titledParams "") (titledQuery ""))) titled {} = .ok echoed ∧
      asked.filters.get? "title" = some (.compare .equal (.text "")) ∧
      echoed.filters.get? "title" = none :=
  ⟨Config.validate_default, rfl, _, _, rfl, rfl, rfl, rfl⟩

end PagedListing

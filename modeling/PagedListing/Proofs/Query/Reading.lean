import Mathlib.Data.List.Induction
import PagedListing.Proofs.Filter.Operator
import PagedListing.Proofs.Query.Compose

/-!
# Queries read off their parameters

Each parameter can be read by itself: as a filter (`filterOf?`), as a direction (`orderOf?`) or as
neither. A request is composed when all its parameters can be read, and its query is made of the filters
and the directions among them (`compose_iff_reading`). So parameters can be left out, and of the filters
on one field only the last one matters (`get?_filtersOf`).
-/

namespace PagedListing
open PagedListing.Steps

/-- The filter that a parameter sets, if it is one that can be built. -/
def filterOf? (schema : Schema) (param : String × String) : Option (String × Predicate) :=
  match Directive.ofKey param.1 with
  | .ok (some (.filter field operator)) =>
    match schema.fieldType field with
    | .ok type =>
      ((operator.getD (.compare .equal)).build field type param.2).toOption.map fun p => (field, p)
    | .error _ => none
  | _ => none

/-- The direction that a parameter sets, if it is one that can be read. -/
def orderOf? (param : String × String) : Option (String × Direction) :=
  match Directive.ofKey param.1 with
  | .ok (some (.order field)) => (Direction.read field param.2).toOption.map fun d => (field, d)
  | _ => none

/-- A parameter that a request may have. -/
def Readable (schema : Schema) (param : String × String) : Prop :=
  ∃ draft, Draft.empty.add schema param = .ok draft

/-- The filters that some parameters set. -/
def filtersOf (schema : Schema) (params : List (String × String)) : FilterSet :=
  .ofList (params.filterMap (filterOf? schema))

/-- The ordering that some parameters set. -/
def orderOf (params : List (String × String)) : OrderSpec :=
  .ofList (params.filterMap orderOf?)

/-- The last of some parameters puts its filter over the others. -/
lemma filtersOf_concat (schema : Schema) (params : List (String × String)) (param : String × String) :
    filtersOf schema (params ++ [param]) =
      (filterOf? schema param).elim (filtersOf schema params)
        fun entry => (filtersOf schema params).insert entry.1 entry.2 := by
  rw [filtersOf, List.filterMap_append]
  cases hparam : filterOf? schema param with
  | none =>
    rw [List.filterMap_cons_none hparam, List.filterMap_nil, List.append_nil]
    rfl
  | some entry =>
    rw [List.filterMap_cons_some hparam, List.filterMap_nil, SortedMap.ofList, List.foldl_append]
    rfl

/-- The last of some parameters puts its direction over the others. -/
lemma orderOf_concat (params : List (String × String)) (param : String × String) :
    orderOf (params ++ [param]) =
      (orderOf? param).elim (orderOf params)
        fun entry => (orderOf params).insert entry.1 entry.2 := by
  rw [orderOf, List.filterMap_append]
  cases hparam : orderOf? param with
  | none =>
    rw [List.filterMap_cons_none hparam, List.filterMap_nil, List.append_nil]
    rfl
  | some entry =>
    rw [List.filterMap_cons_some hparam, List.filterMap_nil, OrderedMap.ofList, List.foldl_append]
    rfl

/-! ## Single parameters -/

/-- A parameter that filters has an entry for its field if the predicate can be built. -/
lemma filterOf?_eq_some {schema : Schema} {name value field : String} {operator : Option Operator}
    {type : FieldType} {predicate : Predicate}
    (hkey : Directive.ofKey name = .ok (some (.filter field operator)))
    (htype : schema.fieldType field = .ok type)
    (hbuild : (operator.getD (.compare .equal)).build field type value = .ok predicate) :
    filterOf? schema (name, value) = some (field, predicate) := by
  simp only [filterOf?, hkey, htype, hbuild, Except.toOption, Option.map_some]

/-- A parameter that orders has an entry for its field if the direction can be read. -/
lemma orderOf?_eq_some {name value field : String} {direction : Direction}
    (hkey : Directive.ofKey name = .ok (some (.order field)))
    (hread : Direction.read field value = .ok direction) :
    orderOf? (name, value) = some (field, direction) := by
  simp only [orderOf?, hkey, hread, Except.toOption, Option.map_some]

/-- A parameter that does not filter has no entry for a filter. -/
lemma filterOf?_eq_none {schema : Schema} {name : String} (value : String)
    (h : ∀ field operator, Directive.ofKey name ≠ .ok (some (.filter field operator))) :
    filterOf? schema (name, value) = none := by
  unfold filterOf?
  split
  · rename_i field operator hkey
    exact absurd hkey (h field operator)
  · rfl

/-- A parameter that does not order has no entry for an ordering. -/
lemma orderOf?_eq_none {name : String} (value : String)
    (h : ∀ field, Directive.ofKey name ≠ .ok (some (.order field))) :
    orderOf? (name, value) = none := by
  unfold orderOf?
  split
  · rename_i field hkey
    exact absurd hkey (h field)
  · rfl

/-- A parameter does to a draft what it is read as. -/
lemma Draft.add_eq_ok_iff {schema : Schema} {draft draft' : Draft} {param : String × String} :
    draft.add schema param = .ok draft' ↔
      Readable schema param ∧
      draft' = ⟨(filterOf? schema param).elim draft.filters
          fun entry => draft.filters.insert entry.1 entry.2,
        (orderOf? param).elim draft.order fun entry => draft.order.insert entry.1 entry.2⟩ := by
  obtain ⟨name, value⟩ := param
  -- whether a parameter can be read does not depend on the draft
  have hreads : ∀ {d d' : Draft}, d.add schema (name, value) = .ok d' →
      ∀ e : Draft, e.add schema (name, value) =
        .ok ⟨(filterOf? schema (name, value)).elim e.filters
            fun entry => e.filters.insert entry.1 entry.2,
          (orderOf? (name, value)).elim e.order fun entry => e.order.insert entry.1 entry.2⟩ := by
    intro d d' h e
    obtain ⟨hkey, -⟩ | ⟨field, operator, type, predicate, hkey, htype, hbuild, -⟩ |
      ⟨field, type, direction, hkey, htype, hread, -⟩ := Draft.add_cases h
    · rw [filterOf?_eq_none value (by rw [hkey]; nofun), orderOf?_eq_none value (by rw [hkey]; nofun)]
      exact Draft.add_of_no_directive hkey value
    · rw [filterOf?_eq_some hkey htype hbuild, orderOf?_eq_none value (by rw [hkey]; nofun)]
      exact Draft.add_filter hkey htype hbuild
    · rw [filterOf?_eq_none value (by rw [hkey]; nofun), orderOf?_eq_some hkey hread]
      exact Draft.add_order hkey htype hread
  constructor
  · intro h
    exact ⟨⟨_, hreads h .empty⟩, Except.ok.inj (h.symm.trans (hreads h draft))⟩
  · rintro ⟨⟨d', h⟩, rfl⟩
    exact hreads h draft

/-! ## Whole requests -/

/-- Parameters are read when each of them can be, and they give their filters and directions. -/
theorem foldlM_add_eq_ok_iff {schema : Schema} {params : List (String × String)} {draft : Draft} :
    params.foldlM (Draft.add schema) .empty = .ok draft ↔
      (∀ param ∈ params, Readable schema param) ∧
      draft = ⟨filtersOf schema params, orderOf params⟩ := by
  -- from the end, where the last write stands
  induction params using List.reverseRecOn generalizing draft with
  | nil =>
    constructor
    · intro h
      cases h
      exact ⟨nofun, rfl⟩
    · rintro ⟨-, rfl⟩
      rfl
  | append_singleton params param ih =>
    rw [foldlM_concat_eq_ok_iff, filtersOf_concat, orderOf_concat]
    constructor
    · rintro ⟨before, hbefore, hlast⟩
      obtain ⟨hreadable, rfl⟩ := ih.mp hbefore
      obtain ⟨hparam, rfl⟩ := Draft.add_eq_ok_iff.mp hlast
      refine ⟨fun other hother => ?_, rfl⟩
      cases List.mem_append.mp hother with
      | inl hmem => exact hreadable other hmem
      | inr hmem => exact List.mem_singleton.mp hmem ▸ hparam
    · rintro ⟨hreadable, rfl⟩
      refine ⟨_, ih.mpr ⟨fun other hother => ?_, rfl⟩, Draft.add_eq_ok_iff.mpr ⟨?_, rfl⟩⟩
      · exact hreadable other (List.mem_append_left _ hother)
      · exact hreadable param (List.mem_append_right _ (List.mem_singleton_self param))

/-- A request is composed when its parameters, its page size and its page number can be read. -/
theorem compose_iff_reading {params : Params} {schema : Schema} {config : Config}
    {query : PageQuery} :
    compose params schema config = .ok query ↔
      (∀ param ∈ params.entries, Readable schema param) ∧
      query.filters = filtersOf schema params.entries ∧ query.order = orderOf params.entries ∧
      readTake params config = .ok query.take ∧ readPage params = .ok query.page ∧
      query.SkipsPages := by
  rw [compose_eq_ok_iff, foldlM_add_eq_ok_iff, Draft.mk.injEq, and_assoc, and_assoc]

/-! ## The last filter on a field -/

/-- Whether a parameter filters by a field. -/
def filtersBy (field : String) (param : String × String) : Bool :=
  match Directive.ofKey param.1 with
  | .ok (some (.filter other _)) => other = field
  | _ => false

/-- The last one of some parameters that filters by a field. -/
def lastFilter? (field : String) (params : List (String × String)) : Option (String × String) :=
  (params.filter (filtersBy field)).getLast?

/-- A parameter filters a field if its name is a directive to do so. -/
lemma filtersBy_eq_true_iff {field : String} {param : String × String} :
    filtersBy field param = true ↔
      ∃ operator, Directive.ofKey param.1 = .ok (some (.filter field operator)) := by
  unfold filtersBy
  split
  · rename_i other operator hkey
    rw [decide_eq_true_eq, hkey]
    constructor
    · rintro rfl
      exact ⟨operator, rfl⟩
    · rintro ⟨_, e⟩
      cases e
      rfl
  · rename_i hkey
    refine ⟨nofun, ?_⟩
    rintro ⟨operator, e⟩
    exact absurd e (hkey field operator)

/-- A filter that can be read is set on its own field, and it asks for the empty text exactly if its
value is empty. -/
lemma exists_filterOf?_of_filtersBy {schema : Schema} {field : String} {param : String × String}
    (hreadable : Readable schema param) (h : filtersBy field param = true) :
    ∃ predicate, filterOf? schema param = some (field, predicate) ∧
      predicate.asksEmpty = decide (param.2 = "") := by
  obtain ⟨name, value⟩ := param
  obtain ⟨operator, hkey⟩ := filtersBy_eq_true_iff.mp h
  obtain ⟨draft, hadd⟩ := hreadable
  obtain ⟨hother, -⟩ | ⟨other, operator', type, predicate, hother, htype, hbuild, -⟩ |
    ⟨other, type, direction, hother, -⟩ := Draft.add_cases hadd
  · rw [hkey] at hother
    cases hother
  · rw [hkey] at hother
    cases hother
    exact ⟨predicate, filterOf?_eq_some hkey htype hbuild, Predicate.asksEmpty_of_build hbuild⟩
  · rw [hkey] at hother
    cases hother

/-- A parameter with an entry for a filter filters its field. -/
lemma filtersBy_of_filterOf? {schema : Schema} {field : String} {param : String × String}
    {predicate : Predicate} (h : filterOf? schema param = some (field, predicate)) :
    filtersBy field param = true := by
  unfold filterOf? at h
  split at h
  · rename_i other operator hkey
    split at h
    · obtain ⟨_, -, e⟩ := Option.map_eq_some_iff.mp h
      cases e
      exact filtersBy_eq_true_iff.mpr ⟨operator, hkey⟩
    · cases h
  · cases h

/-- The last filter on a field is the last parameter if that is on the field. -/
lemma lastFilter?_concat (field : String) (params : List (String × String))
    (param : String × String) :
    lastFilter? field (params ++ [param]) =
      if filtersBy field param then some param else lastFilter? field params := by
  rw [lastFilter?, List.filter_append]
  cases hby : filtersBy field param with
  | true => rw [List.filter_cons_of_pos hby, List.filter_nil, List.getLast?_concat, if_pos rfl]
  | false =>
    rw [List.filter_cons_of_neg (by simp [hby]), List.filter_nil, List.append_nil,
      if_neg Bool.false_ne_true]
    rfl

/-- The predicate on a field is the one of the last filter on it. -/
theorem get?_filtersOf {schema : Schema} {params : List (String × String)}
    (hreadable : ∀ param ∈ params, Readable schema param) (field : String) :
    (filtersOf schema params).get? field =
      (lastFilter? field params).bind fun param => (filterOf? schema param).map (·.2) := by
  induction params using List.reverseRecOn with
  | nil => rfl
  | append_singleton params param ih =>
    have ih := ih fun other hother => hreadable other (List.mem_append_left _ hother)
    have hparam := hreadable param (List.mem_append_right _ (List.mem_singleton_self param))
    rw [filtersOf_concat, lastFilter?_concat]
    cases hby : filtersBy field param with
    | true =>
      obtain ⟨predicate, hfilter, -⟩ := exists_filterOf?_of_filtersBy hparam hby
      rw [hfilter, Option.elim_some, SortedMap.get?_insert, if_pos rfl, if_pos rfl, Option.bind_some,
        hfilter, Option.map_some]
    | false =>
      rw [if_neg Bool.false_ne_true, ← ih]
      cases hfilter : filterOf? schema param with
      | none => rfl
      | some entry =>
        -- a filter on another field leaves the predicate on this one alone
        have hne : field ≠ entry.1 := by
          rintro rfl
          rw [filtersBy_of_filterOf? hfilter] at hby
          cases hby
        rw [Option.elim_some, SortedMap.get?_insert, if_neg hne]

end PagedListing

import PagedListing.Paging.Echo
import PagedListing.Proofs.Config
import PagedListing.Proofs.Maps
import PagedListing.Proofs.Number.Decimal
import PagedListing.Proofs.Steps
import PagedListing.Query.Compose

/-!
# What composing reads

`Draft.add_cases` says all that one parameter can do to a draft: nothing, one filter set, or one
direction set. `compose_eq_ok_iff` splits a composed query into the fold over the parameters and the
readings of the page size and of the page number. The rest is derived from these two.
-/

namespace PagedListing
open PagedListing.Steps
open PagedListing.Number (readUInt32? readUInt32?_toString trim_toString_uint32)

/-- What one parameter can do to a draft. -/
lemma Draft.add_cases {schema : Schema} {draft draft' : Draft} {name value : String}
    (h : draft.add schema (name, value) = .ok draft') :
    (Directive.ofKey name = .ok none ∧ draft' = draft) ∨
    (∃ field operator type predicate,
      Directive.ofKey name = .ok (some (.filter field operator)) ∧
      schema.fieldType field = .ok type ∧
      (operator.getD (.compare .equal)).build field type value = .ok predicate ∧
      draft' = { draft with filters := draft.filters.insert field predicate }) ∨
    (∃ field type direction,
      Directive.ofKey name = .ok (some (.order field)) ∧
      schema.fieldType field = .ok type ∧
      Direction.read field value = .ok direction ∧
      draft' = { draft with order := draft.order.insert field direction }) := by
  obtain ⟨directive, hkey, h⟩ := bind_eq_ok_iff.mp h
  cases directive with
  | none =>
    cases h
    exact .inl ⟨hkey, rfl⟩
  | some directive =>
    obtain ⟨type, htype, h⟩ := bind_eq_ok_iff.mp h
    cases directive with
    | filter field operator =>
      obtain ⟨predicate, hbuild, h⟩ := bind_eq_ok_iff.mp h
      cases h
      exact .inr (.inl ⟨field, operator, type, predicate, hkey, htype, hbuild, rfl⟩)
    | order field =>
      obtain ⟨direction, hread, h⟩ := bind_eq_ok_iff.mp h
      cases h
      exact .inr (.inr ⟨field, type, direction, hkey, htype, hread, rfl⟩)

/-- A parameter whose name is no directive leaves a draft as it is. -/
lemma Draft.add_of_no_directive {schema : Schema} {draft : Draft} {name : String}
    (h : Directive.ofKey name = .ok none) (value : String) :
    draft.add schema (name, value) = .ok draft :=
  bind_eq_ok_iff.mpr ⟨none, h, rfl⟩

/-- A filter that can be built is put under its field. -/
lemma Draft.add_filter {schema : Schema} {draft : Draft} {name value field : String}
    {operator : Option Operator} {type : FieldType} {predicate : Predicate}
    (hkey : Directive.ofKey name = .ok (some (.filter field operator)))
    (htype : schema.fieldType field = .ok type)
    (hbuild : (operator.getD (.compare .equal)).build field type value = .ok predicate) :
    draft.add schema (name, value) =
      .ok { draft with filters := draft.filters.insert field predicate } :=
  bind_eq_ok_iff.mpr ⟨_, hkey, bind_eq_ok_iff.mpr ⟨type, htype,
    bind_eq_ok_iff.mpr ⟨predicate, hbuild, rfl⟩⟩⟩

/-- A direction that can be read is put under its field. -/
lemma Draft.add_order {schema : Schema} {draft : Draft} {name value field : String}
    {type : FieldType} {direction : Direction}
    (hkey : Directive.ofKey name = .ok (some (.order field)))
    (htype : schema.fieldType field = .ok type)
    (hread : Direction.read field value = .ok direction) :
    draft.add schema (name, value) =
      .ok { draft with order := draft.order.insert field direction } :=
  bind_eq_ok_iff.mpr ⟨_, hkey, bind_eq_ok_iff.mpr ⟨type, htype,
    bind_eq_ok_iff.mpr ⟨direction, hread, rfl⟩⟩⟩

/-- A query passes over the records on the pages before its page, if it has a page number. -/
def PageQuery.SkipsPages (q : PageQuery) : Prop :=
  q.skip = q.page.map (skipBefore · q.take)

/-- Without a page number nothing is passed over. -/
lemma PageQuery.SkipsPages.skip_eq_none {q : PageQuery} (h : q.SkipsPages) (hpage : q.page = none) :
    q.skip = none := by
  rw [h, hpage, Option.map_none]

/-- Overrides count the records to pass over anew for another page size, and only then. -/
lemma PageQuery.SkipsPages.override {q : PageQuery} (h : q.SkipsPages) (o : Overrides) :
    (q.override o).SkipsPages := by
  obtain ⟨filters, order, take⟩ := o
  cases take with
  | none => exact h
  | some take => rfl

/-- A query without a page number passes over nothing under overrides either. -/
lemma PageQuery.SkipsPages.override_unpaged {q : PageQuery} (h : q.SkipsPages)
    (hpage : q.page = none) (o : Overrides) :
    q.override o = ⟨none, o.take.getD q.take, none, q.filters.insertAll o.filters,
      o.order.getD q.order⟩ := by
  have hskip := (h.override o).skip_eq_none hpage
  rw [← hskip, ← hpage]
  rfl

/-- A query is composed of a draft, a page size and a page number, which tell what it passes over. -/
theorem compose_eq_ok_iff {params : Params} {schema : Schema} {config : Config} {query : PageQuery} :
    compose params schema config = .ok query ↔
      params.entries.foldlM (Draft.add schema) .empty = .ok ⟨query.filters, query.order⟩ ∧
      readTake params config = .ok query.take ∧ readPage params = .ok query.page ∧
      query.SkipsPages := by
  constructor
  · intro h
    obtain ⟨draft, hdraft, h⟩ := bind_eq_ok_iff.mp h
    obtain ⟨take, htake, h⟩ := bind_eq_ok_iff.mp h
    obtain ⟨page, hpage, h⟩ := bind_eq_ok_iff.mp h
    cases h
    exact ⟨hdraft, htake, hpage, rfl⟩
  · obtain ⟨page, take, skip, filters, order⟩ := query
    rintro ⟨hdraft, htake, hpage, hskip⟩
    dsimp only [PageQuery.SkipsPages] at hskip
    subst hskip
    exact bind_eq_ok_iff.mpr ⟨_, hdraft, bind_eq_ok_iff.mpr ⟨_, htake,
      bind_eq_ok_iff.mpr ⟨_, hpage, rfl⟩⟩⟩

/-- A field that no parameter filters has no filter. -/
lemma get?_filters_eq_none {schema : Schema} {entries : List (String × String)} {draft : Draft}
    {field : String} (hfold : entries.foldlM (Draft.add schema) .empty = .ok draft)
    (h : ∀ entry ∈ entries, ∀ operator,
      Directive.ofKey entry.1 ≠ .ok (some (.filter field operator))) :
    draft.filters.get? field = none := by
  have hstep : ∀ entry ∈ entries, ∀ s s', Draft.add schema s entry = .ok s' →
      s.filters.get? field = none → s'.filters.get? field = none := by
    intro entry hmem s s' hstep hnone
    obtain ⟨-, rfl⟩ | ⟨other, operator, type, predicate, hkey, -, -, rfl⟩ |
      ⟨other, type, direction, -, -, -, rfl⟩ := Draft.add_cases hstep
    · exact hnone
    · have hne : field ≠ other := by
        rintro rfl
        exact h entry hmem operator hkey
      rw [SortedMap.get?_insert, if_neg hne]
      exact hnone
    · exact hnone
  have hkept := foldlM_preserves
    (fun s s' : Draft => s.filters.get? field = none → s'.filters.get? field = none)
    (fun _ hnone => hnone) (fun hfirst hnext hnone => hnext (hfirst hnone)) hstep hfold
  exact hkept (SortedMap.get?_empty field)

/-! ## Names that are no directives, and the cursors -/

/-- The page number is no directive. -/
lemma ofKey_page : Directive.ofKey Params.page = .ok none := rfl

/-- The page size is no directive. -/
lemma ofKey_take : Directive.ofKey Params.take = .ok none := rfl

/-- The relation of a cursor to the last record. -/
def cursorRelation (cursor : String) : Relation :=
  if cursor = cursorAfter then .more else .less

/-- A cursor is a filter on the number of the records. -/
lemma ofKey_cursor {cursor : String} (h : isCursor cursor = true) :
    Directive.ofKey cursor = .ok (some (.filter "id" (some (.compare (cursorRelation cursor))))) := by
  have hcases : cursor = cursorAfter ∨ cursor = cursorBefore := by simpa [isCursor] using h
  rcases hcases with rfl | rfl
  · rfl
  · rfl

/-! ## Page numbers -/

/-- Without a page parameter no page is asked for. -/
lemma readPage_of_absent {params : Params} (h : params.get? Params.page = none) :
    readPage params = .ok none := by
  rw [readPage, h]

/-- A page that is written as a number is read as it. -/
lemma readPage_of_text {params : Params} {page : UInt32} (hpos : page ≠ 0)
    (h : params.get? Params.page = some (toString page)) : readPage params = .ok (some page) := by
  have hne : toString page ≠ "" := by
    intro e
    have hread := readUInt32?_toString page
    rw [e] at hread
    cases hread
  rw [readPage, h]
  simp only [trim_toString_uint32, if_neg hne, readUInt32?_toString, if_neg hpos]

/-- A page size that is read is not zero. -/
lemma readTake_ne_zero {params : Params} {config : Config} {take : UInt32}
    (hconfig : config.validate = .ok ()) (h : readTake params config = .ok take) : take ≠ 0 := by
  obtain ⟨-, hdefault, hbound⟩ := Config.validate_cases hconfig
  unfold readTake at h
  split at h
  · cases h
    exact hdefault
  split at h
  · cases h
  split at h
  · cases h
  rename_i hne
  split at h
  · rename_i bound e
    cases h
    split
    · -- a bound of zero would lie below the page size by default
      rintro rfl
      exact hbound 0 e (UInt32.pos_iff_ne_zero.mpr hdefault)
    · exact hne
  · cases h
    exact hne

/-- A page size that is read as a number is put into its bounds. -/
lemma readTake_of_read {params : Params} {config : Config} {raw : String} {take : UInt32}
    (hpos : take ≠ 0) (hget : params.get? Params.take = some raw)
    (hread : readUInt32? (Text.trim raw).toList = some take) :
    readTake params config = .ok (config.bounded take) := by
  rw [readTake, hget]
  simp only [hread, if_neg hpos]
  rw [Config.bounded]
  cases config.maxTake with
  | none => rfl
  | some bound => rfl

/-- A page size that is written as a number is put into its bounds. -/
lemma readTake_of_text {params : Params} {config : Config} {take : UInt32} (hpos : take ≠ 0)
    (h : params.get? Params.take = some (toString take)) :
    readTake params config = .ok (config.bounded take) := by
  refine readTake_of_read hpos h ?_
  rw [trim_toString_uint32, readUInt32?_toString]

/-- The page size depends on the parameter that names it only. -/
lemma readTake_congr {a b : Params} (config : Config)
    (h : a.get? Params.take = b.get? Params.take) : readTake a config = readTake b config := by
  rw [readTake, readTake, h]

/-- The query for a page of the same listing. -/
def PageQuery.atPage (q : PageQuery) (page : UInt32) : PageQuery :=
  { q with page := some page, skip := some (skipBefore page q.take) }

/-- Overrides leave the page that a query asks for. -/
lemma PageQuery.override_atPage (q : PageQuery) (page : UInt32) (o : Overrides) :
    (q.atPage page).override o = (q.override o).atPage page := by
  simp only [atPage, override, PageQuery.mk.injEq, true_and, and_self, and_true]
  cases o.take with
  | none => rfl
  | some take => rfl

/-- A request with a further page number asks for that page of the same listing. -/
theorem compose_insert_page {params : Params} {schema : Schema} {config : Config}
    {query : PageQuery} {page : UInt32} (hcompose : compose params schema config = .ok query)
    (habsent : params.get? Params.page = none) (hpos : page ≠ 0) :
    compose (params.insert Params.page (toString page)) schema config =
      .ok (query.atPage page) := by
  obtain ⟨hdraft, htake, -⟩ := compose_eq_ok_iff.mp hcompose
  refine compose_eq_ok_iff.mpr ⟨?_, ?_, ?_, rfl⟩
  · rw [OrderedMap.entries_insert_new habsent]
    exact foldlM_concat_eq_ok_iff.mpr ⟨_, hdraft, Draft.add_of_no_directive ofKey_page _⟩
  · refine (readTake_congr config ?_).trans htake
    rw [OrderedMap.get?_insert, if_neg (by decide)]
  · refine readPage_of_text hpos ?_
    rw [OrderedMap.get?_insert, if_pos rfl]

end PagedListing

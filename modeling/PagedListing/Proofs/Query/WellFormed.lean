import PagedListing.Proofs.Filter.Operator
import PagedListing.Proofs.Paging.Offset
import PagedListing.Proofs.Sql.Grammar

/-!
# Well-formed queries

A query that was composed names declared fields only, each filter suits the type of its field, and page
size and page number are in their bounds (`wellFormed_of_compose`). Overrides on declared fields leave a
query that both statements can be rendered for, and set the number of records to pass over anew for the
page size that they ask for (`PageQuery.Executable.override`).
-/

namespace PagedListing
open PagedListing.Steps
open PagedListing.Sql (Select Count talks)

variable {schema : Schema} {config : Config}

/-! ## Drafts -/

/-- A predicate suits the type that its field is declared with. -/
def SuitsField (schema : Schema) (entry : String × Predicate) : Prop :=
  ∃ type, schema.fieldType entry.1 = .ok type ∧ entry.2.Suits type

/-- Filters that suit their fields, and an ordering by declared fields. -/
structure Draft.Fits (schema : Schema) (draft : Draft) : Prop where
  filters : ∀ entry ∈ draft.filters.entries, SuitsField schema entry
  order : ∀ name ∈ draft.order.names, schema.declares name = true

/-- An empty draft fits every schema. -/
lemma Draft.fits_empty (schema : Schema) : Draft.empty.Fits schema :=
  ⟨nofun, nofun⟩

/-- A parameter that is added keeps a draft fit. -/
lemma Draft.Fits.add {draft draft' : Draft} {param : String × String} (h : draft.Fits schema)
    (hadd : draft.add schema param = .ok draft') : draft'.Fits schema := by
  obtain ⟨-, rfl⟩ | ⟨field, operator, type, predicate, -, htype, hbuild, rfl⟩ |
    ⟨field, type, direction, -, htype, -, rfl⟩ := Draft.add_cases hadd
  · exact h
  · refine ⟨fun entry hentry => ?_, h.order⟩
    cases mem_putSorted hentry with
    | inl e => exact e ▸ ⟨type, htype, Predicate.suits_of_build hbuild⟩
    | inr hentry => exact h.filters entry hentry
  · refine ⟨h.filters, fun name hname => ?_⟩
    rw [OrderedMap.names_insert] at hname
    split at hname
    · exact h.order name hname
    · cases List.mem_append.mp hname with
      | inl hname => exact h.order name hname
      | inr hname => exact List.mem_singleton.mp hname ▸ Schema.declares_of_fieldType htype

/-- Parameters that are added keep a draft fit. -/
lemma Draft.Fits.fold {draft draft' : Draft} {entries : List (String × String)}
    (h : draft.Fits schema) (hfold : entries.foldlM (Draft.add schema) draft = .ok draft') :
    draft'.Fits schema :=
  foldlM_preserves (fun d d' : Draft => d.Fits schema → d'.Fits schema) (fun _ => id)
    (fun hfirst hnext => hnext ∘ hfirst) (fun _ _ _ _ hstep hfits => hfits.add hstep) hfold h

/-! ## Queries -/

/-- A query that a store of a schema can execute: its fields are declared, no field is ordered by twice,
and the number of records to pass over is that of the pages before, if pages are counted. -/
structure PageQuery.Executable (schema : Schema) (q : PageQuery) : Prop where
  declared : ∀ name ∈ namedFields q.filters q.order, schema.declares name = true
  distinct : q.order.names.Nodup
  skipped : q.skip.map UInt64.toNat = q.page.map fun page => q.take.toNat * (page.toNat - 1)

/-- A query as requests are composed to: it can be executed, its filters suit their fields, and page
size and page number are in their bounds. -/
structure PageQuery.WellFormed (schema : Schema) (config : Config) (q : PageQuery) : Prop
    extends q.Executable schema where
  suits : ∀ entry ∈ q.filters.entries, SuitsField schema entry
  one_le_take : 1 ≤ q.take
  take_le : ∀ bound, config.maxTake = some bound → q.take ≤ bound
  one_le_page : ∀ page, q.page = some page → 1 ≤ page

namespace PageQuery

variable {q : PageQuery}

/-- No page is so far that the number of records before it is out of range. -/
lemma skipBefore_pages (page : Option UInt32) (take : UInt32) :
    (page.map (skipBefore · take)).map UInt64.toNat =
      page.map fun page => take.toNat * (page.toNat - 1) := by
  rw [Option.map_map]
  exact Option.map_congr fun page _ => skipBefore_toNat page take

/-- There are a statement for the records of a query and one for their number. -/
def Rendered (schema : Schema) (q : PageQuery) : Prop :=
  ∃ select count, Select.ofOptions schema q.findOptions = .ok select ∧
    Count.ofOptions schema q.findOptions = .ok count

/-- An executable query has its statements. -/
lemma Executable.rendered (h : q.Executable schema) : q.Rendered schema := by
  obtain ⟨hselect, hcount⟩ := @Sql.ofOptions_eq schema q.findOptions h.declared
  exact ⟨_, _, hselect, hcount⟩

/-- The fields that a query names under overrides are its own or those of the overrides. -/
lemma mem_names_override {o : Overrides} {name : String}
    (h : name ∈ namedFields (q.override o).filters (q.override o).order) :
    name ∈ namedFields q.filters q.order ∨
      name ∈ namedFields o.filters (o.order.getD .empty) := by
  simp only [namedFields, List.mem_append, override] at h ⊢
  cases h with
  | inl hfilter =>
    obtain ⟨entry, hentry, rfl⟩ := List.mem_map.mp hfilter
    exact (SortedMap.mem_insertAll hentry).imp (fun h => .inl (List.mem_map_of_mem h))
      fun h => .inl (List.mem_map_of_mem h)
  | inr horder =>
    cases ho : o.order with
    | none =>
      rw [ho, Option.getD_none] at horder
      exact .inl (.inr horder)
    | some order =>
      rw [ho, Option.getD_some] at horder
      exact .inr (.inr horder)

/-- Overrides on declared fields leave a query that can be executed. -/
theorem Executable.override {o : Overrides} (h : q.Executable schema)
    (ho : o.check schema = .ok ()) : (q.override o).Executable schema where
  declared := by
    intro name hname
    cases mem_names_override hname with
    | inl hname => exact h.declared name hname
    | inr hname => exact Schema.checkFields_eq_ok_iff.mp ho name hname
  distinct := (q.override o).order.nodup
  skipped := by
    obtain ⟨filters, order, take⟩ := o
    cases take with
    | none => exact h.skipped
    | some take => exact skipBefore_pages q.page take

/-- Overrides count the records to pass over anew for a page size of their own. -/
lemma skip_override (q : PageQuery) (o : Overrides) :
    (q.override o).skip = o.take.elim q.skip fun take => q.page.map (skipBefore · take) := by
  rw [override]
  cases o.take with
  | none => rfl
  | some take => rfl

/-- The statements of a well-formed query have no empty lists: no request asks for a membership without
members. -/
theorem WellFormed.statements_mem (hschema : schema.validate = .ok ())
    (h : q.WellFormed schema config) :
    ∃ select count, Select.ofOptions schema q.findOptions = .ok select ∧
      Count.ofOptions schema q.findOptions = .ok count ∧
      select.text.toList ∈ Sql.Grammar.select Sql.Grammar.placeList ∧
      count.text.toList ∈ Sql.Grammar.count Sql.Grammar.placeList := by
  obtain ⟨hselect, hcount⟩ := @Sql.ofOptions_eq schema q.findOptions h.declared
  have hnamed := @Sql.named_of_declares schema hschema q.findOptions h.declared
  have hfilled : ∀ c ∈ Sql.conditionsOf q.filters, c.Filled := by
    refine (Sql.filled_conditionsOf_iff q.filters).mpr fun entry hentry => ?_
    obtain ⟨type, -, hsuits⟩ := h.suits entry hentry
    exact hsuits.nonempty
  refine ⟨_, _, hselect, hcount, ?_, ?_⟩
  · exact (Select.text_mem_iff hnamed (Schema.fieldNames_ne_nil hschema)).mpr hfilled
  · exact (Count.text_mem_iff hnamed.table hnamed.conditions).mpr hfilled

end PageQuery

/-! ## Composed queries -/

variable {params : Params}

/-- A page size that is read lies below the configured bound. -/
lemma readTake_le {take bound : UInt32} (hconfig : config.validate = .ok ())
    (h : readTake params config = .ok take) (hbound : config.maxTake = some bound) :
    take ≤ bound := by
  obtain ⟨-, -, hle⟩ := Config.validate_cases hconfig
  unfold readTake at h
  split at h
  · cases h
    exact UInt32.not_lt.mp (hle bound hbound)
  split at h
  · cases h
  split at h
  · cases h
  rw [hbound] at h
  cases h
  split
  · exact UInt32.le_refl bound
  · rename_i hlt
    exact UInt32.not_lt.mp hlt

/-- A page that is read is not the one before the first. -/
lemma readPage_ne_zero {page : UInt32} (h : readPage params = .ok (some page)) : page ≠ 0 := by
  unfold readPage at h
  dsimp only at h
  split at h
  · cases h
  split at h
  · cases h
  split at h
  · cases h
  split at h
  · cases h
  · rename_i hne
    cases h
    exact hne

/-- A composed query is well-formed and both of its statements are rendered. Under overrides on
declared fields, which may change the page size, the same number of pages is passed over, and both
statements are rendered again. -/
theorem wellFormed_of_compose {q : PageQuery} (hconfig : config.validate = .ok ())
    (h : compose params schema config = .ok q) :
    q.WellFormed schema config ∧ q.Rendered schema ∧
      ∀ o : Overrides, o.check schema = .ok () →
        (q.override o).Executable schema ∧ (q.override o).Rendered schema ∧
        (q.override o).take = o.take.getD q.take ∧
        (q.override o).skip = o.take.elim q.skip fun take => q.page.map (skipBefore · take) := by
  obtain ⟨hdraft, htake, hpage, hskips⟩ := compose_eq_ok_iff.mp h
  have hfits := (Draft.fits_empty schema).fold hdraft
  have hdeclared : ∀ name ∈ namedFields q.filters q.order, schema.declares name = true := by
    intro name hname
    cases List.mem_append.mp hname with
    | inl hfilter =>
      obtain ⟨entry, hentry, rfl⟩ := List.mem_map.mp hfilter
      obtain ⟨type, htype, -⟩ := hfits.filters entry hentry
      exact Schema.declares_of_fieldType htype
    | inr horder => exact hfits.order name horder
  have hskipped : q.skip.map UInt64.toNat =
      q.page.map fun page => q.take.toNat * (page.toNat - 1) := by
    rw [hskips, PageQuery.skipBefore_pages]
  have hexecutable : q.Executable schema := ⟨hdeclared, q.order.nodup, hskipped⟩
  refine ⟨⟨hexecutable, hfits.filters, ?_, ?_, ?_⟩, hexecutable.rendered, ?_⟩
  · exact one_le_of_ne_zero (readTake_ne_zero hconfig htake)
  · exact fun bound hbound => readTake_le hconfig htake hbound
  · rintro page e
    rw [e] at hpage
    exact one_le_of_ne_zero (readPage_ne_zero hpage)
  · intro o ho
    have hover := hexecutable.override ho
    exact ⟨hover, hover.rendered, rfl, q.skip_override o⟩

/-- A request for a page of more talks than the configuration allows. -/
def talkRequest : Params :=
  .ofList [("where__id__in", "1, 2,"), ("where__title__i_like", "lean"), ("order__at", "DESC"),
    ("take", "90"), ("page", "3")]

/-- Talks of one title only, fewer on a page. -/
def talkOverrides : Overrides where
  filters := .ofList [("title", .compare .equal (.text "Lean"))]
  take := some 10

/-- The third page of fifty talks each, and of ten each under the overrides. -/
theorem wellFormed_talks :
    ∃ q, compose talkRequest talks { maxTake := some 50 } = .ok q ∧
      q.WellFormed talks { maxTake := some 50 } ∧ q.take = 50 ∧ q.skip = some 100 ∧
      (q.override talkOverrides).Rendered talks ∧ (q.override talkOverrides).skip = some 20 := by
  have hconfig : ({ maxTake := some 50 } : Config).validate = .ok () := by
    obtain ⟨_, h⟩ := exists_eq_ok_of_toBool
      (show (({ maxTake := some 50 } : Config).validate).toBool = true by decide +kernel)
    exact h
  have hoverrides : talkOverrides.check talks = .ok () := by decide
  have hcompose : compose talkRequest talks { maxTake := some 50 } = .ok
      ⟨some 3, 50, some 100, .ofList [("id", .among [.integer 1, .integer 2]), ("title", .like "lean" true)],
        .ofList [("at", .descending)]⟩ := by decide +kernel
  obtain ⟨hq, -, h⟩ := wellFormed_of_compose hconfig hcompose
  obtain ⟨-, hrendered, -, hskip⟩ := h talkOverrides hoverrides
  exact ⟨_, hcompose, hq, rfl, rfl, hrendered, hskip⟩

end PagedListing

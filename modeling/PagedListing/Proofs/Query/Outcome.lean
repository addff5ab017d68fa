import PagedListing.Proofs.Filter.Key
import PagedListing.Proofs.Query.Reading
import PagedListing.Proofs.Schema

/-!
# What composing comes to

A request is read parameter by parameter. `Fault` says what can be wrong with one of them, and the first
parameter with a fault decides how the request is refused; only then do the page size and the page
number count. A request without faults asks for what its parameters ask for (`Asked`): the last filter
on a field and all orderings in their order. So parameters that are no directives do not matter, and
two neighbours may change places unless both filter by one field or both are orderings
(`compose_outcome`).
-/

namespace PagedListing
open PagedListing.Steps

variable {schema : Schema}

/-! ## Single parameters -/

/-- A value names a direction, in letters of either case. -/
def Direction.Named (d : Direction) (value : String) : Prop :=
  String.ofList (value.toList.map Char.toUpper) = d.keyword

/-- What is wrong with a parameter. -/
inductive Fault (schema : Schema) : String × String → Error → Prop
  | key {name value : String} {e : Error} (hkey : Directive.ofKey name = .error e) :
    Fault schema (name, value) e
  | field {name value : String} {d : Directive} (hkey : Directive.ofKey name = .ok (some d))
    (hfield : schema.declares d.field = false) : Fault schema (name, value) (.unknownField d.field)
  | value {name value field : String} {operator : Option Operator} {type : FieldType} {e : Error}
    (hkey : Directive.ofKey name = .ok (some (.filter field operator)))
    (htype : schema.fieldType field = .ok type)
    (hbuild : (operator.getD (.compare .equal)).build field type value = .error e) :
    Fault schema (name, value) e
  | direction {name value field : String} (hkey : Directive.ofKey name = .ok (some (.order field)))
    (hfield : schema.declares field = true) (hnamed : ∀ d : Direction, ¬ d.Named value) :
    Fault schema (name, value) (.invalidDirection field value)

/-- Nothing is wrong with a parameter. -/
def Faultless (schema : Schema) (param : String × String) : Prop :=
  ∀ e, ¬ Fault schema param e

/-- A direction is refused if the value names none. -/
lemma Direction.read_eq_error_iff {field value : String} {e : Error} :
    Direction.read field value = .error e ↔
      (∀ d : Direction, ¬ d.Named value) ∧ e = .invalidDirection field value := by
  unfold Direction.read
  dsimp only
  split
  · rename_i hasc
    exact ⟨nofun, fun h => absurd hasc (h.1 .ascending)⟩
  · rename_i hasc
    split
    · rename_i hdesc
      exact ⟨nofun, fun h => absurd hdesc (h.1 .descending)⟩
    · rename_i hdesc
      constructor
      · rintro ⟨⟩
        refine ⟨fun d => ?_, rfl⟩
        cases d with
        | ascending => exact hasc
        | descending => exact hdesc
      · rintro ⟨-, rfl⟩
        rfl

/-- A parameter is refused for its fault, whatever was read before it. -/
lemma Draft.add_eq_error_iff {draft : Draft} {param : String × String} {e : Error} :
    draft.add schema param = .error e ↔ Fault schema param e := by
  obtain ⟨name, value⟩ := param
  constructor
  · intro h
    obtain hkey | ⟨directive, hkey, h⟩ := bind_eq_error_iff.mp h
    · exact .key hkey
    cases directive with
    | none => cases h
    | some d =>
      obtain htype | ⟨type, htype, h⟩ := bind_eq_error_iff.mp h
      · obtain ⟨hfield, rfl⟩ := Schema.fieldType_eq_error_iff.mp htype
        exact .field hkey hfield
      cases d with
      | filter field operator =>
        obtain hbuild | ⟨_, -, h⟩ := bind_eq_error_iff.mp h
        · exact .value hkey htype hbuild
        · cases h
      | order field =>
        obtain hread | ⟨_, -, h⟩ := bind_eq_error_iff.mp h
        · obtain ⟨hnamed, rfl⟩ := Direction.read_eq_error_iff.mp hread
          exact .direction hkey (Schema.exists_fieldType_iff.mp ⟨type, htype⟩) hnamed
        · cases h
  · intro h
    cases h with
    | key hkey => exact bind_eq_error_iff.mpr (.inl hkey)
    | field hkey hfield =>
      refine bind_eq_error_iff.mpr (.inr ⟨_, hkey, bind_eq_error_iff.mpr (.inl ?_)⟩)
      exact Schema.fieldType_eq_error_iff.mpr ⟨hfield, rfl⟩
    | value hkey htype hbuild =>
      exact bind_eq_error_iff.mpr (.inr ⟨_, hkey, bind_eq_error_iff.mpr (.inr ⟨_, htype,
        bind_eq_error_iff.mpr (.inl hbuild)⟩)⟩)
    | direction hkey hfield hnamed =>
      obtain ⟨type, htype⟩ := Schema.exists_fieldType_iff.mpr hfield
      exact bind_eq_error_iff.mpr (.inr ⟨_, hkey, bind_eq_error_iff.mpr (.inr ⟨_, htype,
        bind_eq_error_iff.mpr (.inl (Direction.read_eq_error_iff.mpr ⟨hnamed, rfl⟩))⟩)⟩)

/-- A parameter can be read if nothing is wrong with it. -/
lemma readable_iff_faultless {param : String × String} :
    Readable schema param ↔ Faultless schema param := by
  constructor
  · rintro ⟨draft, hadd⟩ e hfault
    rw [Draft.add_eq_error_iff.mpr hfault] at hadd
    cases hadd
  · intro h
    cases hadd : Draft.empty.add schema param with
    | ok draft => exact ⟨draft, hadd⟩
    | error e => exact absurd (Draft.add_eq_error_iff.mp hadd) (h e)

/-! ## Whole requests -/

/-- The first of some parameters with a fault has this one. -/
def FirstFault (schema : Schema) (params : List (String × String)) (e : Error) : Prop :=
  ∃ front param back, params = front ++ param :: back ∧
    (∀ earlier ∈ front, Faultless schema earlier) ∧ Fault schema param e

/-- A predicate is the one of the last filter on a field. -/
def LastFilter (schema : Schema) (params : List (String × String)) (field : String)
    (predicate : Predicate) : Prop :=
  ∃ front param back, params = front ++ param :: back ∧
    filterOf? schema param = some (field, predicate) ∧
    ∀ later ∈ back, filtersBy field later = false

/-- A query is what a request asks for. -/
structure Asked (params : Params) (schema : Schema) (config : Config) (query : PageQuery) :
    Prop where
  faultless : ∀ param ∈ params.entries, Faultless schema param
  fields : ∀ field, field ∈ query.filters.names ↔
    ∃ param ∈ params.entries, filtersBy field param = true
  filters : ∀ field predicate, query.filters.get? field = some predicate ↔
    LastFilter schema params.entries field predicate
  order : query.order.entries = params.entries.filterMap orderOf?
  take : readTake params config = .ok query.take
  page : readPage params = .ok query.page
  skip : query.SkipsPages

/-! ## Faults -/

/-- Parameters are refused for their first fault. -/
lemma foldlM_add_eq_error_iff {params : List (String × String)} {e : Error} :
    params.foldlM (Draft.add schema) .empty = .error e ↔ FirstFault schema params e := by
  rw [foldlM_eq_error_iff]
  constructor
  · rintro ⟨front, param, back, draft, rfl, hfront, hparam⟩
    refine ⟨front, param, back, rfl, fun earlier hmem => ?_, Draft.add_eq_error_iff.mp hparam⟩
    exact readable_iff_faultless.mp ((foldlM_add_eq_ok_iff.mp hfront).1 earlier hmem)
  · rintro ⟨front, param, back, rfl, hfront, hparam⟩
    refine ⟨front, param, back, _, rfl, foldlM_add_eq_ok_iff.mpr ⟨fun earlier hmem => ?_, rfl⟩,
      Draft.add_eq_error_iff.mpr hparam⟩
    exact readable_iff_faultless.mpr (hfront earlier hmem)

/-- A request is refused for the first fault of its parameters; else for its page size, and else for
its page number. -/
lemma compose_eq_error_iff {params : Params} {config : Config} {e : Error} :
    compose params schema config = .error e ↔
      FirstFault schema params.entries e ∨
      (∀ param ∈ params.entries, Faultless schema param) ∧
        (readTake params config = .error e ∨
          (∃ take, readTake params config = .ok take) ∧ readPage params = .error e) := by
  have hfold : (∃ draft, params.entries.foldlM (Draft.add schema) .empty = .ok draft) ↔
      ∀ param ∈ params.entries, Faultless schema param := by
    simp only [foldlM_add_eq_ok_iff, exists_and_left, exists_eq, and_true, readable_iff_faultless]
  rw [← foldlM_add_eq_error_iff, ← hfold]
  constructor
  · intro h
    obtain hfault | ⟨draft, hdraft, h⟩ := bind_eq_error_iff.mp h
    · exact .inl hfault
    refine .inr ⟨⟨draft, hdraft⟩, ?_⟩
    obtain htake | ⟨take, htake, h⟩ := bind_eq_error_iff.mp h
    · exact .inl htake
    obtain hpage | ⟨page, -, h⟩ := bind_eq_error_iff.mp h
    · exact .inr ⟨⟨take, htake⟩, hpage⟩
    · cases h
  · rintro (hfault | ⟨⟨draft, hdraft⟩, htake | ⟨⟨take, htake⟩, hpage⟩⟩)
    · exact bind_eq_error_iff.mpr (.inl hfault)
    · exact bind_eq_error_iff.mpr (.inr ⟨draft, hdraft, bind_eq_error_iff.mpr (.inl htake)⟩)
    · exact bind_eq_error_iff.mpr (.inr ⟨draft, hdraft, bind_eq_error_iff.mpr (.inr ⟨take, htake,
        bind_eq_error_iff.mpr (.inl hpage)⟩)⟩)

/-! ## What parameters ask for -/

/-- The last filter on a field is the one behind which none is on it. -/
lemma lastFilter?_eq_some_iff {field : String} {params : List (String × String)}
    {param : String × String} :
    lastFilter? field params = some param ↔
      ∃ front back, params = front ++ param :: back ∧ filtersBy field param = true ∧
        ∀ later ∈ back, filtersBy field later = false := by
  rw [lastFilter?, List.getLast?_eq_some_iff]
  simp only [List.filter_eq_append_iff, List.filter_eq_cons_iff, List.filter_eq_nil_iff,
    Bool.not_eq_true]
  constructor
  · rintro ⟨_, front, _, rfl, -, middle, back, rfl, -, hparam, hback⟩
    exact ⟨front ++ middle, back, by rw [List.append_assoc], hparam, hback⟩
  · rintro ⟨front, back, rfl, hparam, hback⟩
    exact ⟨_, front, _, rfl, rfl, [], back, rfl, List.forall_mem_nil _, hparam, hback⟩

/-- Whether there is a filter on a field. -/
lemma exists_lastFilter?_iff {field : String} {params : List (String × String)} :
    (∃ param, lastFilter? field params = some param) ↔
      ∃ param ∈ params, filtersBy field param = true := by
  rw [lastFilter?, ← Option.isSome_iff_exists, List.getLast?_isSome]
  simp only [ne_eq, List.filter_eq_nil_iff, not_forall, not_not, exists_prop]

/-- The last filter on a field of a readable request has a predicate. -/
lemma exists_lastFilter {params : List (String × String)}
    (hreadable : ∀ param ∈ params, Readable schema param) {field : String} {param : String × String}
    (hlast : lastFilter? field params = some param) :
    ∃ predicate, filterOf? schema param = some (field, predicate) ∧
      LastFilter schema params field predicate := by
  obtain ⟨front, back, hparams, hparam, hback⟩ := lastFilter?_eq_some_iff.mp hlast
  have hmem : param ∈ params := by
    rw [hparams]
    exact List.mem_append_right _ List.mem_cons_self
  obtain ⟨predicate, hset, -⟩ := exists_filterOf?_of_filtersBy (hreadable param hmem) hparam
  exact ⟨predicate, hset, front, param, back, hparams, hset, hback⟩

/-- The filter on a field is the predicate of the last parameter on it. -/
lemma get?_filtersOf_eq_some_iff {params : List (String × String)}
    (hreadable : ∀ param ∈ params, Readable schema param) {field : String}
    {predicate : Predicate} :
    (filtersOf schema params).get? field = some predicate ↔
      LastFilter schema params field predicate := by
  rw [get?_filtersOf hreadable]
  constructor
  · intro h
    obtain ⟨param, hlast, h⟩ := Option.bind_eq_some_iff.mp h
    obtain ⟨other, hset, hother⟩ := exists_lastFilter hreadable hlast
    rw [hset] at h
    cases h
    exact hother
  · rintro ⟨front, param, back, hparams, hset, hback⟩
    have hlast : lastFilter? field params = some param :=
      lastFilter?_eq_some_iff.mpr ⟨front, back, hparams, filtersBy_of_filterOf? hset, hback⟩
    rw [hlast, Option.bind_some, hset, Option.map_some]

/-- The fields with filters are those that parameters filter. -/
lemma mem_names_filtersOf_iff {params : List (String × String)}
    (hreadable : ∀ param ∈ params, Readable schema param) {field : String} :
    field ∈ (filtersOf schema params).names ↔ ∃ param ∈ params, filtersBy field param = true := by
  rw [SortedMap.mem_names_iff, ← exists_lastFilter?_iff]
  constructor
  · rintro ⟨predicate, h⟩
    rw [get?_filtersOf hreadable] at h
    obtain ⟨param, hlast, -⟩ := Option.bind_eq_some_iff.mp h
    exact ⟨param, hlast⟩
  · rintro ⟨param, hlast⟩
    obtain ⟨predicate, -, h⟩ := exists_lastFilter hreadable hlast
    exact ⟨predicate, (get?_filtersOf_eq_some_iff hreadable).mpr h⟩

/-- A parameter with an entry for the ordering is a directive for it. -/
lemma ofKey_of_orderOf? {param : String × String} {entry : String × Direction}
    (h : orderOf? param = some entry) : Directive.ofKey param.1 = .ok (some (.order entry.1)) := by
  unfold orderOf? at h
  split at h
  · rename_i field hkey
    obtain ⟨direction, -, rfl⟩ := Option.map_eq_some_iff.mp h
    exact hkey
  · cases h

/-- The orderings of a request are on different fields, so none is overwritten. -/
lemma entries_orderOf (params : Params) :
    (orderOf params.entries).entries = params.entries.filterMap orderOf? := by
  refine OrderedMap.entries_ofList ?_
  rw [entryNames, List.Nodup, List.pairwise_map, List.pairwise_filterMap]
  have hnames : params.entries.Pairwise fun a b => a.1 ≠ b.1 := List.pairwise_map.mp params.nodup
  refine hnames.imp fun {a b} hne entry hentry other hother hfield => hne ?_
  have hkey : (Directive.order entry.1).key = a.1 :=
    Directive.key_of_written (Directive.ofKey_eq_some_iff.mp (ofKey_of_orderOf? hentry))
  have hkey' : (Directive.order other.1).key = b.1 :=
    Directive.key_of_written (Directive.ofKey_eq_some_iff.mp (ofKey_of_orderOf? hother))
  rw [← hkey, ← hkey', hfield]

/-- A query is composed if it is what the request asks for. -/
lemma compose_eq_ok_iff_asked {params : Params} {config : Config} {query : PageQuery} :
    compose params schema config = .ok query ↔ Asked params schema config query := by
  rw [compose_iff_reading]
  constructor
  · rintro ⟨hreadable, hfilters, horder, htake, hpage, hskip⟩
    refine ⟨fun param hmem => readable_iff_faultless.mp (hreadable param hmem), fun field => ?_,
      fun field predicate => ?_, ?_, htake, hpage, hskip⟩
    · rw [hfilters]
      exact mem_names_filtersOf_iff hreadable
    · rw [hfilters]
      exact get?_filtersOf_eq_some_iff hreadable
    · rw [horder]
      exact entries_orderOf params
  · intro h
    have hreadable : ∀ param ∈ params.entries, Readable schema param :=
      fun param hmem => readable_iff_faultless.mpr (h.faultless param hmem)
    refine ⟨hreadable, SortedMap.eq_of_get? fun field => Option.ext fun predicate => ?_,
      OrderedMap.ext ?_, h.take, h.page, h.skip⟩
    · rw [h.filters, get?_filtersOf_eq_some_iff hreadable]
    · rw [h.order, entries_orderOf]

/-! ## Parameters without influence -/

/-- Directives, the page size and the page number matter. -/
def Params.matters (param : String × String) : Bool :=
  Directive.isKey param.1 || param.1 = Params.take || param.1 = Params.page

/-- Parameters without influence leave a draft as it is. -/
lemma foldlM_add_matters (params : List (String × String)) (draft : Draft) :
    (params.filter Params.matters).foldlM (Draft.add schema) draft =
      params.foldlM (Draft.add schema) draft := by
  rw [List.foldlM_filter]
  congr 1
  funext draft param
  split
  · rfl
  · rename_i hidle
    have hkey : Directive.isKey param.1 = false := by
      rw [Params.matters, Bool.or_assoc, Bool.or_eq_true, not_or, Bool.not_eq_true] at hidle
      exact hidle.1
    exact (Draft.add_of_no_directive (Directive.ofKey_eq_none_iff.mpr hkey) param.2).symm

/-- Requests that agree in what matters have the same values under the names that matter. -/
lemma get?_of_matters {params other : Params}
    (h : other.entries.filter Params.matters = params.entries.filter Params.matters) {name : String}
    (hname : ∀ value, Params.matters (name, value) = true) :
    other.get? name = params.get? name := by
  have hfind : ∀ m : Params,
      m.get? name = ((m.entries.filter Params.matters).find? (·.1 = name)).map (·.2) := by
    intro m
    rw [OrderedMap.get?, List.find?_filter]
    congr 2
    funext param
    simp only [decide_eq_true_eq, decide_eq_decide]
    refine (and_iff_right_of_imp ?_).symm
    rintro rfl
    exact hname param.2
  rw [hfind, hfind, h]

/-- Two requests that agree in what matters come to the same. -/
lemma compose_of_matters {params other : Params} (config : Config)
    (h : other.entries.filter Params.matters = params.entries.filter Params.matters) :
    compose other schema config = compose params schema config := by
  have htake : readTake other config = readTake params config :=
    readTake_congr config (get?_of_matters h fun _ => by simp [Params.matters])
  have hpage : readPage other = readPage params := by
    rw [readPage, readPage, get?_of_matters h fun _ => by simp [Params.matters]]
  rw [compose, ← foldlM_add_matters, h, foldlM_add_matters, htake, hpage]
  rfl

/-! ## Neighbours that change places -/

/-- Two directives of which it does not matter which one is read first. -/
def Directive.Independent : Directive → Directive → Prop
  | filter field _, filter other _ => field ≠ other
  | order _, order _ => False
  | filter _ _, order _ => True
  | order _, filter _ _ => True

/-- Two parameters of which it does not matter which one stands first. -/
def Exchangeable (a b : String × String) : Prop :=
  ∀ d d', Directive.ofKey a.1 = .ok (some d) → Directive.ofKey b.1 = .ok (some d') →
    d.Independent d'

/-- Of two parameters that may change places not both filter one field. -/
lemma Exchangeable.filtersBy {a b : String × String} (h : Exchangeable a b) (field : String) :
    filtersBy field a = false ∨ filtersBy field b = false := by
  by_contra hboth
  rw [not_or, Bool.not_eq_false, Bool.not_eq_false] at hboth
  obtain ⟨_, ha⟩ := filtersBy_eq_true_iff.mp hboth.1
  obtain ⟨_, hb⟩ := filtersBy_eq_true_iff.mp hboth.2
  exact h _ _ ha hb rfl

/-- Of two parameters that may change places not both order. -/
lemma Exchangeable.orderOf? {a b : String × String} (h : Exchangeable a b) :
    orderOf? a = none ∨ orderOf? b = none := by
  cases ha : PagedListing.orderOf? a with
  | none => exact .inl rfl
  | some entry =>
    cases hb : PagedListing.orderOf? b with
    | none => exact .inr rfl
    | some other => exact (h _ _ (ofKey_of_orderOf? ha) (ofKey_of_orderOf? hb)).elim

section
variable {α β : Type} {front back : List α} {a b : α}

/-- The order of two neighbours makes no difference to a filter that drops one of them. -/
lemma filter_exchange {p : α → Bool} (h : p a = false ∨ p b = false) :
    (front ++ a :: b :: back).filter p = (front ++ b :: a :: back).filter p := by
  rw [List.filter_append, List.filter_append]
  obtain ha | hb := h
  · simp only [List.filter_cons, ha, Bool.false_eq_true, if_false]
  · simp only [List.filter_cons, hb, Bool.false_eq_true, if_false]

/-- The order of two neighbours makes no difference to the results if one of them has none. -/
lemma filterMap_exchange {f : α → Option β} (h : f a = none ∨ f b = none) :
    (front ++ a :: b :: back).filterMap f = (front ++ b :: a :: back).filterMap f := by
  rw [List.filterMap_append, List.filterMap_append]
  obtain ha | hb := h
  · simp only [List.filterMap_cons, ha]
  · simp only [List.filterMap_cons, hb]

end

/-- Neighbours that are exchangeable may change places in a request that is composed. -/
lemma compose_exchange {params other : Params} {config : Config}
    {front back : List (String × String)} {a b : String × String}
    (hparams : params.entries = front ++ a :: b :: back)
    (hother : other.entries = front ++ b :: a :: back) (hexchange : Exchangeable a b)
    {query : PageQuery} (h : compose params schema config = .ok query) :
    compose other schema config = .ok query := by
  have hperm : other.entries.Perm params.entries := by
    rw [hparams, hother]
    exact (List.Perm.swap a b back).append_left front
  have hget : ∀ name, other.get? name = params.get? name := fun name => Option.ext fun value => by
    rw [← OrderedMap.mem_entries_iff, ← OrderedMap.mem_entries_iff, hperm.mem_iff]
  obtain ⟨hreadable, hfilters, horder, htake, hpage, hskip⟩ := compose_iff_reading.mp h
  have hreadable' : ∀ param ∈ other.entries, Readable schema param :=
    fun param hmem => hreadable param (hperm.subset hmem)
  refine compose_iff_reading.mpr ⟨hreadable', ?_, ?_, ?_, ?_, hskip⟩
  · rw [hfilters]
    refine SortedMap.eq_of_get? fun field => ?_
    rw [get?_filtersOf hreadable, get?_filtersOf hreadable', lastFilter?, lastFilter?, hparams,
      hother, filter_exchange (hexchange.filtersBy field)]
  · rw [horder, orderOf, orderOf, hparams, hother, filterMap_exchange hexchange.orderOf?]
  · rw [readTake_congr config (hget Params.take), htake]
  · rw [← hpage, readPage, readPage, hget]

/-! ## The outcome of a request -/

/-- A request is refused for its first fault, or it is composed to the query that its parameters ask
for. Parameters that do not matter may be left out or put anywhere, and exchangeable neighbours may
change places. -/
theorem compose_outcome (params : Params) (schema : Schema) (config : Config) :
    (∀ e, compose params schema config = .error e ↔
      FirstFault schema params.entries e ∨
      (∀ param ∈ params.entries, Faultless schema param) ∧
        (readTake params config = .error e ∨
          (∃ take, readTake params config = .ok take) ∧ readPage params = .error e)) ∧
    (∀ query, compose params schema config = .ok query ↔ Asked params schema config query) ∧
    (∀ other : Params,
      other.entries.filter Params.matters = params.entries.filter Params.matters →
        compose other schema config = compose params schema config) ∧
    (∀ (other : Params) (front back : List (String × String)) (a b : String × String),
      params.entries = front ++ a :: b :: back → other.entries = front ++ b :: a :: back →
        Exchangeable a b → ∀ query, compose params schema config = .ok query →
          compose other schema config = .ok query) := by
  refine ⟨fun e => compose_eq_error_iff, fun query => compose_eq_ok_iff_asked,
    fun other hmatters => compose_of_matters config hmatters, ?_⟩
  intro other front back a b hparams hother hexchange query hcompose
  exact compose_exchange hparams hother hexchange hcompose

/-- A schema with a text among its fields. -/
def essays : Schema := ⟨"essays", [⟨"id", .integer⟩, ⟨"title", .text⟩, ⟨"likes", .integer⟩]⟩

/-- Two filters on one field, with a filter on another field between them. -/
def essayRequest : Params :=
  .ofList [("where__likes__more_than", "3"), ("where__title", "On trees"), ("lang", "en"),
    ("where__likes__in", "7, 9"), ("order__title", "desc"), ("order__id", "Asc")]

/-- The request with the filter on the title in front. -/
def essayExchanged : Params :=
  .ofList [("where__title", "On trees"), ("where__likes__more_than", "3"), ("lang", "en"),
    ("where__likes__in", "7, 9"), ("order__title", "desc"), ("order__id", "Asc")]

/-- A request with two faults and a page size that no request may ask for. -/
def essayFaults : Params :=
  .ofList [("take", "0"), ("where__title", "On trees"), ("where__likes__between", "7"),
    ("order__id", "up")]

/-- The later filter on the field counts, wherever the filter on the other field stands, and of all that
is wrong with a request the first faulty parameter is what it is refused for. -/
theorem compose_outcome_essays :
    ∃ query, compose essayRequest essays {} = .ok query ∧
      compose essayExchanged essays {} = .ok query ∧
      query.filters.get? "likes" = some (.among [.integer 7, .integer 9]) ∧
      query.order.entries = [("title", .descending), ("id", .ascending)] ∧
      compose essayFaults essays {} = .error (.wrongArity "between" "2" 1) := by
  have hcompose : compose essayRequest essays {} = .ok
      ⟨none, 20, none, .ofList [("likes", .among [.integer 7, .integer 9]),
        ("title", .compare .equal (.text "On trees"))],
        .ofList [("title", .descending), ("id", .ascending)]⟩ := by decide +kernel
  have hexchange : Exchangeable ("where__likes__more_than", "3") ("where__title", "On trees") := by
    rintro d d' hd hd'
    have hlikes : Directive.ofKey "where__likes__more_than" =
      .ok (some (.filter "likes" (some (.compare .more)))) := by decide
    have htitle : Directive.ofKey "where__title" = .ok (some (.filter "title" none)) := by decide
    cases hlikes.symm.trans hd
    cases htitle.symm.trans hd'
    show "likes" ≠ "title"
    decide
  have hfront : ∀ param ∈ [("take", "0"), ("where__title", "On trees")], Faultless essays param := by
    intro param hmem
    refine readable_iff_faultless.mp ?_
    obtain rfl | rfl := List.mem_pair.mp hmem
    · exact ⟨_, rfl⟩
    · exact ⟨_, rfl⟩
  have hfault : Fault essays ("where__likes__between", "7") (.wrongArity "between" "2" 1) := by
    have hkey : Directive.ofKey "where__likes__between" =
      .ok (some (.filter "likes" (some .between))) := by decide
    have htype : essays.fieldType "likes" = .ok .integer := rfl
    exact .value hkey htype rfl
  refine ⟨_, hcompose, ?_, by decide, rfl, ?_⟩
  · exact (compose_outcome essayRequest essays {}).2.2.2 essayExchanged [] _ _ _ rfl rfl hexchange _
      hcompose
  · exact ((compose_outcome essayFaults essays {}).1 _).mpr
      (.inl ⟨_, _, [("order__id", "up")], rfl, hfront, hfault⟩)

end PagedListing

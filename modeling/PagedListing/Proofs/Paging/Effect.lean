import PagedListing.Proofs.Config
import PagedListing.Proofs.Paging.Page
import PagedListing.Proofs.Query.Rejection

/-!
# Effects on the store

A request that is refused does not reach the store, and every other request is one query of it, however
it ends (`MemoryStore.paginate_effect`). The errors on the two sides of the query are of different
kinds: before it stand those of the configuration and of the client (`refuses_of_checkedQuery`), behind
it those of a record that cannot be written and of a link that cannot be built
(`MemoryStore.isInternal_of_asked`).
-/

namespace PagedListing
open PagedListing.Steps

variable {config : Config} {path : String} {overrides : Overrides} {params : Params}

/-- An error that refuses a request: the client caused it, or the configuration is not valid. -/
def Error.Refuses (e : Error) : Prop :=
  e.isClientError = true ∨ ∃ problem, e = .config problem

/-- An error of a request that was put to the store: that of a record or that of a link. -/
def Error.IsInternal (e : Error) : Prop :=
  (∃ problem, e = .json problem) ∨ ∃ problem, e = .url problem

/-- What fails behind the query does not pass for a refusal. -/
lemma Error.IsInternal.not_refuses {e : Error} (h : e.IsInternal) : ¬ e.Refuses := by
  intro hrefuses
  cases hrefuses with
  | inl hclient =>
    rcases h with ⟨problem, rfl⟩ | ⟨problem, rfl⟩
    · cases hclient
    · cases hclient
  | inr hconfig =>
    obtain ⟨_, rfl⟩ := hconfig
    rcases h with ⟨problem, e⟩ | ⟨problem, e⟩
    · cases e
    · cases e

/-- The check of a configuration fails only with an error of the configuration. -/
lemma Config.failsWith_validate (config : Config) :
    FailsWith (fun e => ∃ problem, e = Error.config problem) config.validate := by
  unfold Config.validate
  dsimp only
  -- the five checks, in their order
  split
  · exact .error ⟨_, rfl⟩
  split
  · exact .error ⟨_, rfl⟩
  split
  · exact .error ⟨_, rfl⟩
  split
  · exact .error ⟨_, rfl⟩
  split
  · split
    · exact .error ⟨_, rfl⟩
    · exact .ok _
  · exact .ok _

/-- A query that fails its checks is refused. -/
theorem refuses_of_checkedQuery (schema : Schema) (config : Config) (params : Params)
    (overrides : Overrides) :
    FailsWith Error.Refuses (checkedQuery schema config params overrides) := by
  refine (config.failsWith_validate.mono fun _ => .inr).bind fun _ => ?_
  refine ((clientFault_compose params schema config).mono fun _ => .inl).bind fun query => ?_
  exact ((clientFault_check overrides schema).mono fun _ => .inl).bind fun _ => .ok _

/-- A link that is not built is an internal error. -/
lemma isInternal_of_nextLink (config : Config) (path : String) (echoed : List (String × String))
    (cursor : String) (lastId : Int64) :
    FailsWith Error.IsInternal (nextLink config path echoed cursor lastId) := by
  unfold nextLink
  split
  · exact .error (.inr ⟨_, rfl⟩)
  · exact .ok _

namespace MemoryStore

/-- Whether a request was refused. -/
def Refused {α : Type} (answer : Except Error α) : Prop :=
  ∃ e, answer = .error e ∧ e.Refuses

/-- Records that are not given as rows are an internal error. -/
lemma isInternal_of_rows (records : List Record) : FailsWith Error.IsInternal (rows records) := by
  induction records with
  | nil => exact .ok []
  | cons r rest ih =>
    unfold rows
    split
    · exact .error (.inl ⟨_, rfl⟩)
    · exact ih.bind fun _ => .ok _

/-- A selection of a store fails only with an internal error. -/
lemma isInternal_of_select (store : MemoryStore) (options : FindOptions) :
    FailsWith Error.IsInternal (store.select options) :=
  (isInternal_of_rows store.records).bind fun _ => .ok _

/-- A page of a walk fails if its link cannot be built, and not otherwise. -/
lemma isInternal_of_cursorAnswer (config : Config) (path : String) (params : Params)
    (query : PageQuery) (records : List Record) :
    FailsWith Error.IsInternal (cursorAnswer config path params query records) := by
  unfold cursorAnswer
  split
  · exact .ok _
  · exact (isInternal_of_nextLink _ _ _ _ _).bind fun _ => .ok _

/-- A request that passes the checks is one query, and only a record or a link can fail it. -/
theorem isInternal_of_asked (path : String) {store : MemoryStore} {query : PageQuery}
    (hquery : checkedQuery store.schema config params overrides = .ok query) :
    (paginate config path overrides params store).2 = store.counted ∧
      FailsWith Error.IsInternal (paginate config path overrides params store).1 := by
  cases hpage : query.page with
  | some page =>
    rw [paginate_eq_offset hquery hpage]
    exact ⟨rfl, (isInternal_of_select store query.findOptions).map⟩
  | none =>
    rw [paginate_eq_cursor hquery hpage]
    refine ⟨rfl, (isInternal_of_select store _).bind fun found => ?_⟩
    exact isInternal_of_cursorAnswer config path params query _

/-- No request changes the schema or the records. -/
lemma paginate_frame (config : Config) (path : String) (overrides : Overrides) (params : Params)
    (store : MemoryStore) :
    (paginate config path overrides params store).2.schema = store.schema ∧
      (paginate config path overrides params store).2.records = store.records := by
  cases hquery : checkedQuery store.schema config params overrides with
  | error e =>
    rw [paginate_error hquery]
    exact ⟨rfl, rfl⟩
  | ok query =>
    rw [(isInternal_of_asked path hquery).1]
    exact ⟨rfl, rfl⟩

/-- A request is refused exactly if its query fails the checks, and leaves the store alone; every other
one is one query and leaves the records alone. A request that cannot be composed is the fault of the
client. -/
theorem paginate_effect (config : Config) (path : String) (overrides : Overrides) (params : Params)
    (store : MemoryStore) :
    (Refused (paginate config path overrides params store).1 ↔
      ∃ e, checkedQuery store.schema config params overrides = .error e) ∧
    (Refused (paginate config path overrides params store).1 →
      (paginate config path overrides params store).2 = store) ∧
    (¬ Refused (paginate config path overrides params store).1 →
      (paginate config path overrides params store).2 =
        { store with queries := store.queries + 1 } ∧
      FailsWith Error.IsInternal (paginate config path overrides params store).1) ∧
    ∀ schema, FailsWith (fun e => e.isClientError = true) (compose params schema config) := by
  have hcompose := fun schema => clientFault_compose params schema config
  -- the two sides of the query
  cases hquery : checkedQuery store.schema config params overrides with
  | error e =>
    have hrefused : Refused (.error e : Except Error (Page Record)) :=
      ⟨e, rfl, refuses_of_checkedQuery _ _ _ _ e hquery⟩
    rw [paginate_error hquery]
    exact ⟨⟨fun _ => ⟨e, rfl⟩, fun _ => hrefused⟩, fun _ => rfl,
      fun hasked => absurd hrefused hasked, hcompose⟩
  | ok query =>
    obtain ⟨hcounted, hinternal⟩ := isInternal_of_asked path hquery
    have hasked : ¬ Refused (paginate config path overrides params store).1 := by
      rintro ⟨e, he, hrefuses⟩
      exact (hinternal e he).not_refuses hrefuses
    refine ⟨⟨fun hrefused => absurd hrefused hasked, ?_⟩, fun hrefused => absurd hrefused hasked,
      fun _ => ⟨hcounted, hinternal⟩, hcompose⟩
    rintro ⟨e, he⟩
    cases he

/-- A store of one draft that cannot be written. -/
def drafts : MemoryStore :=
  ⟨⟨"draft", [⟨"id", .integer⟩]⟩, [⟨1, .error "no form"⟩], 0⟩

/-- Drafts by title are refused, as a draft has no title, and all drafts are asked for in vain. -/
theorem paginate_effect_drafts :
    (paginate {} "drafts" {} (.ofList [("where__title", "a")]) drafts).2 = drafts ∧
    (paginate {} "drafts" {} .empty drafts).2.queries = 1 ∧
    ∃ e, (paginate {} "drafts" {} .empty drafts).1 = .error e ∧ e.IsInternal := by
  have hundeclared : ∃ e, compose (.ofList [("where__title", "a")]) drafts.schema {} = .error e :=
    ⟨_, rfl⟩
  have hchecked : checkedQuery drafts.schema {} .empty {} = .ok ⟨none, 20, none, .empty, .empty⟩ :=
    checkedQuery_of_compose Config.validate_default rfl
  obtain ⟨hrefused, hunchanged, -, -⟩ :=
    paginate_effect {} "drafts" {} (.ofList [("where__title", "a")]) drafts
  obtain ⟨hrefused', -, hasked, -⟩ := paginate_effect {} "drafts" {} .empty drafts
  have hinternal := hasked fun h => by
    obtain ⟨e, he⟩ := hrefused'.mp h
    rw [hchecked] at he
    cases he
  refine ⟨hunchanged (hrefused.mpr ?_), congrArg MemoryStore.queries hinternal.1, ?_⟩
  · cases hquery : checkedQuery drafts.schema {} (.ofList [("where__title", "a")]) {} with
    | error e => exact ⟨e, rfl⟩
    | ok query =>
      obtain ⟨-, -, q, hcompose, -⟩ := checkedQuery_eq_ok_iff.mp hquery
      obtain ⟨e, he⟩ := hundeclared
      rw [he] at hcompose
      cases hcompose
  · cases hanswer : (paginate {} "drafts" {} .empty drafts).1 with
    | error e => exact ⟨e, rfl, hinternal.2 e hanswer⟩
    | ok page =>
      rw [paginate_eq_cursor hchecked rfl] at hanswer
      cases hanswer

end MemoryStore

end PagedListing

import PagedListing.Proofs.Paging.Effect
import PagedListing.Store.Table

/-!
# Errors of stores

What a store answers by itself is never an error about a URL, neither in memory
(`MemoryStore.answersNoUrl`) nor over a table (`TableStore.answersNoUrl`): the one fails for a record
that cannot be written, the other for a statement that cannot be prepared or run.
-/

namespace PagedListing
open PagedListing.Steps

/-- An error that is not about a URL. -/
def Error.NotUrl (e : Error) : Prop :=
  ∀ problem, e ≠ .url problem

/-- An error that refuses a request is not about a URL. -/
lemma Error.Refuses.notUrl {e : Error} (h : e.Refuses) : e.NotUrl := by
  rintro problem rfl
  exact Error.IsInternal.not_refuses (.inr ⟨problem, rfl⟩) h

/-- No answer of a store itself is about a URL. -/
def AnswersNoUrl (σ : Type) {ρ : Type} [Store σ ρ] : Prop :=
  ∀ (options : FindOptions) (store : σ), FailsWith Error.NotUrl (Store.find options store).1 ∧
    FailsWith Error.NotUrl (Store.findAndCount options store).1

/-- An answer of two steps fails as one of them does. -/
lemma failsWith_bind {σ α β : Type} {p : Error → Prop} {x : Answer σ α} {f : α → Answer σ β}
    {s : σ} (hx : FailsWith p (x s).1) (hf : ∀ a s, FailsWith p (f a s).1) :
    FailsWith p ((x >>= f) s).1 := by
  show FailsWith p (Answer.bind x f s).1
  rw [Answer.bind]
  split
  · exact hf _ _
  · rename_i e s' hanswer
    rw [hanswer] at hx
    exact .error (hx e rfl)

namespace MemoryStore

/-- Records that are not given as rows are no failure about a URL. -/
lemma notUrl_of_rows (records : List Record) : FailsWith Error.NotUrl (rows records) := by
  induction records with
  | nil => exact .ok []
  | cons r rest ih =>
    unfold rows
    split
    · exact .error nofun
    · exact ih.bind fun _ => .ok _

/-- No answer of a store in memory is about a URL. -/
theorem answersNoUrl : AnswersNoUrl MemoryStore := by
  intro options store
  have hselect : FailsWith Error.NotUrl (store.select options) :=
    (notUrl_of_rows store.records).bind fun _ => .ok _
  have hmatching : FailsWith Error.NotUrl (matching options store).1 := hselect
  exact ⟨failsWith_bind hmatching fun _ _ => .ok _, failsWith_bind hmatching fun _ _ => .ok _⟩

end MemoryStore

namespace TableStore

/-- A failure of the store, unless the query breaks down. -/
def IsFailure : Interruption → Prop
  | .error e => ∃ problem, e = .storage problem
  | .breakdown => True

/-- What fails for a problem is a failure of the store. -/
lemma isFailure_fail {α : Type} (problem : String) :
    FailsWith IsFailure (Outcome.fail problem : Outcome α) :=
  .error ⟨problem, rfl⟩

/-- A result that may be missing fails only as a failure of the store. -/
lemma isFailure_orFail {α : Type} (problem : String) (a : Option α) :
    FailsWith IsFailure (Outcome.orFail problem a) := by
  cases a with
  | none => exact isFailure_fail problem
  | some a => exact .ok a

/-- A row that is not read is a failure of the store. -/
lemma isFailure_readRow (schema : Schema) (row : Sql.Row) :
    FailsWith IsFailure (readRow schema row) := by
  unfold readRow
  split
  · exact .error trivial
  · exact isFailure_orFail _ _

/-- Rows that are not read are a failure of the store. -/
lemma isFailure_readRows (schema : Schema) (rows : List Sql.Row) :
    FailsWith IsFailure (readRows schema rows) := by
  induction rows with
  | nil => exact .ok []
  | cons row rows ih =>
    exact (isFailure_readRow schema row).bind fun _ => ih.bind fun _ => .ok _

/-- A statement that is not prepared is a failure of the store. -/
lemma isFailure_prepare (store : TableStore) (columns : List String)
    (conditions : List Sql.Condition) (problem : String) :
    FailsWith IsFailure (store.prepare columns conditions problem) := by
  unfold prepare
  split
  · exact isFailure_fail _
  · dsimp only
    split
    · exact .ok _
    · exact isFailure_fail _

/-- Parameters that are not bound are a failure of the store. -/
lemma isFailure_bind (table : Sql.Table) (conditions : List Sql.Condition) (problem : String) :
    FailsWith IsFailure (bind table conditions problem) := by
  unfold bind
  split
  · exact .ok ()
  · exact isFailure_fail _

/-- Records that are not found are a failure of the store. -/
lemma isFailure_records (store : TableStore) (s : Sql.Select) :
    FailsWith IsFailure (store.records s) :=
  (isFailure_prepare store _ _ _).bind fun table => (isFailure_bind table _ _).bind fun _ =>
    isFailure_readRows store.schema (table.select s)

/-- Records that are not counted are a failure of the store. -/
lemma isFailure_total (store : TableStore) (s : Sql.Count) :
    FailsWith IsFailure (store.total s) :=
  (isFailure_prepare store _ _ _).bind fun table => (isFailure_bind table _ _).bind fun _ => .ok _

/-- A run alone on the store fails with no error about a URL if it fails as the store. -/
lemma notUrl_of_alone {α : Type} {run : TableStore → Outcome α} {store : TableStore}
    (h : FailsWith IsFailure (run store)) : FailsWith Error.NotUrl (alone run store).1 := by
  unfold alone
  split
  · exact .error nofun
  · split
    · exact .ok _
    · rename_i e he
      obtain ⟨problem, rfl⟩ := h _ he
      exact .error nofun
    · exact .error nofun

/-- A check of fields fails with no error about a URL. -/
lemma notUrl_of_checkFields (schema : Schema) (names : List String) :
    FailsWith Error.NotUrl (schema.checkFields names) := by
  unfold Schema.checkFields
  split
  · exact .error nofun
  · exact .ok ()

/-- No answer of a store in a table is about a URL. -/
theorem answersNoUrl : AnswersNoUrl TableStore := by
  intro options store
  have hselect : FailsWith Error.NotUrl (Sql.Select.ofOptions store.schema options) :=
    (notUrl_of_checkFields _ _).bind fun _ => .ok _
  have hcount : FailsWith Error.NotUrl (Sql.Count.ofOptions store.schema options) :=
    (notUrl_of_checkFields _ _).bind fun _ => .ok _
  constructor
  · dsimp only [Store.find]
    split
    · rename_i e he
      exact .error (hselect e he)
    · exact notUrl_of_alone (isFailure_records _ _)
  · dsimp only [Store.findAndCount]
    split
    · exact notUrl_of_alone ((isFailure_records _ _).bind fun _ =>
        (isFailure_total _ _).bind fun _ => .ok _)
    · rename_i e he
      exact .error (hselect e he)
    · rename_i e he _
      exact .error (hcount e he)

end TableStore

end PagedListing

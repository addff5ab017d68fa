import PagedListing.Proofs.Filter.Key
import PagedListing.Query.Compose

/-!
# Errors of composing

Whatever is wrong with a request is the fault of the client: every error of a directive key, of a
field, of a value, of a direction, of the page size and of the page number is classified so
(`clientFault_compose`), and so is a field of the overrides that is not declared
(`clientFault_check`). One lemma for each function follows its branches.
-/

namespace PagedListing
open PagedListing.Steps

/-- Every error of a step is one of the client. -/
abbrev ClientFault {α : Type} (x : Except Error α) : Prop :=
  FailsWith (fun e => e.isClientError = true) x

/-- A key is refused only through a fault of the client. -/
lemma clientFault_ofKey (key : String) : ClientFault (Directive.ofKey key) := by
  intro e h
  obtain rfl | ⟨token, rfl, -⟩ := Directive.ofKey_error h
  · rfl
  · rfl

/-- An unknown field is a fault of the client. -/
lemma clientFault_fieldType (schema : Schema) (field : String) :
    ClientFault (schema.fieldType field) := by
  unfold Schema.fieldType
  split
  · exact .ok _
  · exact .error rfl

/-- An operand is refused only through a fault of the client. -/
lemma clientFault_read (field : String) (type : FieldType) (raw : String) :
    ClientFault (Operand.read field type raw) := by
  unfold Operand.read
  split
  · exact .ok _
  · exact .error rfl

/-- An operator is refused only through a fault of the client. -/
lemma clientFault_build (operator : Operator) (field : String) (type : FieldType) (raw : String) :
    ClientFault (operator.build field type raw) := by
  unfold Operator.build
  cases operator with
  | compare relation => exact (clientFault_read _ _ _).bind fun _ => .ok _
  | between =>
    dsimp only
    split
    · refine (clientFault_read _ _ _).bind fun _ => ?_
      exact (clientFault_read _ _ _).bind fun _ => .ok _
    · exact .error rfl
  | among =>
    dsimp only
    split
    · exact .error rfl
    · exact (FailsWith.mapM (clientFault_read field type) _).bind fun _ => .ok _
  | like ignoreCase =>
    dsimp only
    split
    · exact .ok _
    · exact .error rfl

/-- A direction is refused only through a fault of the client. -/
lemma clientFault_direction (field value : String) : ClientFault (Direction.read field value) := by
  unfold Direction.read
  dsimp only
  split
  · exact .ok _
  · split
    · exact .ok _
    · exact .error rfl

/-- A parameter is refused only through a fault of the client. -/
lemma clientFault_add (schema : Schema) (draft : Draft) (param : String × String) :
    ClientFault (draft.add schema param) := by
  refine (clientFault_ofKey param.1).bind fun directive => ?_
  cases directive with
  | none => exact .ok draft
  | some directive =>
    refine (clientFault_fieldType schema directive.field).bind fun type => ?_
    cases directive with
    | filter field operator => exact (clientFault_build _ _ _ _).bind fun _ => .ok _
    | order field => exact (clientFault_direction _ _).bind fun _ => .ok _

/-- A page size is refused only through a fault of the client. -/
lemma clientFault_readTake (params : Params) (config : Config) :
    ClientFault (readTake params config) := by
  unfold readTake
  split
  · exact .ok _
  · split
    · exact .error rfl
    · split
      · exact .error rfl
      · split
        · exact .ok _
        · exact .ok _

/-- A page number is refused only through a fault of the client. -/
lemma clientFault_readPage (params : Params) : ClientFault (readPage params) := by
  unfold readPage
  split
  · exact .ok _
  · dsimp only
    split
    · exact .ok _
    · split
      · exact .error rfl
      · exact .ok _

/-- A request that cannot be composed is the fault of the client. -/
theorem clientFault_compose (params : Params) (schema : Schema) (config : Config) :
    ClientFault (compose params schema config) := by
  refine (FailsWith.foldlM (clientFault_add schema) _ _).bind fun draft => ?_
  refine (clientFault_readTake params config).bind fun take => ?_
  exact (clientFault_readPage params).bind fun page => .ok _

/-- Overrides on a field that is not declared are classified as a fault of the client, too. -/
lemma clientFault_check (overrides : Overrides) (schema : Schema) :
    ClientFault (overrides.check schema) := by
  unfold Overrides.check Schema.checkFields
  split
  · exact .error rfl
  · exact .ok _

end PagedListing

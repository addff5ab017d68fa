import Mathlib.Data.List.Nodup
import Mathlib.Tactic.Lemma
import PagedListing.Schema

/-!
# Declared fields

A check of names passes exactly if all of them are declared (`Schema.checkFields_eq_ok_iff`), and a
schema is valid exactly if its names are identifiers, it has fields and no field occurs twice
(`Schema.validate_eq_ok_iff`).
-/

namespace PagedListing.Schema

variable {schema : Schema}

/-- A field that is found is one of the schema and has the name. -/
lemma mem_of_field? {name : String} {field : Field} (h : schema.field? name = some field) :
    field ∈ schema.fields ∧ field.name = name :=
  ⟨List.mem_of_find?_eq_some h, by simpa using List.find?_some h⟩

/-- Among distinct names a look-up finds the field itself. -/
lemma field?_of_mem (nd : schema.fieldNames.Nodup) {field : Field} (h : field ∈ schema.fields) :
    schema.field? field.name = some field := by
  have hsome : (schema.field? field.name).isSome = true :=
    List.find?_isSome.mpr ⟨field, h, decide_eq_true rfl⟩
  obtain ⟨other, hother⟩ := Option.isSome_iff_exists.mp hsome
  obtain ⟨hmem, hname⟩ := mem_of_field? hother
  rw [hother, List.inj_on_of_nodup_map nd hmem h hname]

/-- A field of the schema has its type if no name stands twice. -/
lemma fieldType_of_mem (nd : schema.fieldNames.Nodup) {field : Field} (h : field ∈ schema.fields) :
    schema.fieldType field.name = .ok field.type := by
  rw [fieldType, field?_of_mem nd h]

/-- A field has a type if it is declared. -/
lemma exists_fieldType_iff {name : String} :
    (∃ type, schema.fieldType name = .ok type) ↔ schema.declares name = true := by
  rw [declares]
  unfold fieldType
  cases schema.field? name with
  | none => exact ⟨nofun, nofun⟩
  | some field => exact ⟨fun _ => rfl, fun _ => ⟨field.type, rfl⟩⟩

/-- A field with a type is declared. -/
lemma declares_of_fieldType {name : String} {type : FieldType}
    (h : schema.fieldType name = .ok type) : schema.declares name = true :=
  exists_fieldType_iff.mp ⟨type, h⟩

/-- A field has no type if it is not declared, and the error names it. -/
lemma fieldType_eq_error_iff {name : String} {e : Error} :
    schema.fieldType name = .error e ↔ schema.declares name = false ∧ e = .unknownField name := by
  rw [fieldType, declares]
  cases schema.field? name with
  | none =>
    constructor
    · rintro ⟨⟩
      exact ⟨rfl, rfl⟩
    · rintro ⟨-, rfl⟩
      rfl
  | some field => exact ⟨nofun, nofun⟩

/-- A declared field is among the names of the schema. -/
lemma mem_fieldNames_of_declares {name : String} (h : schema.declares name = true) :
    name ∈ schema.fieldNames := by
  obtain ⟨field, hfield⟩ := Option.isSome_iff_exists.mp h
  obtain ⟨hmem, rfl⟩ := mem_of_field? hfield
  exact List.mem_map_of_mem hmem

/-- A check of fields passes if all of them are declared. -/
theorem checkFields_eq_ok_iff {names : List String} :
    schema.checkFields names = .ok () ↔ ∀ name ∈ names, schema.declares name = true := by
  have hnone : names.find? (!schema.declares ·) = none ↔
      ∀ name ∈ names, schema.declares name = true := by
    simp [List.find?_eq_none]
  rw [← hnone, checkFields]
  split
  · rename_i name hfind
    rw [hfind]
    exact ⟨nofun, nofun⟩
  · rename_i hfind
    exact ⟨fun _ => hfind, fun _ => rfl⟩

/-- A check of names passes if all are new identifiers and none stands twice. -/
lemma checkNames_eq_ok_iff {entity : String} {seen names : List String} :
    checkNames entity seen names = .ok () ↔
      (∀ name ∈ names, isIdentifier name = true ∧ name ∉ seen) ∧ names.Nodup := by
  induction names generalizing seen with
  | nil => simp [checkNames]
  | cons name rest ih =>
    rw [checkNames, List.forall_mem_cons, List.nodup_cons]
    split
    · rename_i hname
      simp only [Bool.not_eq_true'] at hname
      simp [hname]
    · rename_i hname
      simp only [Bool.not_eq_true', Bool.not_eq_false] at hname
      split
      · rename_i hseen
        simp [hseen]
      · rename_i hseen
        rw [ih]
        simp only [hname, hseen, List.mem_cons, not_or, not_false_eq_true, and_self, true_and]
        constructor
        · rintro ⟨hrest, nd⟩
          exact ⟨fun n hn => ⟨(hrest n hn).1, (hrest n hn).2.2⟩,
            fun hmem => (hrest name hmem).2.1 rfl, nd⟩
        · rintro ⟨hrest, hnew, nd⟩
          refine ⟨fun n hn => ⟨(hrest n hn).1, ?_, (hrest n hn).2⟩, nd⟩
          rintro rfl
          exact hnew hn

/-- The valid schemas. -/
theorem validate_eq_ok_iff :
    schema.validate = .ok () ↔ isIdentifier schema.name = true ∧ schema.fields ≠ [] ∧
      (∀ name ∈ schema.fieldNames, isIdentifier name = true) ∧ schema.fieldNames.Nodup := by
  rw [validate]
  split
  · rename_i hname
    simp only [Bool.not_eq_true'] at hname
    simp [hname]
  · rename_i hname
    simp only [Bool.not_eq_true', Bool.not_eq_false] at hname
    split
    · rename_i hfields
      simp [List.isEmpty_iff.mp hfields]
    · rename_i hfields
      rw [List.isEmpty_iff] at hfields
      rw [checkNames_eq_ok_iff]
      simp [hname, hfields]

/-- The declared fields of a valid schema are identifiers. -/
lemma isIdentifier_of_declares (hschema : schema.validate = .ok ()) {name : String}
    (h : schema.declares name = true) : isIdentifier name = true := by
  obtain ⟨-, -, hnames, -⟩ := validate_eq_ok_iff.mp hschema
  exact hnames name (mem_fieldNames_of_declares h)

/-- A valid schema has fields. -/
lemma fieldNames_ne_nil (hschema : schema.validate = .ok ()) : schema.fieldNames ≠ [] := by
  obtain ⟨-, hfields, -⟩ := validate_eq_ok_iff.mp hschema
  exact mt List.map_eq_nil_iff.mp hfields

end PagedListing.Schema

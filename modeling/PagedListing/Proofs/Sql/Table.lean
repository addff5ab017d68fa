import PagedListing.Proofs.Maps
import PagedListing.Proofs.Sql.Condition
import PagedListing.Store.Memory

/-!
# Rows and JSON objects

An object mirrors a row when the forms of stored cells stand under the names of the fields
(`Mirrors`). Then the filters that hold of the object are the conditions that the row meets
(`Table.meets_conditionsOf`), and two rows stand in an ordering as the objects do
(`Table.compareRows_eq`).
-/

namespace PagedListing.Sql
open PagedListing.Time
open PagedListing.Number

/-- Under the name of each field stands the form of the cell of a row, which is stored. -/
def Mirrors (schema : Schema) (t : Table) (row : Row) (members : Members) : Prop :=
  ∀ name field, schema.field? name = some field →
    (t.cell row name).Stores field.type ∧ (t.cell row name).form? = some (members.value name)

/-! ## Orderings -/

section
variable {type : FieldType} {a b : Cell} {v w : Json}

/-- Cells are compared as their forms are. -/
lemma compareValues_form (ha : a.Stores type) (hb : b.Stores type) (hv : a.form? = some v)
    (hw : b.form? = some w) (hanull : a.isNull = false) (hbnull : b.isNull = false) :
    compareValues (some type) v w = (a.compare? b).getD .eq := by
  cases ha with
  | null => cases hanull
  | integer m =>
    cases hb with
    | null => cases hbnull
    | integer n =>
      cases hv
      cases hw
      show (compareNumbers? (.int m.toInt) (.int n.toInt)).getD .eq = compare m.toInt n.toInt
      simp only [compareNumbers?, Json.asInt64?, int64?_toInt, Option.getD_some]
  | text s =>
    cases hb with
    | null => cases hbnull
    | text t =>
      cases hv
      cases hw
      rfl
  | boolean s =>
    cases hb with
    | null => cases hbnull
    | boolean t =>
      cases hv
      cases hw
      rfl
  | timestamp m hm =>
    cases hb with
    | null => cases hbnull
    | timestamp n hn =>
      have hm := Instant.isPlain_ofMicros hm
      have hn := Instant.isPlain_ofMicros hn
      rw [Cell.form?_timestamp hm] at hv
      rw [Cell.form?_timestamp hn] at hw
      cases hv
      cases hw
      have hvalues (s t : String) : compareValues (some .timestamp) (.str s) (.str t) =
          compareInstants (Instant.read? s) (Instant.read? t) := rfl
      rw [Cell.compare?_timestamp, hvalues, Instant.read?_zuluMicroText hm,
        Instant.read?_zuluMicroText hn]
      rfl

end

variable {schema : Schema} {t : Table} {a b : Row} {ms ns : Members}

/-- Two rows stand in an ordering by one column as their objects by the field. -/
lemma compareCells_eq (ha : Mirrors schema t a ms) (hb : Mirrors schema t b ns)
    {entry : String × Direction} (h : schema.declares entry.1 = true) :
    Table.compareCells entry.2 (t.cell a entry.1) (t.cell b entry.1) =
      compareField schema entry ms ns := by
  obtain ⟨field, hfield⟩ := Option.isSome_iff_exists.mp h
  obtain ⟨hastores, haform⟩ := ha entry.1 field hfield
  obtain ⟨hbstores, hbform⟩ := hb entry.1 field hfield
  have hanull := Cell.isNull_form hastores haform
  have hbnull := Cell.isNull_form hbstores hbform
  simp only [Table.compareCells, compareField, hanull, hbnull, hfield, Option.map_some]
  cases hac : (t.cell a entry.1).isNull with
  | true => cases (t.cell b entry.1).isNull <;> rfl
  | false =>
    cases hbc : (t.cell b entry.1).isNull with
    | true => rfl
    | false =>
      show entry.2.apply _ = entry.2.apply _
      rw [compareValues_form hastores hbstores haform hbform hac hbc]

/-- Two rows stand in an ordering by declared fields as their objects do. -/
theorem Table.compareRows_eq (ha : Mirrors schema t a ms) (hb : Mirrors schema t b ns)
    {order : List (String × Direction)} (h : ∀ entry ∈ order, schema.declares entry.1 = true) :
    t.compareRows order a b = PagedListing.compareRows schema order ms ns := by
  induction order with
  | nil => rfl
  | cons entry rest ih =>
    have hentry := compareCells_eq ha hb (h entry List.mem_cons_self)
    have hrest := ih fun e he => h e (List.mem_cons_of_mem entry he)
    show (Table.compareCells entry.2 (t.cell a entry.1) (t.cell b entry.1)).then
      (t.compareRows rest a b) = _
    rw [hentry, hrest]
    rfl

/-! ## Conditions -/

/-- A filter that an operator made for a declared field of a table. Timestamps are bound without loss,
and the case of letters is set aside in texts of ASCII only. -/
structure PortableFilter (schema : Schema) (t : Table) (entry : String × Predicate) : Prop where
  built : ∃ field op raw, schema.field? entry.1 = some field ∧
    Operator.build op entry.1 field.type raw = .ok entry.2
  bindable : Bindable entry.2
  ascii : ∀ needle, entry.2 = .like needle true → IsAscii needle ∧
    ∀ row ∈ t.rows, ∀ s, t.cell row entry.1 = .text s → IsAscii s

/-- A row meets the condition of a filter exactly when the predicate holds of the object. -/
lemma truth_entry {row : Row} (hrow : row ∈ t.rows) (hms : Mirrors schema t row ms)
    {entry : String × Predicate} (h : PortableFilter schema t entry) :
    ((Condition.ofPredicate entry.1 entry.2).truth (t.cell row entry.1) == some true) =
      entry.2.holds (ms.value entry.1) := by
  obtain ⟨field, op, raw, hfield, hbuild⟩ := h.built
  obtain ⟨hstores, hform⟩ := hms entry.1 field hfield
  have htruth := Condition.truth_ofPredicate entry.1 hstores hform (Predicate.suits_of_build hbuild)
    h.bindable fun needle e => ⟨(h.ascii needle e).1, (h.ascii needle e).2 row hrow⟩
  rw [Bool.eq_iff_iff, beq_iff_eq]
  exact htruth

/-- A row meets the conditions of filters exactly when the filters hold of the object. -/
theorem Table.meets_conditionsOf {row : Row} (hrow : row ∈ t.rows) (hms : Mirrors schema t row ms)
    {filters : FilterSet} (h : ∀ entry ∈ filters.entries, PortableFilter schema t entry) :
    t.meets (conditionsOf filters) row = filters.holds ms := by
  rw [Table.meets, conditionsOf, List.all_map, FilterSet.holds, Bool.eq_iff_iff, List.all_eq_true,
    List.all_eq_true]
  refine forall_congr' fun entry => forall_congr' fun hentry => ?_
  rw [← truth_entry hrow hms (h entry hentry), Function.comp_apply, Condition.column_ofPredicate]

end PagedListing.Sql

import PagedListing.Proofs.Sql.Date
import PagedListing.Proofs.Sql.Timestamp
import PagedListing.Proofs.Store.Table

/-!
# Rows as objects

A selected row has one cell for each field. Where every cell has a form, the object of the row has the
names of the fields and under each name the form of the cell in its place (`Decodes`), and it is the
only such object (`members?_eq_some_iff`): the names of a valid schema are distinct, so the place and
the name of a field tell the same.
-/

namespace PagedListing
open PagedListing.Sql
open PagedListing.Steps

/-! ## Cells -/

/-- All cells have a form but dates too far ahead to be counted from the year 1. -/
lemma Sql.Cell.exists_form?_iff {cell : Cell} :
    (∃ v, cell.form? = some v) ↔
      ∀ days, cell = .date days → days.toInt + 719163 ≤ Int32.maxValue.toInt := by
  cases cell with
  | null => exact ⟨fun _ => nofun, fun _ => ⟨_, rfl⟩⟩
  | boolean b => exact ⟨fun _ => nofun, fun _ => ⟨_, rfl⟩⟩
  | integer kind n => cases kind <;> exact ⟨fun _ => nofun, fun _ => ⟨_, rfl⟩⟩
  | float kind x => exact ⟨fun _ => nofun, fun _ => ⟨_, rfl⟩⟩
  | text s => exact ⟨fun _ => nofun, fun _ => ⟨_, rfl⟩⟩
  | blob bytes => exact ⟨fun _ => nofun, fun _ => ⟨_, rfl⟩⟩
  | timestamp unit count =>
    exact ⟨fun _ => nofun, fun _ => ⟨_, form?_timestamp_eq unit count⟩⟩
  | date days =>
    have hordinal : (∃ v, (Cell.date days).form? = some v) ↔ HasOrdinal days := by
      rw [form?_date_eq]
      split
      · rename_i h
        exact iff_of_true ⟨_, rfl⟩ h
      · rename_i h
        exact iff_of_false nofun h
    rw [hordinal, hasOrdinal_iff]
    simp
  | time micros => exact ⟨fun _ => nofun, fun _ => ⟨_, rfl⟩⟩
  | interval months days nanos => exact ⟨fun _ => nofun, fun _ => ⟨_, rfl⟩⟩
  | list items => exact ⟨fun _ => nofun, fun _ => ⟨_, rfl⟩⟩

/-! ## Objects -/

/-- Among distinct names, the value of a name is the value that stands beside it. -/
lemma Members.value_of_mem {members : Members} (nd : (entryNames members).Nodup)
    {entry : String × Json} (h : entry ∈ members) : members.value entry.1 = entry.2 := by
  have nd : (entryNames members.reverse).Nodup := by
    rw [entryNames, List.map_reverse, List.nodup_reverse]
    exact nd
  rw [value, find?_eq_some_of_mem nd (List.mem_reverse.mpr h)]

/-- The object of a row under a schema: its names are the names of the fields, and the value of the
field in a place is the form of the cell in the same place. -/
structure Decodes (schema : Schema) (row : Row) (members : Members) : Prop where
  names : entryNames members = schema.fieldNames
  value : ∀ (i : Nat) (field : Field) (cell : Cell), schema.fields[i]? = some field →
    row[i]? = some cell → cell.form? = some (members.value field.name)

/-- A record that is read from a row: its form is the object of the row, which has its number. -/
def Record.Reads (schema : Schema) (r : Record) (row : Row) : Prop :=
  ∃ members, Decodes schema row members ∧ r.form = .ok (.obj members) ∧
    (members.value "id").asInt64? = some r.id

namespace TableStore

variable {schema : Schema} {row : Row} {members : Members}

/-- The members of a row are the forms of its cells under the names of the fields. -/
lemma members?_eq_some_iff_zip :
    members? schema row = some members ↔
      ∃ forms, row.mapM Cell.form? = some forms ∧ schema.fieldNames.zip forms = members := by
  rw [members?]
  exact Option.bind_eq_some_iff.trans (by simp)

/-- Forms under the names of the fields decode the row whose forms they are. -/
lemma decodes_zip (nd : schema.fieldNames.Nodup) (hrow : row.length = schema.fields.length)
    {forms : List Json} (hforms : row.mapM Cell.form? = some forms) :
    Decodes schema row (schema.fieldNames.zip forms) := by
  obtain ⟨hlength, hform⟩ := List.forall₂_iff_get.mp (mapM_eq_some_iff.mp hforms)
  have hnames : entryNames (schema.fieldNames.zip forms) = schema.fieldNames :=
    List.map_fst_zip (by simp [Schema.fieldNames, ← hrow, hlength])
  have hdistinct : (entryNames (schema.fieldNames.zip forms)).Nodup := by
    rw [hnames]
    exact nd
  refine ⟨hnames, fun i field cell hfield hcell => ?_⟩
  obtain ⟨hi, rfl⟩ := List.getElem?_eq_some_iff.mp hcell
  have hmem : (field.name, forms[i]) ∈ schema.fieldNames.zip forms := by
    refine List.mem_of_getElem? (i := i) ?_
    rw [List.getElem?_zip_eq_some]
    exact ⟨by simp [Schema.fieldNames, hfield], List.getElem?_eq_getElem _⟩
  rw [Members.value_of_mem hdistinct hmem]
  exact hform i hi (hlength ▸ hi)

/-- Members that decode a row are in their places the forms of its cells. -/
lemma mapM_form?_of_decodes (nd : schema.fieldNames.Nodup)
    (hrow : row.length = schema.fields.length) (h : Decodes schema row members) :
    row.mapM Cell.form? = some (members.map (·.2)) := by
  have hlength : members.length = schema.fields.length := by
    have := congrArg List.length h.names
    simpa [Schema.fieldNames, entryNames] using this
  rw [mapM_eq_some_iff, List.forall₂_map_right_iff, List.forall₂_iff_get]
  refine ⟨hrow.trans hlength.symm, fun i hi hi' => ?_⟩
  have hfield : schema.fields[i]? = some schema.fields[i] := List.getElem?_eq_getElem _
  -- the names tell which member stands in the place of the field
  have hname : schema.fields[i].name = members[i].1 := by
    have := congrArg (·[i]?) h.names
    simpa [Schema.fieldNames, entryNames, hfield, hi', eq_comm] using this
  have hvalue := h.value i _ _ hfield (List.getElem?_eq_getElem hi)
  rw [hname, Members.value_of_mem (h.names ▸ nd) (List.getElem_mem hi')] at hvalue
  exact hvalue

/-- A row of one cell for each field has one object at most, and it is the one that decodes it. -/
theorem members?_eq_some_iff (nd : schema.fieldNames.Nodup)
    (hrow : row.length = schema.fields.length) :
    members? schema row = some members ↔ Decodes schema row members := by
  rw [members?_eq_some_iff_zip]
  constructor
  · rintro ⟨forms, hforms, rfl⟩
    exact decodes_zip nd hrow hforms
  · intro h
    exact ⟨_, mapM_form?_of_decodes nd hrow h, (List.zip_of_prod h.names rfl).symm⟩

/-- A row has an object unless one of its cells has no form. -/
lemma exists_members?_iff :
    (∃ members, members? schema row = some members) ↔
      ∀ days, Cell.date days ∈ row → days.toInt + 719163 ≤ Int32.maxValue.toInt := by
  have hmapM : (∃ members, members? schema row = some members) ↔
      ∃ forms, row.mapM Cell.form? = some forms := by
    simp only [members?_eq_some_iff_zip]
    constructor
    · rintro ⟨_, forms, hforms, -⟩
      exact ⟨forms, hforms⟩
    · rintro ⟨forms, hforms⟩
      exact ⟨_, forms, hforms, rfl⟩
  rw [hmapM, exists_mapM_eq_some_iff]
  simp only [Cell.exists_form?_iff]
  constructor
  · intro h days hmem
    exact h _ hmem days rfl
  · rintro h cell hmem days rfl
    exact h days hmem

/-! ## Records of a query -/

variable {store : TableStore} {r : Record} {found : List Record} {rows : List Row}

/-- A row is read as the record that shows it and whose number stands in it. -/
lemma readRow_eq_ok_iff :
    readRow schema row = .ok r ↔
      ∃ members, members? schema row = some members ∧ r.form = .ok (.obj members) ∧
        (members.value "id").asInt64? = some r.id := by
  constructor
  · intro h
    rw [readRow] at h
    cases hmembers : members? schema row with
    | none =>
      rw [hmembers] at h
      cases h
    | some members =>
      rw [hmembers] at h
      cases hid : (members.value "id").asInt64? with
      | none => simp [record?, hid, Outcome.orFail, Outcome.fail] at h
      | some id =>
        simp only [record?, hid, Outcome.orFail] at h
        cases h
        exact ⟨members, rfl, rfl, hid⟩
  · rintro ⟨members, hmembers, hform, hid⟩
    have e : r.members = members := by rw [Record.members, Record.toJson, hform]; rfl
    exact readRow_eq ⟨members, hmembers, hform⟩ (e ▸ hid)

/-- Rows are read one by one. -/
lemma readRows_eq_mapM (rows : List Row) : readRows schema rows = rows.mapM (readRow schema) := by
  induction rows with
  | nil => rfl
  | cons row rows ih => rw [readRows, List.mapM_cons, ih]

/-- Rows are read when every one of them is, each as a record of its own. -/
lemma readRows_eq_ok_iff :
    readRows schema rows = .ok found ↔
      List.Forall₂ (fun r row => readRow schema row = .ok r) found rows := by
  rw [readRows_eq_mapM, mapM_eq_ok_iff]
  exact ⟨List.Forall₂.flip, List.Forall₂.flip⟩

/-- Rows are read if they read as the records, one by one. -/
lemma readRows_eq_ok_iff_reads (nd : schema.fieldNames.Nodup)
    (hrows : ∀ row ∈ rows, row.length = schema.fields.length) :
    readRows schema rows = .ok found ↔ List.Forall₂ (Record.Reads schema) found rows := by
  have hrow : ∀ r row, row ∈ rows → (readRow schema row = .ok r ↔ r.Reads schema row) := by
    intro r row hmem
    simp only [readRow_eq_ok_iff, members?_eq_some_iff nd (hrows row hmem)]
    rfl
  rw [readRows_eq_ok_iff, List.forall₂_iff_zip, List.forall₂_iff_zip]
  refine and_congr_right fun _ => ⟨fun h r row hmem => ?_, fun h r row hmem => ?_⟩
  · exact (hrow r row (List.of_mem_zip hmem).2).mp (h hmem)
  · exact (hrow r row (List.of_mem_zip hmem).2).mpr (h hmem)

/-- A statement gives the records that are read from the rows that it selects. -/
lemma records_eq_ok_iff {s : Select} :
    store.records s = .ok found ↔ ∃ t,
      store.prepare (s.columns ++ s.order.map (·.1)) s.conditions = .ok t ∧
      bind t s.conditions = .ok () ∧ readRows store.schema (t.select s) = .ok found := by
  rw [records, bind_eq_ok_iff]
  refine exists_congr fun t => and_congr_right fun _ => bind_eq_ok_iff.trans ?_
  constructor
  · rintro ⟨_, hbind, h⟩
    exact ⟨hbind, h⟩
  · rintro ⟨hbind, h⟩
    exact ⟨(), hbind, h⟩

/-- What is prepared is a statement on the table of the store. -/
lemma table_of_prepare {columns : List String} {conditions : List Condition} {t : Sql.Table}
    (h : store.prepare columns conditions = .ok t) : store.table = some t := by
  rw [prepare] at h
  cases htable : store.table with
  | none =>
    rw [htable] at h
    cases h
  | some table =>
    rw [htable] at h
    dsimp only at h
    split at h
    · cases h
      rfl
    · cases h

/-- The columns of a statement are the fields of the schema. -/
lemma columns_of_ofOptions {options : FindOptions} {s : Select}
    (h : Select.ofOptions schema options = .ok s) : s.columns = schema.fieldNames := by
  obtain ⟨_, -, h⟩ := bind_eq_ok_iff.mp h
  cases h
  rfl

/-- A selected row has a cell for each column: the cell that some row of the table has in it. -/
lemma exists_of_mem_select {t : Sql.Table} {s : Select} (h : row ∈ t.select s) :
    ∃ stored ∈ t.rows, row = s.columns.map (t.cell stored) := by
  rw [Sql.Table.select] at h
  obtain ⟨stored, hstored, rfl⟩ := List.mem_map.mp h
  refine ⟨stored, ?_, rfl⟩
  have hdrop : stored ∈ (t.found s.conditions s.order).drop (s.offset.getD 0).toNat := by
    revert hstored
    cases s.limit with
    | none => exact id
    | some n => exact List.mem_of_mem_take
  exact (List.mem_filter.mp (List.mem_mergeSort.mp (List.mem_of_mem_drop hdrop))).1

/-- Reading a row under a valid schema loses and mixes nothing: every field is found with its type, and
a row of one cell a field has an object exactly if its dates have day numbers of 32 bits. The records of
a query are those that decode the selected rows, in their order. -/
theorem rows_decoded (schema : Schema) :
    (schema.validate = .ok () ↔ isIdentifier schema.name = true ∧ schema.fields ≠ [] ∧
      (∀ field ∈ schema.fields, isIdentifier field.name = true) ∧
      schema.fields.Pairwise fun first second => first.name ≠ second.name) ∧
    (schema.validate = .ok () →
      (∀ field ∈ schema.fields, schema.fieldType field.name = .ok field.type) ∧
      (∀ row, row.length = schema.fields.length →
        (∀ members, members? schema row = some members ↔ Decodes schema row members) ∧
        ((∃ members, members? schema row = some members) ↔
          ∀ days, Cell.date days ∈ row → days.toInt + 719163 ≤ Int32.maxValue.toInt)) ∧
      ∀ (store : TableStore) (options : FindOptions) (s : Select), store.schema = schema →
        Select.ofOptions schema options = .ok s →
        s.columns = schema.fieldNames ∧
        ∀ found, store.records s = .ok found ↔ ∃ t,
          store.prepare (s.columns ++ s.order.map (·.1)) s.conditions = .ok t ∧
          bind t s.conditions = .ok () ∧
          store.table = some t ∧
          (∀ row ∈ t.select s, ∃ stored ∈ t.rows, row = schema.fieldNames.map (t.cell stored)) ∧
          List.Forall₂ (Record.Reads schema) found (t.select s)) := by
  have hvalid : schema.validate = .ok () → schema.fieldNames.Nodup := by
    intro h
    obtain ⟨-, -, -, nd⟩ := Schema.validate_eq_ok_iff.mp h
    exact nd
  refine ⟨?_, fun h => ⟨fun field => Schema.fieldType_of_mem (hvalid h), fun row hrow => ?_, ?_⟩⟩
  · rw [Schema.validate_eq_ok_iff, Schema.fieldNames, List.forall_mem_map, List.Nodup,
      List.pairwise_map]
  · exact ⟨fun members => members?_eq_some_iff (hvalid h) hrow, exists_members?_iff⟩
  · rintro store options s rfl hs
    have hcolumns := columns_of_ofOptions hs
    refine ⟨hcolumns, fun found => records_eq_ok_iff.trans (exists_congr fun t => ?_)⟩
    refine and_congr_right fun hprepare => and_congr_right fun _ => ?_
    have hselect : ∀ row ∈ t.select s,
        ∃ stored ∈ t.rows, row = store.schema.fieldNames.map (t.cell stored) :=
      hcolumns ▸ fun row hrow => exists_of_mem_select hrow
    have hlength : ∀ row ∈ t.select s, row.length = store.schema.fields.length := by
      intro row hrow
      obtain ⟨stored, -, rfl⟩ := hselect row hrow
      rw [List.length_map, Schema.fieldNames, List.length_map]
    rw [readRows_eq_ok_iff_reads (hvalid h) hlength]
    exact ⟨fun hfound => ⟨table_of_prepare hprepare, hselect, hfound⟩, fun hfound => hfound.2.2⟩

/-- A row of an event and its object, a row that has no object, and the events of a table. -/
theorem rows_decoded_events :
    eventSchema.validate = .ok () ∧ eventSchema.fieldType "title" = .ok .text ∧
      Decodes eventSchema [.integer .big 1, .text "Talk", .date 0]
        [("id", .int 1), ("title", .str "Talk"), ("at", .str "1970-01-01")] ∧
      (¬ ∃ members, members? eventSchema [.integer .big 1, .text "Talk", .date Int32.maxValue] =
        some members) ∧
      ∃ s found, Select.ofOptions eventSchema {} = .ok s ∧
        (⟨eventSchema, eventTable, false⟩ : TableStore).records s = .ok found ∧
        List.Forall₂ (Record.Reads eventSchema) found (eventTable.select s) := by
  obtain ⟨hvalidate, hvalid⟩ := rows_decoded eventSchema
  have h : eventSchema.validate = .ok () := hvalidate.mpr (by decide)
  obtain ⟨htype, hrow, hquery⟩ := hvalid h
  have hall : eventTable.found [] [] = eventTable.rows := by
    simp +decide [Sql.Table.found, List.mergeSort, eventTable]
  have hselect : eventTable.select (selectOf eventSchema {}) = eventTable.rows := by
    show (eventTable.found [] []).map _ = _
    rw [hall]
    rfl
  have hrun : (⟨eventSchema, eventTable, false⟩ : TableStore).records (selectOf eventSchema {}) =
      .ok events.records := by
    refine records_eq_ok_iff.mpr ⟨eventTable, rfl, rfl, ?_⟩
    rw [hselect]
    rfl
  refine ⟨h, htype ⟨"title", .text⟩ (by decide), ((hrow _ rfl).1 _).mp rfl, ?_, ?_⟩
  · rw [(hrow _ rfl).2]
    intro hdays
    exact absurd (hdays Int32.maxValue (by simp)) (by decide)
  · obtain ⟨-, hfound⟩ := hquery ⟨eventSchema, eventTable, false⟩ {} _ rfl rfl
    obtain ⟨t, -, -, ht, -, hreads⟩ := (hfound _).mp hrun
    cases ht
    exact ⟨_, _, rfl, hrun, hreads⟩

end TableStore

end PagedListing

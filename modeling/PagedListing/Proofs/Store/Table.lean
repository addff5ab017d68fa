import Mathlib.Data.List.Forall2
import PagedListing.Proofs.Sql.Meaning
import PagedListing.Proofs.Sql.Statement
import PagedListing.Proofs.Sql.Table
import PagedListing.Proofs.Store.Memory
import PagedListing.Store.Table

/-!
# Stores over tables and in memory

A store over a table answers like a store in memory that holds the JSON objects of its rows
(`TableStore.refines_memory`). What it answers is what an engine answers to the texts of its statements
with their parameters (`TableStore.records_of_execute?`, `TableStore.total_of_execute?`). The rows and
the objects are paired: filters and ordering treat both sides of a pair alike (`exists_pairs`), so what
is found, sorted and cut on one side is the other side of what is found, sorted and cut on the other.
-/

namespace PagedListing
open PagedListing.Sql
open PagedListing.Steps

/-! ## Objects of rows -/

/-- A record is the JSON object of the cells of a selected row. -/
def Record.Shows (schema : Schema) (r : Record) (cells : Row) : Prop :=
  ∃ members, TableStore.members? schema cells = some members ∧ r.form = .ok (.obj members)

/-- A table has a column for each field of a schema, and in it cells of the column type. -/
structure Sql.Table.Fits (t : Sql.Table) (schema : Schema) : Prop where
  columns : ∀ field ∈ schema.fields, (t.position? field.name).isSome = true
  cells : ∀ row ∈ t.rows, ∀ field ∈ schema.fields, (t.cell row field.name).Stores field.type

/-- Forms of cells, one for each name. -/
lemma mapM_form? {names : List String} {cell : String → Cell} {form : String → Json}
    (h : ∀ name ∈ names, (cell name).form? = some (form name)) :
    (names.map cell).mapM Cell.form? = some (names.map form) := by
  induction names with
  | nil => rfl
  | cons name names ih =>
    have hfirst := h name List.mem_cons_self
    have hrest := ih fun n hn => h n (List.mem_cons_of_mem name hn)
    rw [List.map_cons, List.mapM_cons, hfirst, hrest]
    rfl

/-- Members that are made of names have their values under them. -/
lemma value_map {names : List String} {name : String} (form : String → Json) (h : name ∈ names) :
    Members.value (names.map fun n => (n, form n)) name = form name := by
  have hfind : names.reverse.find? (fun n => decide (n = name)) = some name := by
    have hsome : (names.reverse.find? fun n => decide (n = name)).isSome = true :=
      List.find?_isSome.mpr ⟨name, List.mem_reverse.mpr h, decide_eq_true rfl⟩
    obtain ⟨other, hother⟩ := Option.isSome_iff_exists.mp hsome
    have e : other = name := by simpa using List.find?_some hother
    rw [hother, e]
  have hmembers : (names.map fun n => (n, form n)).reverse.find? (fun entry => decide (entry.1 = name)) =
      some (name, form name) := by
    rw [← List.map_reverse, List.find?_map]
    show (names.reverse.find? fun n => decide (n = name)).map _ = _
    rw [hfind, Option.map_some]
  rw [Members.value, hmembers]

variable {schema : Schema} {t : Sql.Table} {row : Row}

/-- A row of stored cells has an object, and the object mirrors the row. -/
theorem exists_members? (h : t.Fits schema) (hrow : row ∈ t.rows) :
    ∃ members, TableStore.members? schema (schema.fieldNames.map (t.cell row)) = some members ∧
      Mirrors schema t row members := by
  have hforms : ∀ name ∈ schema.fieldNames,
      (t.cell row name).form? = some ((t.cell row name).form?.getD .null) := by
    intro name hname
    obtain ⟨field, hfield, rfl⟩ := List.mem_map.mp hname
    obtain ⟨v, hv⟩ := Cell.exists_form? (h.cells row hrow field hfield)
    rw [hv, Option.getD_some]
  refine ⟨schema.fieldNames.map fun name => (name, (t.cell row name).form?.getD .null), ?_, ?_⟩
  · have hzip := List.zip_map' (f := id) (g := fun name => (t.cell row name).form?.getD .null)
      (l := schema.fieldNames)
    rw [List.map_id] at hzip
    rw [TableStore.members?, mapM_form? hforms]
    exact congrArg some hzip
  · intro name field hfield
    obtain ⟨hmem, rfl⟩ := Schema.mem_of_field? hfield
    have hname : field.name ∈ schema.fieldNames := List.mem_map_of_mem hmem
    rw [value_map _ hname]
    exact ⟨h.cells row hrow field hmem, hforms field.name hname⟩

/-- The object of a record that shows a row mirrors the row. -/
lemma mirrors_of_shows {r : Record} (h : t.Fits schema) (hrow : row ∈ t.rows)
    (hshows : r.Shows schema (schema.fieldNames.map (t.cell row))) :
    Mirrors schema t row r.members := by
  obtain ⟨members, hmembers, hform⟩ := hshows
  obtain ⟨mirrored, hmirrored, hmirrors⟩ := exists_members? h hrow
  rw [hmembers] at hmirrored
  cases hmirrored
  have e : r.members = members := by rw [Record.members, Record.toJson, hform]; rfl
  rw [e]
  exact hmirrors

/-! ## Pairs of records and rows -/

/-- Find options that a table is asked for: filters of declared fields, and an ordering by such. -/
structure FindOptions.Portable (options : FindOptions) (schema : Schema) (t : Sql.Table) : Prop where
  filters : ∀ entry ∈ options.filters.entries, PortableFilter schema t entry
  order : ∀ entry ∈ options.order.entries, schema.declares entry.1 = true

/-- As many rows are found as meet the conditions. -/
lemma Sql.Table.length_found (t : Sql.Table) (conditions : List Condition)
    (order : List (String × Direction)) :
    (t.found conditions order).length = (t.rows.filter (t.meets conditions)).length :=
  List.length_mergeSort _

/-- A window of mapped rows is the mapped window. -/
lemma window_map {α β : Type} (options : FindOptions) (f : α → β) (l : List α) :
    window options (l.map f) = (window options l).map f := by
  simp only [window, ← List.map_drop]
  cases options.take with
  | none => rfl
  | some n => exact List.map_take.symm

/-- Whether a pair may stand before another one: the records decide. -/
def pairLe (schema : Schema) (order : OrderSpec) (a b : Record × Row) : Bool :=
  rowLe schema order a.1 b.1

/-- The listing of the records and what is found of the rows are the two sides of the same pairs. -/
theorem exists_pairs {options : FindOptions} {pairs : List (Record × Row)}
    (hrows : ∀ pair ∈ pairs, pair.2 ∈ t.rows)
    (hmirrors : ∀ pair ∈ pairs, Mirrors schema t pair.2 pair.1.members)
    (hoptions : options.Portable schema t) (e : t.rows = pairs.map Prod.snd) :
    ∃ found : List (Record × Row), (∀ pair ∈ found, pair ∈ pairs) ∧
      listing schema options.filters options.order (pairs.map Prod.fst) = found.map Prod.fst ∧
      t.found (conditionsOf options.filters) options.order.entries = found.map Prod.snd := by
  have hmeets : pairs.filter (t.meets (conditionsOf options.filters) ∘ Prod.snd) =
      pairs.filter (options.filters.admits ∘ Prod.fst) := by
    refine List.filter_congr fun pair hpair => ?_
    exact Table.meets_conditionsOf (hrows pair hpair) (hmirrors pair hpair) hoptions.filters
  refine ⟨(pairs.filter (options.filters.admits ∘ Prod.fst)).mergeSort
    (pairLe schema options.order), ?_, ?_, ?_⟩
  · intro pair hpair
    exact (List.mem_filter.mp (List.mem_mergeSort.mp hpair)).1
  · rw [listing, List.filter_map]
    exact (List.map_mergeSort (r := pairLe schema options.order) (f := Prod.fst) fun _ _ _ _ => rfl).symm
  · -- the rows are compared by their cells, but for rows of pairs this is how the records compare
    rw [Table.found, e, List.filter_map, hmeets]
    refine (List.map_mergeSort fun a ha b hb => ?_).symm
    have hle := Table.compareRows_eq (hmirrors a (List.mem_filter.mp ha).1)
      (hmirrors b (List.mem_filter.mp hb).1) hoptions.order
    show rowLe schema options.order a.1 b.1 = _
    rw [hle, rowLe]

/-! ## Statements that run -/

namespace TableStore

variable {store : TableStore}

/-- The tables that the statements of a store can name. -/
def tables (store : TableStore) (name : String) : Option Sql.Table :=
  if name = store.schema.name then store.table else none

/-- The tables of a store are its own under the name of its schema. -/
lemma tables_schema (htable : store.table = some t) {name : String} (hname : name = store.schema.name) :
    store.tables name = some t :=
  (if_pos hname).trans htable

/-- A statement is prepared on a table that has its columns. -/
lemma prepare_eq (htable : store.table = some t) {s : Statement} {conditions : List Condition}
    (htests : s.tests = conditions.map Test.ofCondition) (problem : String) :
    store.prepare s.columns conditions problem = if s.isKnown t then .ok t else .fail problem := by
  rw [prepare, htable, s.isKnown_eq t htests]

/-- A statement is run if its values can be read. -/
lemma bind_eq {s : Statement} {conditions : List Condition}
    (htests : s.tests = conditions.map Test.ofCondition) (problem : String) :
    TableStore.bind t conditions problem = if s.isBound t then .ok () else .fail problem := by
  rw [TableStore.bind, s.isBound_eq t htests]

/-- A statement for records is prepared and bound, and then its rows are read. -/
lemma records_eq (htable : store.table = some t) (s : Select) :
    store.records s = if (Statement.ofSelect s).isKnown t then
      if (Statement.ofSelect s).isBound t then readRows store.schema (t.select s)
      else .fail "Failed to run query" else .fail "Failed to prepare query" := by
  have htests : (Statement.ofSelect s).tests = s.conditions.map Test.ofCondition := rfl
  have hprepare := prepare_eq htable htests "Failed to prepare query"
  rw [Statement.columns_ofSelect] at hprepare
  rw [records, hprepare]
  split
  · show (bind t s.conditions >>= fun _ => _) = _
    rw [bind_eq htests]
    split <;> rfl
  · rfl

/-- A statement for the number of records is prepared and bound, and then its rows are counted. -/
lemma total_eq (htable : store.table = some t) (s : Count) :
    store.total s = if (Statement.ofCount s).isKnown t ∧ (Statement.ofCount s).isBound t then
      .ok (t.count s) else .fail "Failed to count rows" := by
  have htests : (Statement.ofCount s).tests = s.conditions.map Test.ofCondition := rfl
  have hprepare := prepare_eq htable htests "Failed to count rows"
  rw [total]
  show (store.prepare (Statement.ofCount s).columns s.conditions _ >>= fun _ => _) = _
  rw [hprepare, ite_and]
  split
  · show (bind t s.conditions _ >>= fun _ => _) = _
    rw [bind_eq htests]
    split <;> rfl
  · rfl

/-- Without a table nothing is answered. -/
lemma execute?_eq_none {text : String} {values : List Param} {s : Statement}
    (hread : Statement.read? text values = some s) (hname : s.table = store.schema.name)
    (htable : store.table = none) : execute? store.tables text values = none := by
  have htables : store.tables s.table = none := (if_pos hname).trans htable
  rw [execute?, hread]
  show (store.tables s.table).bind _ = none
  rw [htables]
  rfl

/-- The records of a store are those of the rows that an engine answers to the text of the statement and
its parameters; without an answer the store fails. -/
theorem records_of_execute? {s : Select} (hcolumns : s.columns ≠ [])
    (hname : s.table = store.schema.name) :
    (∀ output, execute? store.tables s.text s.params = some output →
      ∃ rows, output = .rows rows ∧ store.records s = readRows store.schema rows) ∧
    (execute? store.tables s.text s.params = none → ∃ problem, store.records s = .fail problem) := by
  cases htable : store.table with
  | none =>
    rw [execute?_eq_none (Select.read?_text hcolumns) hname htable, records, prepare, htable]
    exact ⟨nofun, fun _ => ⟨_, rfl⟩⟩
  | some t =>
    rw [execute?_select hcolumns (tables_schema htable hname), records_eq htable]
    cases (Statement.ofSelect s).isKnown t with
    | false => exact ⟨nofun, fun _ => ⟨_, rfl⟩⟩
    | true =>
      cases (Statement.ofSelect s).isBound t with
      | false => exact ⟨nofun, fun _ => ⟨_, rfl⟩⟩
      | true => exact ⟨fun output houtput => ⟨_, (Option.some.inj houtput).symm, rfl⟩, nofun⟩

/-- The number that a store counts is the one that an engine answers to the text of the statement and its
parameters; without an answer the store fails. -/
theorem total_of_execute? {s : Count} (hname : s.table = store.schema.name) :
    (∀ output, execute? store.tables s.text s.params = some output →
      ∃ n, output = .number n ∧ store.total s = .ok n) ∧
    (execute? store.tables s.text s.params = none → store.total s = .fail "Failed to count rows") := by
  cases htable : store.table with
  | none =>
    rw [execute?_eq_none s.read?_text hname htable, total, prepare, htable]
    exact ⟨nofun, fun _ => rfl⟩
  | some t =>
    rw [execute?_count (tables_schema htable hname), total_eq htable]
    split
    · exact ⟨fun output houtput => ⟨_, (Option.some.inj houtput).symm, rfl⟩, nofun⟩
    · exact ⟨nofun, fun _ => rfl⟩

end TableStore

namespace FindOptions.Portable

variable {options : FindOptions}

/-- The filters of portable options are on declared fields. -/
lemma declares_filter (h : options.Portable schema t) {entry : String × Predicate}
    (hentry : entry ∈ options.filters.entries) : schema.declares entry.1 = true := by
  obtain ⟨field, op, raw, hfield, -⟩ := (h.filters entry hentry).built
  rw [Schema.declares, hfield, Option.isSome_some]

/-- All fields of portable options are declared. -/
lemma declares (h : options.Portable schema t) {name : String}
    (hname : name ∈ namedFields options.filters options.order) : schema.declares name = true := by
  cases List.mem_append.mp hname with
  | inl hfilter =>
    obtain ⟨entry, hentry, rfl⟩ := List.mem_map.mp hfilter
    exact h.declares_filter hentry
  | inr horder =>
    obtain ⟨entry, hentry, rfl⟩ := List.mem_map.mp horder
    exact h.order entry hentry

/-- Statements for the options name columns of the table only. -/
lemma isKnown (h : options.Portable schema t) (hfits : t.Fits schema) {s : Statement}
    (htests : s.tests = (conditionsOf options.filters).map Test.ofCondition)
    (hcolumns : ∀ column ∈ s.columns, schema.declares column = true) : s.isKnown t = true := by
  have hknown : ∀ name, schema.declares name = true → (t.position? name).isSome = true := by
    intro name hname
    obtain ⟨field, hfield⟩ := Option.isSome_iff_exists.mp hname
    obtain ⟨hmem, rfl⟩ := Schema.mem_of_field? hfield
    exact hfits.columns field hmem
  rw [s.isKnown_eq t htests, Bool.and_eq_true, List.all_eq_true, List.all_eq_true]
  refine ⟨fun column hcolumn => hknown column (hcolumns column hcolumn), fun c hc => ?_⟩
  obtain ⟨entry, hentry, rfl⟩ := List.mem_map.mp hc
  rw [Condition.column_ofPredicate]
  exact hknown entry.1 (h.declares_filter hentry)

/-- The values of statements for the options can be read. -/
lemma isBound (h : options.Portable schema t) {s : Statement}
    (htests : s.tests = (conditionsOf options.filters).map Test.ofCondition) : s.isBound t = true := by
  rw [s.isBound_eq t htests, Bool.or_eq_true]
  refine .inr (List.all_eq_true.mpr fun c hc => ?_)
  obtain ⟨entry, hentry, rfl⟩ := List.mem_map.mp hc
  exact List.all_eq_true.mpr (Condition.readable_ofPredicate entry.1 (h.filters entry hentry).bindable)

end FindOptions.Portable

namespace TableStore

variable {store : TableStore} {memory : MemoryStore} {options : FindOptions}

/-- The statement for the records of find options. -/
def selectOf (schema : Schema) (options : FindOptions) : Select :=
  ⟨schema.fieldNames, schema.name, conditionsOf options.filters, options.order.entries, options.take,
    options.skip⟩

/-- The statement for the number of the records. -/
def countOf (schema : Schema) (options : FindOptions) : Count :=
  ⟨schema.name, conditionsOf options.filters⟩

/-- Portable options have their statements. -/
lemma ofOptions_eq (hoptions : options.Portable schema t) :
    Select.ofOptions schema options = .ok (selectOf schema options) ∧
      Count.ofOptions schema options = .ok (countOf schema options) :=
  Sql.ofOptions_eq fun _ hname => hoptions.declares hname

/-- The text of the statement for records is answered with the rows that the statement selects. -/
lemma execute?_selectOf (hschema : store.schema.validate = .ok ()) (htable : store.table = some t)
    (hfits : t.Fits store.schema) (hoptions : options.Portable store.schema t) :
    execute? store.tables (selectOf store.schema options).text (selectOf store.schema options).params =
      some (.rows (t.select (selectOf store.schema options))) := by
  have hcolumns : ∀ column ∈ (Statement.ofSelect (selectOf store.schema options)).columns,
      store.schema.declares column = true := by
    intro column hcolumn
    rw [Statement.columns_ofSelect] at hcolumn
    cases List.mem_append.mp hcolumn with
    | inl hname =>
      obtain ⟨field, hfield, rfl⟩ := List.mem_map.mp hname
      exact List.find?_isSome.mpr ⟨field, hfield, decide_eq_true rfl⟩
    | inr horder =>
      obtain ⟨entry, hentry, rfl⟩ := List.mem_map.mp horder
      exact hoptions.order entry hentry
  rw [execute?_select (Schema.fieldNames_ne_nil hschema) (tables_schema htable rfl)]
  exact if_pos ⟨hoptions.isKnown hfits rfl hcolumns, hoptions.isBound rfl⟩

/-- The text of the statement for the number of records is answered with the number that it counts. -/
lemma execute?_countOf (htable : store.table = some t) (hfits : t.Fits store.schema)
    (hoptions : options.Portable store.schema t) :
    execute? store.tables (countOf store.schema options).text (countOf store.schema options).params =
      some (.number (t.count (countOf store.schema options))) := by
  rw [execute?_count (tables_schema htable rfl)]
  exact if_pos ⟨hoptions.isKnown hfits rfl (List.forall_mem_nil _), hoptions.isBound rfl⟩

/-- A statement selects the window of what is found, column by column. -/
lemma select_eq_window (schema : Schema) (t : Sql.Table) (options : FindOptions) :
    t.select (selectOf schema options) =
      (window options (t.found (conditionsOf options.filters) options.order.entries)).map
        fun row => schema.fieldNames.map (t.cell row) :=
  rfl

/-- A store in memory that shows the rows of a table finds the records that show the rows found, and
as many of them as the table counts. -/
lemma findAndCount_memory (hfits : t.Fits schema) (hoptions : options.Portable schema t)
    (hschema : memory.schema = schema)
    (hmemory : List.Forall₂ (fun r row => r.Shows schema (schema.fieldNames.map (t.cell row)))
      memory.records t.rows) :
    ∃ found, (Store.findAndCount options memory).1 = .ok (found, t.count (countOf schema options)) ∧
      (∀ r ∈ found, r ∈ memory.records) ∧
      List.Forall₂ (Record.Shows schema) found (t.select (selectOf schema options)) := by
  obtain ⟨hlength, hshows⟩ := List.forall₂_iff_zip.mp hmemory
  have hfst := List.map_fst_zip (Nat.le_of_eq hlength)
  have hsnd := List.map_snd_zip (Nat.le_of_eq hlength.symm)
  have hrows : ∀ pair ∈ memory.records.zip t.rows, pair.2 ∈ t.rows := by
    intro pair hpair
    exact (List.of_mem_zip hpair).2
  obtain ⟨pairs, hpairs, hlisting, hfound⟩ := exists_pairs hrows
    (fun pair hpair => mirrors_of_shows hfits (hrows pair hpair) (hshows hpair)) hoptions hsnd.symm
  have hforms : ∀ r ∈ memory.records, r.HasForm := by
    intro r hr
    rw [← hfst] at hr
    obtain ⟨pair, hpair, rfl⟩ := List.mem_map.mp hr
    obtain ⟨members, -, hform⟩ := hshows hpair
    exact ⟨_, hform⟩
  rw [hfst, ← hschema] at hlisting
  have hcount : t.count (countOf schema options) = pairs.length := by
    -- the count has no ordering, which does not change the number of rows
    show (t.found (conditionsOf options.filters) []).length = _
    rw [Table.length_found, ← Table.length_found t (conditionsOf options.filters) options.order.entries, hfound,
      List.length_map]
  refine ⟨window options (pairs.map Prod.fst), ?_, ?_, ?_⟩
  · rw [MemoryStore.findAndCount_eq hforms, hlisting, List.length_map, hcount]
  · intro r hr
    rw [← hfst]
    obtain ⟨pair, hpair, rfl⟩ := List.mem_map.mp ((window_sublist _ _).subset hr)
    exact List.mem_map_of_mem (hpairs pair hpair)
  · rw [select_eq_window, hfound, window_map, window_map, List.map_map,
      List.forall₂_map_left_iff, List.forall₂_map_right_iff, List.forall₂_same]
    intro pair hpair
    exact hshows (hpairs pair ((window_sublist _ _).subset hpair))

/-- A row is read as the record that shows it, if the number of the record stands in the row. -/
lemma readRow_eq {r : Record} {cells : Row} (hshows : r.Shows schema cells)
    (hid : (r.members.value "id").asInt64? = some r.id) : readRow schema cells = .ok r := by
  obtain ⟨members, hmembers, hform⟩ := hshows
  obtain ⟨id, form⟩ := r
  cases hform
  have hrecord : record? members = some ⟨id, .ok (.obj members)⟩ := by
    show ((members.value "id").asInt64?.bind fun n => some (Record.ofJson n (.obj members))) = _
    have hid : (members.value "id").asInt64? = some id := hid
    rw [hid]
    rfl
  rw [readRow, hmembers]
  show Outcome.orFail _ (record? members) = _
  rw [hrecord]
  rfl

/-- Rows that show records are read as them. -/
lemma readRows_eq {records : List Record} {rows : List Row}
    (hshows : List.Forall₂ (Record.Shows schema) records rows)
    (hids : ∀ r ∈ records, (r.members.value "id").asInt64? = some r.id) :
    readRows schema rows = .ok records := by
  induction hshows with
  | nil => rfl
  | @cons r cells records rows hfirst _ ih =>
    have hrow := readRow_eq hfirst (hids r List.mem_cons_self)
    have hrest := ih fun r' hr' => hids r' (List.mem_cons_of_mem r hr')
    rw [readRows, hrow]
    show (readRows schema rows >>= fun rest => _) = _
    rw [hrest]
    rfl

/-- A store over a table whose rows have the numbers of the records answers exactly as the store in
memory, and stays as it is. -/
theorem findAndCount_eq_memory (hschema : store.schema.validate = .ok ())
    (hwhole : store.isBroken = false) (htable : store.table = some t) (hfits : t.Fits store.schema)
    (hoptions : options.Portable store.schema t) (hsame : memory.schema = store.schema)
    (hmemory : List.Forall₂
      (fun r row => r.Shows store.schema (store.schema.fieldNames.map (t.cell row)))
      memory.records t.rows)
    (hids : ∀ r ∈ memory.records, (r.members.value "id").asInt64? = some r.id) :
    Store.findAndCount options store = ((Store.findAndCount options memory).1, store) := by
  obtain ⟨hselect, hcount⟩ := ofOptions_eq hoptions
  obtain ⟨found, hfound, hmem, hshows⟩ := findAndCount_memory hfits hoptions hsame hmemory
  obtain ⟨_, hrows, hrecords⟩ := (records_of_execute? (Schema.fieldNames_ne_nil hschema) rfl).1 _
    (execute?_selectOf hschema htable hfits hoptions)
  cases hrows
  obtain ⟨_, hn, htotal⟩ := (total_of_execute? rfl).1 _ (execute?_countOf htable hfits hoptions)
  cases hn
  have hrun : (do return (← store.records (selectOf store.schema options),
      ← store.total (countOf store.schema options)) : Outcome (List Record × Nat)) =
      .ok (found, t.count (countOf store.schema options)) := by
    rw [hrecords, htotal, readRows_eq hshows fun r hr => hids r (hmem r hr)]
    rfl
  rw [hfound]
  simp only [Store.findAndCount, hselect, hcount]
  rw [alone, hwhole, hrun]
  rfl

/-- A store over a table refines a store in memory of the objects of its rows. An engine that executes
the texts of the two statements answers the rows that are found in memory, in the same order, and their
number, and so does the store if the numbers of the records stand in the rows. -/
theorem refines_memory (hschema : store.schema.validate = .ok ()) (htable : store.table = some t)
    (hfits : t.Fits store.schema) (hoptions : options.Portable store.schema t)
    (hsame : memory.schema = store.schema)
    (hmemory : List.Forall₂
      (fun r row => r.Shows store.schema (store.schema.fieldNames.map (t.cell row)))
      memory.records t.rows) :
    ∃ select count rows found total, Select.ofOptions store.schema options = .ok select ∧
      Count.ofOptions store.schema options = .ok count ∧
      execute? store.tables select.text select.params = some (.rows rows) ∧
      execute? store.tables count.text count.params = some (.number total) ∧
      (Store.findAndCount options memory).1 = .ok (found, total) ∧
      List.Forall₂ (Record.Shows store.schema) found rows ∧
      (store.isBroken = false →
        (∀ r ∈ memory.records, (r.members.value "id").asInt64? = some r.id) →
        Store.findAndCount options store = (.ok (found, total), store)) := by
  obtain ⟨hselect, hcount⟩ := ofOptions_eq hoptions
  obtain ⟨found, hfound, -, hshows⟩ := findAndCount_memory hfits hoptions hsame hmemory
  refine ⟨_, _, _, found, _, hselect, hcount, execute?_selectOf hschema htable hfits hoptions,
    execute?_countOf htable hfits hoptions, hfound, hshows, fun hwhole hids => ?_⟩
  rw [findAndCount_eq_memory hschema hwhole htable hfits hoptions hsame hmemory hids, hfound]

/-- The fields of an event. -/
def eventSchema : Schema :=
  { name := "events", fields := [⟨"id", .integer⟩, ⟨"title", .text⟩, ⟨"at", .timestamp⟩] }

/-- Two events, of which the second has no time. -/
def eventTable : Sql.Table where
  columns := [("id", .integer .big), ("title", .text), ("at", .timestamp .microsecond)]
  rows := [[.integer .big 1, .text "Talk", .timestamp .microsecond 0],
    [.integer .big 2, .text "Walk", .null]]

/-- The events that have a time from 1970 on and two letters in their title. -/
def eventOptions : FindOptions where
  filters := .ofList [("at", .compare .moreOrEqual (.timestamp ⟨0, 0⟩)), ("title", .like "AL" true)]
  order := .ofList [("id", .descending)]
  take := some 10

/-- The events in memory. -/
def events : MemoryStore where
  schema := eventSchema
  records := [.ofJson 1 (.obj [("id", .int 1), ("title", .str "Talk"),
      ("at", .str "1970-01-01T00:00:00.000000Z")]),
    .ofJson 2 (.obj [("id", .int 2), ("title", .str "Walk"), ("at", .null)])]

/-- The store over the table of events. -/
def storedEvents : TableStore where
  schema := eventSchema
  table := some eventTable

/-- The text of the statement for the events finds those that are found in memory. -/
theorem refines_memory_events :
    eventTable.Fits eventSchema ∧ eventOptions.Portable eventSchema eventTable ∧
      ∃ rows found, execute? storedEvents.tables
        ("SELECT \"id\", \"title\", \"at\" FROM \"events\" WHERE \"at\" >= CAST(? AS TIMESTAMP) AND " ++
          "\"title\" ILIKE ? ESCAPE '\\' ORDER BY \"id\" DESC NULLS LAST LIMIT 10")
        [.text "1970-01-01 00:00:00.000000", .text "%AL%"] = some (.rows rows) ∧
      List.Forall₂ (Record.Shows eventSchema) found rows ∧
      (Store.findAndCount eventOptions events).1 = .ok (found, 1) ∧
      Store.findAndCount eventOptions storedEvents = (.ok (found, 1), storedEvents) := by
  have hepoch : (⟨0, 0⟩ : Time.Instant).IsPlain := ⟨by decide, rfl, by decide⟩
  have hfits : eventTable.Fits eventSchema := by
    constructor
    · decide
    · simp only [eventTable, eventSchema, List.forall_mem_cons]
      exact ⟨⟨.integer 1, .text "Talk", .timestamp 0 hepoch.year, nofun⟩,
        ⟨.integer 2, .text "Walk", .null, nofun⟩, nofun⟩
  have hat : PortableFilter eventSchema eventTable
      ("at", .compare .moreOrEqual (.timestamp ⟨0, 0⟩)) := by
    refine ⟨⟨⟨"at", .timestamp⟩, .compare .moreOrEqual, "1970-01-01", rfl, rfl⟩, ?_, nofun⟩
    intro x hx
    cases List.mem_singleton.mp hx
    exact hepoch
  have htitle : PortableFilter eventSchema eventTable ("title", .like "AL" true) := by
    refine ⟨⟨⟨"title", .text⟩, .like true, "AL", rfl, rfl⟩, nofun, ?_⟩
    intro needle e
    cases e
    refine ⟨by decide, List.forall_mem_cons.mpr ⟨?_, List.forall_mem_cons.mpr ⟨?_, nofun⟩⟩⟩
    all_goals
      intro s hs
      cases hs
      decide
  have hoptions : eventOptions.Portable eventSchema eventTable := by
    constructor
    · exact List.forall_mem_cons.mpr ⟨hat, List.forall_mem_cons.mpr ⟨htitle, nofun⟩⟩
    · decide
  have hmemory : List.Forall₂
      (fun r row => r.Shows eventSchema (eventSchema.fieldNames.map (eventTable.cell row)))
      events.records eventTable.rows :=
    .cons ⟨_, rfl, rfl⟩ (.cons ⟨_, rfl, rfl⟩ .nil)
  have hschema : storedEvents.schema.validate = .ok () := by decide
  obtain ⟨select, count, rows, found, total, hselect, hcount, hrows, htotal, hfound, hshows, hstore⟩ :=
    refines_memory hschema rfl hfits hoptions rfl hmemory
  have hone : execute? storedEvents.tables (countOf eventSchema eventOptions).text
      (countOf eventSchema eventOptions).params = some (.number 1) := by
    have hcount : execute? storedEvents.tables (countOf storedEvents.schema eventOptions).text
        (countOf storedEvents.schema eventOptions).params =
          some (.number (eventTable.count (countOf eventSchema eventOptions))) :=
      execute?_countOf rfl hfits hoptions
    exact hcount.trans (congrArg (some ∘ Output.number) (by decide +kernel))
  have hids : ∀ r ∈ events.records, (r.members.value "id").asInt64? = some r.id := by decide
  cases hselect
  cases hcount
  cases htotal.symm.trans hone
  have htext : (selectOf eventSchema eventOptions).text =
      "SELECT \"id\", \"title\", \"at\" FROM \"events\" WHERE \"at\" >= CAST(? AS TIMESTAMP) AND " ++
        "\"title\" ILIKE ? ESCAPE '\\' ORDER BY \"id\" DESC NULLS LAST LIMIT 10" := by decide +kernel
  have hparams : (selectOf eventSchema eventOptions).params =
      [.text "1970-01-01 00:00:00.000000", .text "%AL%"] := by decide +kernel
  rw [← htext, ← hparams]
  exact ⟨hfits, hoptions, rows, found, hrows, hshows, hfound, hstore rfl hids⟩

end TableStore

end PagedListing

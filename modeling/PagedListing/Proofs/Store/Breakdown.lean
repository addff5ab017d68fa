import PagedListing.Proofs.Store.Decoding

/-!
# Queries that break down

A date has a form wherever the number of its day has 32 bits. A row that holds any other date cannot be
read, and the query that comes to it breaks down while it holds the table (`TableStore.Query.BreaksDown`).
The queries before it are answered as if each were alone (`TableStore.askAll_append_of_not_breaksDown`), and
every query after it fails (`TableStore.askAll_of_isBroken`).
-/

namespace PagedListing
open PagedListing.Sql
open PagedListing.Steps
open PagedListing.Time

namespace TableStore

variable {schema : Schema} {row : Row} {rows : List Row} {store : TableStore} {s : Select}

/-! ## Rows that cannot be read -/

/-- Rows are read up to one that holds a date whose day has no number of 32 bits. -/
def BreaksAt (schema : Schema) (rows : List Row) : Prop :=
  ∃ front row back, rows = front ++ row :: back ∧
    (∀ earlier ∈ front, ∃ r, readRow schema earlier = .ok r) ∧
    ∃ days, Cell.date days ∈ row ∧ ¬ HasOrdinal days

/-- A row breaks down if it holds a date whose day has no number of 32 bits. -/
lemma readRow_eq_breakdown_iff :
    readRow schema row = .error .breakdown ↔ ∃ days, Cell.date days ∈ row ∧ ¬ HasOrdinal days := by
  have hnone : readRow schema row = .error .breakdown ↔ members? schema row = none := by
    rw [readRow]
    cases members? schema row with
    | none => exact iff_of_true rfl rfl
    | some members =>
      refine iff_of_false ?_ (Option.some_ne_none members)
      dsimp only
      cases record? members <;> rintro ⟨⟩
  -- a row has no members exactly if one of its cells has no form
  have hform : ¬ (∃ members, members? schema row = some members) ↔ _ := not_congr exists_members?_iff
  rw [← Option.isSome_iff_exists, Option.not_isSome_iff_eq_none] at hform
  simp only [hnone, hform, hasOrdinal_iff, not_forall, exists_prop]

/-- Rows break down at the first of them that does, if all before it are read. -/
lemma readRows_eq_breakdown_iff :
    readRows schema rows = .error .breakdown ↔ BreaksAt schema rows := by
  simp only [readRows_eq_mapM, mapM_eq_error_iff, readRow_eq_breakdown_iff, BreaksAt]

/-! ## Statements that break down -/

/-- Preparing a statement does not break down. -/
lemma prepare_ne_breakdown (columns : List String) (conditions : List Condition) (problem : String) :
    store.prepare columns conditions problem ≠ .error .breakdown := by
  rw [prepare]
  split
  · rintro ⟨⟩
  · dsimp only
    split <;> rintro ⟨⟩

/-- Binding the parameters does not break down. -/
lemma bind_ne_breakdown (t : Sql.Table) (conditions : List Condition) (problem : String) :
    bind t conditions problem ≠ .error .breakdown := by
  rw [bind]
  split <;> rintro ⟨⟩

/-- Counting does not break down. -/
lemma total_ne_breakdown (c : Count) : store.total c ≠ .error .breakdown := by
  rw [total, Ne, bind_eq_error_iff]
  rintro (h | ⟨t, -, h⟩)
  · exact prepare_ne_breakdown _ _ _ h
  obtain h | ⟨-, -, h⟩ := bind_eq_error_iff.mp h
  · exact bind_ne_breakdown _ _ _ h
  · cases h

/-- A statement breaks down on the rows that it selects, and on nothing else. -/
lemma records_eq_breakdown_iff :
    store.records s = .error .breakdown ↔ ∃ t,
      store.prepare (s.columns ++ s.order.map (·.1)) s.conditions = .ok t ∧
      bind t s.conditions = .ok () ∧ BreaksAt store.schema (t.select s) := by
  rw [records, bind_eq_error_iff, or_iff_right (prepare_ne_breakdown _ _ _)]
  refine exists_congr fun t => and_congr_right fun _ => ?_
  rw [bind_eq_error_iff, or_iff_right (bind_ne_breakdown _ _ _)]
  simp only [readRows_eq_breakdown_iff]
  constructor
  · rintro ⟨_, hbind, h⟩
    exact ⟨hbind, h⟩
  · rintro ⟨hbind, h⟩
    exact ⟨(), hbind, h⟩

/-! ## Queries -/

/-- A query of a store over a table: for records, or for their number as well. -/
inductive Query where
  | find (options : FindOptions)
  | findAndCount (options : FindOptions)

namespace Query

/-- The find options of a query. -/
def options : Query → FindOptions
  | find options | findAndCount options => options

/-- The records that a query is answered with, and the store after it. -/
def ask : Query → Answer TableStore (List Record)
  | find options => Store.find options
  | findAndCount options => do return (← Store.findAndCount options).1

/-- What a query runs on the table. -/
def run (q : Query) (s : Select) (store : TableStore) : Outcome (List Record) :=
  match q with
  | find _ => store.records s
  | findAndCount _ => do
    let found ← store.records s
    let _ ← store.total ⟨s.table, s.conditions⟩
    return found

/-- A query comes to a row that holds a date whose day has no number of 32 bits. -/
def BreaksDown (q : Query) (store : TableStore) : Prop :=
  ∃ s t, Select.ofOptions store.schema q.options = .ok s ∧
    store.prepare (s.columns ++ s.order.map (·.1)) s.conditions = .ok t ∧
    bind t s.conditions = .ok () ∧ BreaksAt store.schema (t.select s)

/-- The error of a query of a table that is locked: what it names is checked first. -/
def refusal (q : Query) (schema : Schema) : Error :=
  match Select.ofOptions schema q.options with
  | .error e => e
  | .ok _ => .storage "DuckDB connection lock poisoned"

end Query

variable {q : Query}

/-- Both statements of a query are checked alike. -/
lemma ofOptions_count (schema : Schema) (options : FindOptions) :
    Count.ofOptions schema options =
      (fun s : Select => ⟨s.table, s.conditions⟩) <$> Select.ofOptions schema options := by
  rw [Count.ofOptions, Select.ofOptions]
  cases schema.checkFields (namedFields options.filters options.order) <;> rfl

/-- A part of what a query alone on the table is answered. -/
lemma alone_map {α β : Type} {ask : Answer TableStore α} {run : TableStore → Outcome α}
    (f : α → β) (h : ask store = alone run store) :
    Answer.bind ask (fun a => pure (f a)) store = alone (fun t => f <$> run t) store := by
  rw [Answer.bind, h, alone, alone]
  cases store.isBroken with
  | true => rfl
  | false =>
    cases run store with
    | ok a => rfl
    | error e => cases e <;> rfl

/-- A query that names an undeclared field does not reach the table. -/
lemma ask_of_error {e : Error} (h : Select.ofOptions store.schema q.options = .error e) :
    q.ask store = (.error e, store) := by
  cases q with
  | find options =>
    rw [Query.options] at h
    simp only [Query.ask, Store.find, h]
  | findAndCount options =>
    rw [Query.options] at h
    have hanswer : Store.findAndCount options store = (.error e, store) := by
      simp only [Store.findAndCount, h]
    show Answer.bind (Store.findAndCount options) (fun found => pure found.1) store = _
    rw [Answer.bind, hanswer]

/-- Any other query is alone on the table while it runs. -/
lemma ask_of_ok (h : Select.ofOptions store.schema q.options = .ok s) :
    q.ask store = alone (q.run s) store := by
  cases q with
  | find options =>
    rw [Query.options] at h
    simp only [Query.ask, Store.find, h]
    rfl
  | findAndCount options =>
    rw [Query.options] at h
    have hcount := ofOptions_count store.schema options
    rw [h] at hcount
    have hanswer : Store.findAndCount options store = alone (fun t => do
        return (← t.records s, ← t.total ⟨s.table, s.conditions⟩)) store := by
      simp only [Store.findAndCount, h, hcount]
      rfl
    refine (alone_map Prod.fst hanswer).trans (congrArg (alone · store) (funext fun t => ?_))
    rw [Query.run]
    cases t.records s with
    | error e => rfl
    | ok found => cases t.total ⟨s.table, s.conditions⟩ <;> rfl

/-- A query breaks down if the records that it selects do. -/
lemma run_eq_breakdown_iff :
    q.run s store = .error .breakdown ↔ store.records s = .error .breakdown := by
  cases q with
  | find options => rfl
  | findAndCount options =>
    rw [Query.run, bind_eq_error_iff, or_iff_left]
    rintro ⟨found, -, h⟩
    obtain h | ⟨-, -, h⟩ := bind_eq_error_iff.mp h
    · exact total_ne_breakdown _ h
    · cases h

/-- A query breaks down on a store if its run does. -/
lemma breaksDown_iff (h : Select.ofOptions store.schema q.options = .ok s) :
    q.BreaksDown store ↔ q.run s store = .error .breakdown := by
  rw [run_eq_breakdown_iff, records_eq_breakdown_iff, Query.BreaksDown, h]
  simp only [Except.ok.injEq, exists_and_left, exists_eq_left']

/-- A query that breaks down leaves the table locked. -/
theorem ask_of_breaksDown (hwhole : store.isBroken = false) (h : q.BreaksDown store) :
    q.ask store = (.error (.storage "DuckDB task failed"), { store with isBroken := true }) := by
  have hbreaks := h
  obtain ⟨s, -, hselect, -⟩ := h
  rw [ask_of_ok hselect, alone, hwhole, (breaksDown_iff hselect).mp hbreaks]
  rfl

/-- Any other query leaves the store as it is. -/
theorem ask_of_not_breaksDown (h : ¬ q.BreaksDown store) : (q.ask store).2 = store := by
  cases hselect : Select.ofOptions store.schema q.options with
  | error e => rw [ask_of_error hselect]
  | ok s =>
    rw [breaksDown_iff hselect] at h
    rw [ask_of_ok hselect, alone]
    cases store.isBroken with
    | true => rfl
    | false =>
      cases hrun : q.run s store with
      | ok found => rfl
      | error problem =>
        cases problem with
        | error e => rfl
        | breakdown => exact absurd hrun h

/-- Every query of a table that is locked fails, and leaves it locked. -/
theorem ask_of_isBroken (h : store.isBroken = true) :
    q.ask store = (.error (q.refusal store.schema), store) := by
  rw [Query.refusal]
  cases hselect : Select.ofOptions store.schema q.options with
  | error e => exact ask_of_error hselect
  | ok s =>
    rw [ask_of_ok hselect, alone, h]
    rfl

/-! ## Runs of queries -/

/-- The answers to some queries, asked one after the other, and the store after them. -/
def askAll : List Query → TableStore → List (Except Error (List Record)) × TableStore
  | [], store => ([], store)
  | q :: queries, store =>
    let rest := askAll queries (q.ask store).2
    ((q.ask store).1 :: rest.1, rest.2)

/-- A table that is locked stays locked. -/
theorem askAll_of_isBroken (h : store.isBroken = true) (queries : List Query) :
    askAll queries store = (queries.map fun q => .error (q.refusal store.schema), store) := by
  induction queries with
  | nil => rfl
  | cons q queries ih => rw [askAll, ask_of_isBroken h, ih, List.map_cons]

/-- Queries of which none breaks down are answered as if each were alone, and others follow them as if
they had not been asked. -/
theorem askAll_append_of_not_breaksDown {queries : List Query} (after : List Query)
    (h : ∀ q ∈ queries, ¬ q.BreaksDown store) :
    askAll (queries ++ after) store =
      (queries.map (fun q => (q.ask store).1) ++ (askAll after store).1, (askAll after store).2) := by
  induction queries with
  | nil => rfl
  | cons q queries ih =>
    obtain ⟨hfirst, hrest⟩ := List.forall_mem_cons.mp h
    rw [List.cons_append, askAll, ask_of_not_breaksDown hfirst, ih hrest, List.map_cons,
      List.cons_append]

/-- A date is shown exactly if the number of its day has 32 bits, in the calendar by its text and
outside of it by its days. A query that comes to any other date breaks down, and all queries after it
fail. -/
theorem dates_converted (days : Int32) (store : TableStore) (hwhole : store.isBroken = false) :
    (∃ d, Date.Counted days.toInt d ∧ (∀ e, Date.Counted days.toInt e → e = d) ∧
      (Cell.date days).form? = (if HasOrdinal days then some (dateForm d days) else none) ∧
      (d.inRange = true → HasOrdinal days ∧
        Instant.read? (String.ofList d.text) = some ⟨86400 * days.toInt, 0⟩)) ∧
    (∀ queries : List Query, (∀ q ∈ queries, ¬ q.BreaksDown store) →
      askAll queries store = (queries.map fun q => (q.ask store).1, store)) ∧
    ∀ (before : List Query) (q : Query) (after : List Query),
      (∀ p ∈ before, ¬ p.BreaksDown store) → q.BreaksDown store →
      askAll (before ++ q :: after) store =
        (before.map (fun p => (p.ask store).1) ++ .error (.storage "DuckDB task failed") ::
          after.map fun p => .error (p.refusal store.schema), { store with isBroken := true }) := by
  refine ⟨?_, fun queries h => ?_, fun before q after h hq => ?_⟩
  · have hcounted := Date.counted_ofDayNumber days.toInt
    refine ⟨_, hcounted, fun e he => Date.counted_iff.mp he, Cell.form?_date_eq days, fun hrange => ?_⟩
    have hread := Date.read?_text hcounted.isValid hrange
    rw [hcounted.dayNumber_eq] at hread
    exact ⟨hasOrdinal_of_inRange hrange, hread⟩
  · have hall := askAll_append_of_not_breaksDown [] h
    rwa [List.append_nil, askAll, List.append_nil] at hall
  · rw [askAll_append_of_not_breaksDown _ h, askAll, ask_of_breaksDown hwhole hq, askAll_of_isBroken rfl]

/-- The days on which some holidays fall. -/
def holidaySchema : Schema :=
  { name := "holidays", fields := [⟨"id", .integer⟩, ⟨"day", .timestamp⟩] }

/-- A leap day, and a day that never comes. -/
def holidayTable : Sql.Table where
  columns := [("id", .integer .big), ("day", .date)]
  rows := [[.integer .big 1, .date 19782], [.integer .big 2, .date Int32.maxValue]]

/-- The holidays as they are read from texts. -/
def holidays : TableStore := ⟨holidaySchema, holidayTable, false⟩

/-- The leap day. -/
def leapDay : Record := .ofJson 1 (.obj [("id", .int 1), ("day", .str "2024-02-29")])

/-- A query for the first holiday. -/
def firstHoliday : Query := .find { take := some 1 }

/-- A query for all holidays and their number. -/
def allHolidays : Query := .findAndCount {}

/-- The first holiday is found until all of them are asked for. -/
theorem dates_converted_holidays :
    Sql.Table.read? [("id", "BIGINT"), ("day", "DATE")]
      [[some "1", some "2024-02-29"], [some "2", some "infinity"]] = some holidayTable ∧
    (Cell.date 19782).form? = some (.str "2024-02-29") ∧
    (askAll [firstHoliday, allHolidays, firstHoliday] holidays).1 =
      [.ok [leapDay], .error (.storage "DuckDB task failed"),
        .error (.storage "DuckDB connection lock poisoned")] := by
  obtain ⟨⟨d, hd, -, hform, -⟩, -, hrun⟩ := dates_converted 19782 holidays rfl
  have hfound : holidayTable.found [] [] = holidayTable.rows := by
    simp +decide [Sql.Table.found, List.mergeSort, holidayTable]
  have hfirst : firstHoliday.ask holidays = (.ok [leapDay], holidays) := by
    have halone : firstHoliday.ask holidays =
        alone (firstHoliday.run (selectOf holidaySchema firstHoliday.options)) holidays := ask_of_ok rfl
    have hrecords : firstHoliday.run (selectOf holidaySchema firstHoliday.options) holidays =
        .ok [leapDay] := by
      refine records_eq_ok_iff.mpr ⟨holidayTable, rfl, rfl, ?_⟩
      rw [select_eq_window]
      show readRows holidaySchema ((window _ (holidayTable.found [] [])).map _) = _
      rw [hfound]
      rfl
    rw [halone, alone, hrecords]
    rfl
  have hone : ¬ firstHoliday.BreaksDown holidays := by
    intro h
    rw [ask_of_breaksDown rfl h] at hfirst
    cases hfirst
  have hall : allHolidays.BreaksDown holidays := by
    have hselect : holidayTable.select (selectOf holidaySchema {}) = holidayTable.rows := by
      rw [select_eq_window]
      show (window _ (holidayTable.found [] [])).map _ = _
      rw [hfound]
      rfl
    refine ⟨_, holidayTable, rfl, rfl, rfl, [[.integer .big 1, .date 19782]], _, [], hselect, ?_⟩
    exact ⟨List.forall_mem_singleton.mpr ⟨leapDay, rfl⟩, Int32.maxValue, by simp, by decide⟩
  refine ⟨rfl, ?_, ?_⟩
  · rw [Date.counted_iff.mp hd] at hform
    exact hform
  · have h := hrun [firstHoliday] allHolidays [firstHoliday] (List.forall_mem_singleton.mpr hone) hall
    rw [List.map_singleton, hfirst] at h
    exact congrArg Prod.fst h

/-- The infinite date and the first of the finite ones that have no form, though they lie outside of the
calendar and their days are to be shown. -/
theorem dates_formless :
    Cell.ofText? .date "infinity" = some (.date Int32.maxValue) ∧
    Cell.ofText? .date "5879611-07-12" = some (.date 2146764485) ∧
    (∃ d, Date.Counted Int32.maxValue.toInt d ∧ dateForm d Int32.maxValue = .int 2147483647) ∧
    (Cell.date Int32.maxValue).form? = none ∧
    (Cell.date 2146764485).form? = none ∧
    ¬ ∀ days d, Date.Counted days.toInt d → (Cell.date days).form? = some (dateForm d days) := by
  have hnone : (Cell.date Int32.maxValue).form? = none := rfl
  refine ⟨rfl, rfl, ⟨_, Date.counted_ofDayNumber _, rfl⟩, hnone, rfl, fun h => ?_⟩
  have hform := h Int32.maxValue _ (Date.counted_ofDayNumber _)
  rw [hnone] at hform
  cases hform

end TableStore

end PagedListing

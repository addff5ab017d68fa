import PagedListing.Proofs.Maps
import PagedListing.Proofs.Number.Decimal
import PagedListing.Proofs.Schema
import PagedListing.Proofs.Sql.Condition
import PagedListing.Proofs.Text.Utf8

/-!
# Statements and the values bound in them

The text of a statement has a question mark for every value bound in it (`Select.count_text`,
`Count.count_text`), condition by condition (`Condition.count_text`), and shows nothing of the values:
the text of a condition depends on the shape of its predicate only (`Condition.text_congr`), and so does
the text of a whole statement (`statements_of_sameShape`).
-/

namespace PagedListing

/-- The shape of a predicate: its operator and the types of its operands, in their order. -/
def Predicate.shape (p : Predicate) : Operator × List FieldType :=
  (p.operator, p.operands.map Operand.type)

/-- The values bound for a predicate, in the order of its operands; for a searched text its pattern. -/
def Predicate.bound : Predicate → List Sql.Param
  | .like needle _ => [.text (Sql.Like.containing needle)]
  | p => p.operands.map fun o => (Sql.Place.ofOperand o).param

/-- Find options that differ in operands only. -/
structure FindOptions.SameShape (a b : FindOptions) : Prop where
  filters : ∀ field, (a.filters.get? field).map Predicate.shape =
    (b.filters.get? field).map Predicate.shape
  order : a.order = b.order
  take : a.take = b.take
  skip : a.skip = b.skip

/-! ## Identifiers -/

/-- The characters of an identifier are those of identifiers. -/
lemma isIdentifierRest_of_mem {name : String} (h : isIdentifier name = true) {c : Char}
    (hc : c ∈ name.toList) : isIdentifierRest c = true := by
  unfold isIdentifier at h
  split at h
  · cases h
  · rename_i first rest hname
    obtain ⟨hfirst, hrest⟩ := Bool.and_eq_true_iff.mp h
    rw [hname] at hc
    cases List.mem_cons.mp hc with
    | inl e =>
      subst e
      simp only [isIdentifierStart, isIdentifierRest, Char.isAlphanum, Bool.or_eq_true] at hfirst ⊢
      exact hfirst.imp .inl id
    | inr hc => exact List.all_eq_true.mp hrest c hc

/-- No other character is in an identifier. -/
lemma not_mem_of_isIdentifier {name : String} (h : isIdentifier name = true) {c : Char}
    (hc : isIdentifierRest c = false) : c ∉ name.toList := by
  intro hmem
  rw [isIdentifierRest_of_mem h hmem] at hc
  cases hc

namespace Sql
open PagedListing.Steps

variable {schema : Schema}

/-- A text without quotes is left as it is. -/
lemma doubleQuotes_of_not_mem {cs : List Char} (h : '"' ∉ cs) : doubleQuotes cs = cs := by
  induction cs with
  | nil => rfl
  | cons c cs ih =>
    obtain ⟨hc, hcs⟩ := not_or.mp (mt List.mem_cons.mpr h)
    rw [doubleQuotes, if_neg (fun e => hc e.symm), ih hcs]

/-- An identifier is quoted as it stands. -/
lemma toList_quote {name : String} (h : isIdentifier name = true) :
    (quote name).toList = '"' :: (name.toList ++ ['"']) := by
  rw [quote, String.toList_ofList, doubleQuotes_of_not_mem (not_mem_of_isIdentifier h rfl),
    List.cons_append]

/-! ## Question marks -/

/-- Joined texts have the question marks of the texts. -/
lemma count_join {α : Type} (separator : List Char) (h : separator.count '?' = 0)
    {text : α → String} (values : α → List Param) {l : List α}
    (hl : ∀ a ∈ l, (text a).toList.count '?' = (values a).length) :
    (separator.intercalate (l.map (String.toList ∘ text))).count '?' = (l.flatMap values).length := by
  induction l with
  | nil => rfl
  | cons a l ih =>
    have hfirst := hl a List.mem_cons_self
    have hrest := ih fun b hb => hl b (List.mem_cons_of_mem a hb)
    rw [List.flatMap_cons, List.length_append, ← hfirst, ← hrest]
    cases l with
    | nil => simp
    | cons b l =>
      rw [List.map_cons, List.map_cons, List.intercalate_cons_cons, List.count_append,
        List.count_append, h, Nat.add_zero]
      rfl

/-- A quoted identifier has no mark. -/
lemma count_quote {name : String} (h : isIdentifier name = true) :
    (quote name).toList.count '?' = 0 := by
  have hname := not_mem_of_isIdentifier h (show isIdentifierRest '?' = false from rfl)
  rw [toList_quote h, List.count_eq_zero]
  simp [hname]

/-- A place has one mark. -/
lemma Place.count_text (place : Place) : place.text.toList.count '?' = 1 := by
  cases place <;> simp [text]

/-- A condition shows a place for every value bound in it. -/
theorem Condition.count_text {c : Condition} (h : isIdentifier c.column = true) :
    c.text.toList.count '?' = c.params.length := by
  cases c with
  | compare name relation place =>
    have hquote : (quote name).toList.count '?' = 0 := count_quote h
    have hsign : (relationSign relation).toList.count '?' = 0 := by
      cases relation <;> simp [relationSign]
    simp [text, params, hquote, hsign, Place.count_text]
  | between name low high =>
    have hquote : (quote name).toList.count '?' = 0 := count_quote h
    simp [text, params, hquote, Place.count_text]
  | among name places =>
    have hquote : (quote name).toList.count '?' = 0 := count_quote h
    have hplaces := count_join [',', ' '] rfl (fun place => [place.param])
      fun place (_ : place ∈ places) => place.count_text
    rw [← List.map_eq_flatMap] at hplaces
    simp [text, params, hquote, hplaces]
  | like name ignoreCase pattern =>
    have hquote : (quote name).toList.count '?' = 0 := count_quote h
    cases ignoreCase <;> simp [text, params, hquote]

/-- The text of conditions has a mark for every parameter. -/
lemma count_whereText {conditions : List Condition}
    (h : ∀ c ∈ conditions, isIdentifier c.column = true) :
    (whereText conditions).toList.count '?' = (conditions.flatMap Condition.params).length := by
  have hconditions := count_join " AND ".toList (by simp) Condition.params fun c hc =>
    Condition.count_text (h c hc)
  rw [whereText]
  split
  · rename_i hnone
    rw [List.isEmpty_iff.mp hnone]
    rfl
  · rw [← hconditions]
    simp

/-! ## Whole statements -/

namespace Select

/-- The text of a statement before its conditions. -/
def front (s : Select) : String :=
  "SELECT " ++ String.intercalate ", " (s.columns.map quote) ++ " FROM " ++ quote s.table

/-- The text of an ordering. -/
def orderClause (order : List (String × Direction)) : String :=
  if order.isEmpty then "" else " ORDER BY " ++ String.intercalate ", " (order.map orderText)

/-- A keyword and a number, if there is one. -/
def numberClause (keyword : String) (n : Option Nat) : String :=
  n.elim "" fun n => keyword ++ n.repr

/-- The text of a statement after its conditions. -/
def back (s : Select) : String :=
  orderClause s.order ++ numberClause " LIMIT " (s.limit.map UInt32.toNat) ++
    numberClause " OFFSET " (s.offset.map UInt64.toNat)

/-- The text of a statement is its front, its conditions and its back. -/
lemma text_eq (s : Select) : s.text = s.front ++ whereText s.conditions ++ s.back := by
  obtain ⟨columns, table, conditions, order, limit, offset⟩ := s
  simp only [text, front, back, orderClause, String.append_assoc]
  cases limit with
  | none => cases offset <;> rfl
  | some n => cases offset <;> rfl

/-- The names in a statement are identifiers. -/
structure Named (s : Select) : Prop where
  columns : ∀ name ∈ s.columns, isIdentifier name = true
  table : isIdentifier s.table = true
  conditions : ∀ c ∈ s.conditions, isIdentifier c.column = true
  order : ∀ entry ∈ s.order, isIdentifier entry.1 = true

/-- The front of a statement has no marks. -/
lemma count_front {s : Select} (h : s.Named) : s.front.toList.count '?' = 0 := by
  have hcolumns := count_join [',', ' '] rfl (fun _ => []) fun name hname =>
    count_quote (h.columns name hname)
  simp [front, hcolumns, count_quote h.table]

/-- A number clause has no marks. -/
lemma count_numberClause {keyword : String} (h : keyword.toList.count '?' = 0) (n : Option Nat) :
    (numberClause keyword n).toList.count '?' = 0 := by
  cases n with
  | none => simp [numberClause]
  | some n =>
    rw [numberClause, Option.elim_some, String.toList_append, List.count_append, h, Nat.zero_add,
      Nat.toList_repr, List.count_eq_zero]
    intro hmem
    cases Number.isDigit_of_mem_toDigits hmem

/-- The back of a statement has no marks. -/
lemma count_back {s : Select} (h : s.Named) : s.back.toList.count '?' = 0 := by
  have hentry : ∀ entry ∈ s.order, (orderText entry).toList.count '?' = 0 := by
    intro entry hentry
    have hquote := count_quote (h.order entry hentry)
    cases hdirection : entry.2 <;> simp [orderText, hdirection, Direction.keyword, hquote]
  have horder : (orderClause s.order).toList.count '?' = 0 := by
    have hentries := count_join [',', ' '] rfl (fun _ => []) hentry
    rw [orderClause]
    split
    · simp
    · simp [hentries]
  have hlimit := count_numberClause (show " LIMIT ".toList.count '?' = 0 by simp)
  have hoffset := count_numberClause (show " OFFSET ".toList.count '?' = 0 by simp)
  simp [back, horder, hlimit, hoffset]

/-- A statement for records shows a place for every value bound in it. -/
theorem count_text {s : Select} (h : s.Named) : s.text.toList.count '?' = s.params.length := by
  rw [text_eq, String.toList_append, String.toList_append, List.count_append, List.count_append,
    count_front h, count_back h, count_whereText h.conditions, Nat.zero_add, Nat.add_zero, params]

end Select

namespace Count

/-- The text of a count is its front and its conditions. -/
lemma text_eq (s : Count) :
    s.text = "SELECT COUNT(*) FROM " ++ quote s.table ++ whereText s.conditions :=
  rfl

/-- A statement for the number of records shows a place for every value bound in it. -/
theorem count_text {s : Count} (htable : isIdentifier s.table = true)
    (hconditions : ∀ c ∈ s.conditions, isIdentifier c.column = true) :
    s.text.toList.count '?' = s.params.length := by
  simp [text_eq, count_quote htable, count_whereText hconditions, params]

end Count

/-! ## Statements of find options -/

/-- Options whose fields are declared have their statements. -/
lemma ofOptions_eq {options : FindOptions}
    (h : ∀ name ∈ namedFields options.filters options.order, schema.declares name = true) :
    Select.ofOptions schema options = .ok ⟨schema.fieldNames, schema.name,
        conditionsOf options.filters, options.order.entries, options.take, options.skip⟩ ∧
      Count.ofOptions schema options = .ok ⟨schema.name, conditionsOf options.filters⟩ := by
  rw [Select.ofOptions, Count.ofOptions, Schema.checkFields_eq_ok_iff.mpr h]
  exact ⟨rfl, rfl⟩

/-- The statement of declared fields of a valid schema has identifiers as its names. -/
lemma named_of_declares (hschema : schema.validate = .ok ()) {options : FindOptions}
    (h : ∀ name ∈ namedFields options.filters options.order, schema.declares name = true) :
    Select.Named ⟨schema.fieldNames, schema.name, conditionsOf options.filters,
      options.order.entries, options.take, options.skip⟩ where
  columns := (Schema.validate_eq_ok_iff.mp hschema).2.2.1
  table := (Schema.validate_eq_ok_iff.mp hschema).1
  conditions := by
    intro c hc
    obtain ⟨entry, hentry, rfl⟩ := List.mem_map.mp hc
    have hname : entry.1 ∈ options.filters.names := List.mem_map_of_mem hentry
    rw [Condition.column_ofPredicate]
    exact Schema.isIdentifier_of_declares hschema (h entry.1 (List.mem_append_left _ hname))
  order := by
    intro entry hentry
    have hname : entry.1 ∈ options.order.names := List.mem_map_of_mem hentry
    exact Schema.isIdentifier_of_declares hschema (h entry.1 (List.mem_append_right _ hname))

/-- What the statements of find options have in common: the same conditions, whose values are bound in
the order of the bytes of the fields and of the operands on a field. There is a place for each value,
in the condition on its field. -/
structure Binds (options : FindOptions) (select : Select) (count : Count) : Prop where
  select_text : select.text = select.front ++ whereText (conditionsOf options.filters) ++ select.back
  count_text : count.text =
    "SELECT COUNT(*) FROM " ++ quote count.table ++ whereText (conditionsOf options.filters)
  select_params : select.params = options.filters.entries.flatMap fun entry => entry.2.bound
  count_params : count.params = select.params
  entry_places : ∀ entry ∈ options.filters.entries,
    (Condition.ofPredicate entry.1 entry.2).text.toList.count '?' = entry.2.bound.length
  ascending : (options.filters.names.map fun name => Text.utf8Encode name.toList).Pairwise (· < ·)
  select_places : select.text.toList.count '?' = select.params.length
  count_places : count.text.toList.count '?' = count.params.length

/-- The condition of a predicate binds its operands. -/
lemma Condition.params_ofPredicate (name : String) (p : Predicate) :
    (ofPredicate name p).params = p.bound := by
  cases p with
  | among operands => exact List.map_map
  | compare _ _ | between _ _ | like _ _ => rfl

/-- The names of a sorted map ascend as bytes. -/
lemma bytes_ascend {β : Type} (m : SortedMap β) :
    (m.names.map fun name => Text.utf8Encode name.toList).Pairwise (· < ·) := by
  have hsorted : m.names.Pairwise (· < ·) := List.pairwise_map.mpr m.sorted
  exact List.pairwise_map.mpr (hsorted.imp Text.utf8Encode_lt)

/-- The statements of options bind the operands of the filters. -/
theorem binds_ofOptions (hschema : schema.validate = .ok ()) {options : FindOptions}
    (h : ∀ name ∈ namedFields options.filters options.order, schema.declares name = true) :
    ∃ select count, Select.ofOptions schema options = .ok select ∧
      Count.ofOptions schema options = .ok count ∧ Binds options select count := by
  obtain ⟨hselect, hcount⟩ := ofOptions_eq h
  have hnamed := named_of_declares hschema h
  refine ⟨_, _, hselect, hcount, Select.text_eq _, Count.text_eq _, ?_, rfl, ?_, ?_, ?_, ?_⟩
  · show (conditionsOf options.filters).flatMap Condition.params = _
    rw [conditionsOf, List.flatMap_map]
    exact List.flatMap_congr fun entry _ => Condition.params_ofPredicate entry.1 entry.2
  · intro entry hentry
    rw [Condition.count_text (hnamed.conditions _ (List.mem_map_of_mem hentry)),
      Condition.params_ofPredicate]
  · exact bytes_ascend options.filters
  · exact Select.count_text hnamed
  · exact Count.count_text hnamed.table hnamed.conditions

/-! ## Find options of the same shape -/

/-- How a place for an operand of a type stands in a text. -/
def placeText : FieldType → String
  | .timestamp => "CAST(? AS TIMESTAMP)"
  | .integer | .float | .text | .boolean => "?"

/-- The text of a place depends only on the type of its operand. -/
lemma text_ofOperand (o : Operand) : (Place.ofOperand o).text = placeText o.type := by
  cases o <;> rfl

/-- The text of a condition depends on the shape of the predicate only. -/
theorem Condition.text_congr (name : String) {p q : Predicate} (h : p.shape = q.shape) :
    (ofPredicate name p).text = (ofPredicate name q).text := by
  obtain ⟨hoperator, htypes⟩ := Prod.mk.inj h
  -- predicates of the same operator are of the same form
  cases p with
  | compare relation o =>
    cases q with
    | compare relation' o' =>
      cases hoperator
      have htype : o.type = o'.type := List.head_eq_of_cons_eq htypes
      simp only [ofPredicate, text, text_ofOperand, htype]
    | between _ _ | among _ | like _ _ => cases hoperator
  | between low high =>
    cases q with
    | between low' high' =>
      obtain ⟨hlow, hhigh⟩ : low.type = low'.type ∧ high.type = high'.type := by
        simpa [Predicate.operands] using htypes
      simp only [ofPredicate, text, text_ofOperand, hlow, hhigh]
    | compare _ _ | among _ | like _ _ => cases hoperator
  | among operands =>
    cases q with
    | among operands' =>
      have hplaces : (operands.map Place.ofOperand).map Place.text =
          (operands'.map Place.ofOperand).map Place.text := by
        rw [List.map_map, List.map_map]
        refine map_eq_map_of_imp (fun o o' htype => ?_) htypes
        show (Place.ofOperand o).text = (Place.ofOperand o').text
        rw [text_ofOperand, text_ofOperand, htype]
      simp only [ofPredicate, text, hplaces]
    | compare _ _ | between _ _ | like _ _ => cases hoperator
  | like needle ignoreCase =>
    cases q with
    | like needle' ignoreCase' =>
      cases hoperator
      rfl
    | compare _ _ | between _ _ | among _ => cases hoperator

/-- Conditions with the same texts have the same text together. -/
lemma whereText_congr {conditions others : List Condition}
    (h : conditions.map Condition.text = others.map Condition.text) :
    whereText conditions = whereText others := by
  have hempty : conditions.isEmpty = others.isEmpty := by
    rw [← List.isEmpty_map (f := Condition.text), h, List.isEmpty_map]
  rw [whereText, whereText, hempty, h]

/-- The statements of find options of the same shape have the same texts: nothing of the operands
comes into them. The operands are bound instead. -/
theorem statements_of_sameShape (hschema : schema.validate = .ok ()) {a b : FindOptions}
    (ha : ∀ name ∈ namedFields a.filters a.order, schema.declares name = true)
    (h : a.SameShape b) :
    ∃ select count select' count',
      (Select.ofOptions schema a = .ok select ∧ Count.ofOptions schema a = .ok count ∧
        Binds a select count) ∧
      (Select.ofOptions schema b = .ok select' ∧ Count.ofOptions schema b = .ok count' ∧
        Binds b select' count') ∧
      select.text = select'.text ∧ count.text = count'.text := by
  have hshapes : a.filters.map Predicate.shape = b.filters.map Predicate.shape := by
    refine SortedMap.eq_of_get? fun name => ?_
    rw [SortedMap.get?_map, SortedMap.get?_map, h.filters]
  have hentries : a.filters.entries.map (fun entry => (entry.1, entry.2.shape)) =
      b.filters.entries.map (fun entry => (entry.1, entry.2.shape)) :=
    congrArg SortedMap.entries hshapes
  have hnames : a.filters.names = b.filters.names := by
    refine map_eq_map_of_imp (fun x y e => ?_) hentries
    exact (Prod.mk.inj e).1
  have hclause : whereText (conditionsOf a.filters) = whereText (conditionsOf b.filters) := by
    apply whereText_congr
    rw [conditionsOf, conditionsOf, List.map_map, List.map_map]
    refine map_eq_map_of_imp (fun x y e => ?_) hentries
    obtain ⟨hname, hshape⟩ := Prod.mk.inj e
    show (Condition.ofPredicate x.1 x.2).text = (Condition.ofPredicate y.1 y.2).text
    rw [hname, Condition.text_congr y.1 hshape]
  have hb : ∀ name ∈ namedFields b.filters b.order, schema.declares name = true := by
    rwa [namedFields, ← hnames, ← h.order]
  obtain ⟨select, count, hselect, hcount, hbinds⟩ := binds_ofOptions hschema ha
  obtain ⟨select', count', hselect', hcount', hbinds'⟩ := binds_ofOptions hschema hb
  refine ⟨select, count, select', count', ⟨hselect, hcount, hbinds⟩, ⟨hselect', hcount', hbinds'⟩,
    ?_, ?_⟩
  · cases (ofOptions_eq ha).1.symm.trans hselect
    cases (ofOptions_eq hb).1.symm.trans hselect'
    rw [hbinds.select_text, hbinds'.select_text, hclause, Select.front, Select.front, Select.back,
      Select.back, h.order, h.take, h.skip]
  · cases (ofOptions_eq ha).2.symm.trans hcount
    cases (ofOptions_eq hb).2.symm.trans hcount'
    rw [hbinds.count_text, hbinds'.count_text, hclause]

/-- Talks, by number, title and time. -/
def talks : Schema :=
  ⟨"talks", [⟨"id", .integer⟩, ⟨"title", .text⟩, ⟨"at", .timestamp⟩]⟩

/-- The talks of some numbers whose title has a text in it, from a time on, the last ones first. -/
def talksLike (title : String) (first second : Int64) (start : Time.Instant) : FindOptions where
  filters := .ofList [("title", .like title true), ("id", .among [.integer first, .integer second]),
    ("at", .compare .moreOrEqual (.timestamp start))]
  order := .ofList [("at", .descending)]
  take := some 20

/-- A title that reads like the end of a statement does not end it. -/
theorem statements_of_quotedTitle :
    ∃ select count select' count',
      Select.ofOptions talks (talksLike "lean" 1 2 ⟨0, 0⟩) = .ok select ∧
      Count.ofOptions talks (talksLike "lean" 1 2 ⟨0, 0⟩) = .ok count ∧
      Select.ofOptions talks (talksLike "?' OR 'a' = 'a" 3 4 ⟨5, 0⟩) = .ok select' ∧
      Count.ofOptions talks (talksLike "?' OR 'a' = 'a" 3 4 ⟨5, 0⟩) = .ok count' ∧
      select.text = select'.text ∧ count.text = count'.text ∧
      select'.text.toList.count '?' = 4 ∧ select'.params = [.text "1970-01-01 00:00:05.000000",
        .integer 3, .integer 4, .text "%?' OR 'a' = 'a%"] := by
  have hschema : talks.validate = .ok () := by decide
  have hdeclared : ∀ name ∈ namedFields (talksLike "lean" 1 2 ⟨0, 0⟩).filters
      (talksLike "lean" 1 2 ⟨0, 0⟩).order, talks.declares name = true := by decide
  have hshapes : (talksLike "lean" 1 2 ⟨0, 0⟩).filters.map Predicate.shape =
      (talksLike "?' OR 'a' = 'a" 3 4 ⟨5, 0⟩).filters.map Predicate.shape := by decide
  have hshape : (talksLike "lean" 1 2 ⟨0, 0⟩).SameShape (talksLike "?' OR 'a' = 'a" 3 4 ⟨5, 0⟩) := by
    refine ⟨fun field => ?_, rfl, rfl, rfl⟩
    rw [← SortedMap.get?_map, ← SortedMap.get?_map, hshapes]
  obtain ⟨select, count, select', count', ⟨hselect, hcount, -⟩, ⟨hselect', hcount', hbinds⟩, htext,
    htext'⟩ := statements_of_sameShape hschema hdeclared hshape
  have hparams : select'.params = [.text "1970-01-01 00:00:05.000000", .integer 3, .integer 4,
      .text "%?' OR 'a' = 'a%"] := by
    rw [hbinds.select_params]
    decide +kernel
  have hplaces := hbinds.select_places
  rw [hparams] at hplaces
  exact ⟨select, count, select', count', hselect, hcount, hselect', hcount', htext, htext', hplaces,
    hparams⟩

end Sql

end PagedListing

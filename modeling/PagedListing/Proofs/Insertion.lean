import PagedListing.Proofs.Maps
import PagedListing.Proofs.Paging.Link

/-!
# Maps after insertions

Parameters and orderings keep the order of insertion. A map reflects the insertions that made it
(`OrderedMap.Reflects`): each name stands once in it, where it was inserted first, with the value that was
inserted last, and every look-up says the same. Further insertions into any map are reflected behind its own
entries, and so are the pairs of a query string (`insertions_reflected`).
-/

namespace PagedListing

/-- A list with an element behind it has one more element without its repetitions, unless it has it
already. -/
lemma eraseDups_concat {α : Type} [DecidableEq α] (l : List α) (a : α) :
    (l ++ [a]).eraseDups = if a ∈ l then l.eraseDups else l.eraseDups ++ [a] := by
  rw [List.eraseDups_append, List.cons_removeAll]
  by_cases h : a ∈ l
  · simp [h]
  · simp [h, List.eraseDups_cons]

namespace OrderedMap

variable {β : Type}

/-- A map holds what was inserted: each name once, in the order of the first insertions under them, and with
the value of the last one. -/
structure Reflects (m : OrderedMap β) (insertions : List (String × β)) : Prop where
  nodup : (entryNames m.entries).Nodup
  names : entryNames m.entries = (entryNames insertions).eraseDups
  get? : ∀ name, m.get? name = insertions.reverse.lookup name
  mem_entries : ∀ name value, (name, value) ∈ m.entries ↔ m.get? name = some value
  contains : ∀ name, m.contains name = true ↔ name ∈ entryNames m.entries

/-- The last of some insertions comes after the others. -/
lemma ofList_concat (insertions : List (String × β)) (entry : String × β) :
    ofList (insertions ++ [entry]) = (ofList insertions).insert entry.1 entry.2 :=
  List.foldl_append

/-- A map is made by the insertion of its own entries. -/
lemma ofList_entries (m : OrderedMap β) : ofList m.entries = m :=
  ext (entries_ofList m.nodup)

/-- Insertions into a map stand behind the entries that it has. -/
lemma putAll_eq_ofList (m : OrderedMap β) (insertions : List (String × β)) :
    m.putAll insertions = ofList (m.entries ++ insertions) := by
  rw [ofList_append, ofList_entries]

/-- The names stand in the order of the first insertions under them. -/
theorem names_ofList (insertions : List (String × β)) :
    (ofList insertions).names = (entryNames insertions).eraseDups := by
  induction insertions using List.reverseRecOn with
  | nil => rfl
  | append_singleton insertions entry ih =>
    have hnames : entryNames (insertions ++ [entry]) = entryNames insertions ++ [entry.1] :=
      List.map_append
    rw [ofList_concat, names_insert, ih, hnames, eraseDups_concat]
    simp only [List.mem_eraseDups]

/-- A look-up finds the last insertion under a name. -/
theorem get?_ofList (insertions : List (String × β)) (name : String) :
    (ofList insertions).get? name = insertions.reverse.lookup name := by
  induction insertions using List.reverseRecOn with
  | nil => rfl
  | append_singleton insertions entry ih =>
    rw [ofList_concat, get?_insert, ih, List.reverse_concat, List.lookup_cons]
    by_cases h : name = entry.1
    · rw [if_pos h, h, beq_self_eq_true]
    · rw [if_neg h, beq_false_of_ne h]

/-- A map contains the names that it has, and no others. -/
lemma contains_iff (m : OrderedMap β) (name : String) :
    m.contains name = true ↔ name ∈ m.names := by
  simp [contains, names, entryNames]

/-- A map reflects the insertions that made it. -/
theorem reflects_ofList (insertions : List (String × β)) : (ofList insertions).Reflects insertions where
  nodup := (ofList insertions).nodup
  names := names_ofList insertions
  get? := get?_ofList insertions
  mem_entries := mem_entries_iff _
  contains := contains_iff _

/-- A map after further insertions reflects its own entries and the insertions behind them. -/
theorem reflects_putAll (m : OrderedMap β) (insertions : List (String × β)) :
    (m.putAll insertions).Reflects (m.entries ++ insertions) := by
  rw [putAll_eq_ofList]
  exact reflects_ofList _

end OrderedMap

namespace Params

/-- Values under their names, as they are stored. -/
def literals (values : List (String × ParamValue)) : List (String × String) :=
  values.map fun entry => (entry.1, entry.2.literal)

/-- Parameters that are put one after another, as they stand, are inserted one after another. -/
lemma foldl_put (values : List (String × ParamValue)) (params : Params) :
    values.foldl (fun params entry => params.put entry.1 entry.2) params =
      params.putAll (literals values) := by
  rw [OrderedMap.putAll, literals, List.foldl_map]
  rfl

/-- The parameters of a query string are the pairs of its form, with or without a mark before it. -/
lemma ofQueryString_eq (query : String) :
    ofQueryString ("?" ++ query) = OrderedMap.ofList (Web.Form.read query) ∧
      (query.toList.head? ≠ some '?' → ofQueryString query = OrderedMap.ofList (Web.Form.read query)) := by
  have hmark := ofQueryString_mark query.toList
  rw [String.ofList_cons, String.ofList_toList] at hmark
  refine ⟨hmark, fun hhead => ?_⟩
  have hplain := ofQueryString_of_head? hhead
  rw [String.ofList_toList] at hplain
  exact hplain

end Params

/-- Parameters and orderings reflect what is inserted into them. -/
theorem insertions_reflected :
    (∀ (params : Params) (values : List (String × ParamValue)),
      (values.foldl (fun params entry => params.put entry.1 entry.2) params).Reflects
        (params.entries ++ Params.literals values)) ∧
    (∀ values, (Params.ofValues values).Reflects (Params.literals values)) ∧
    (∀ query, (Params.ofQueryString ("?" ++ query)).Reflects (Web.Form.read query) ∧
      (query.toList.head? ≠ some '?' → (Params.ofQueryString query).Reflects (Web.Form.read query))) ∧
    (∀ (params : Params) name value other, (params.put name value).get? other =
      if other = name then some value.literal else params.get? other) ∧
    (∀ (order : OrderSpec) (entries : List (String × Direction)),
      (entries.foldl (fun order entry => order.insert entry.1 entry.2) order).Reflects
        (order.entries ++ entries)) ∧
    ∀ (order : OrderSpec) name direction other, (order.insert name direction).get? other =
      if other = name then some direction else order.get? other := by
  refine ⟨?_, ?_, ?_, ?_, ?_, ?_⟩
  · intro params values
    rw [Params.foldl_put]
    exact params.reflects_putAll _
  · intro values
    rw [Params.ofValues, Params.foldl_put]
    exact OrderedMap.reflects_ofList _
  · intro query
    obtain ⟨hmark, hplain⟩ := Params.ofQueryString_eq query
    rw [hmark]
    refine ⟨OrderedMap.reflects_ofList _, fun hhead => ?_⟩
    rw [hplain hhead]
    exact OrderedMap.reflects_ofList _
  · exact fun params name value other => params.get?_insert name other value.literal
  · exact fun order entries => order.reflects_putAll entries
  · exact fun order name direction other => order.get?_insert name other direction

/-- A value takes the place of an earlier one under its name. -/
example : (Params.ofValues [("a", .text "1"), ("b", .integer 2), ("a", .text "3")]).entries =
    [("a", "3"), ("b", "2")] := by
  decide

end PagedListing

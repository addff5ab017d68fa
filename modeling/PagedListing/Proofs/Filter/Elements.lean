import PagedListing.Proofs.Filter.Operator

/-!
# Elements of a membership

The elements of a value are the texts between its commas. A membership passes over the blank ones and
has one operand for each of the others, in their order; it is refused if there are no others, and else
for the first of them that cannot be read. So every element counts exactly if none of them is blank or
all are (`Operator.among_elements`).
-/

namespace PagedListing
open PagedListing.Steps

variable {field raw : String} {type : FieldType} {elements : List String}

/-- A text that is no operand of a type is refused with the field, the text and the type. -/
lemma Operand.read_eq_error_iff {e : Error} :
    Operand.read field type raw = .error e ↔
      Operand.read? type raw = none ∧ e = .invalidValue field raw type.name := by
  unfold Operand.read
  split
  · rename_i v hread
    rw [hread]
    exact ⟨nofun, nofun⟩
  · rename_i hread
    constructor
    · rintro ⟨⟩
      exact ⟨hread, rfl⟩
    · rintro ⟨-, rfl⟩
      rfl

namespace Operator

/-- A value is joined of its elements, and no comma stands in them. -/
structure Elements (raw : String) (elements : List String) : Prop where
  nonempty : elements ≠ []
  apart : ∀ t ∈ elements, ',' ∉ t.toList
  joined : ",".intercalate elements = raw

/-- The elements that are not blank. -/
def filled (elements : List String) : List String :=
  elements.filter (Text.trim · ≠ "")

/-- An element that is not blank is read as an operand, without the blanks around it. -/
abbrev ReadAs (type : FieldType) (t : String) (o : Operand) : Prop :=
  Operand.read? type (Text.trim t) = some o

/-- The first of some elements that cannot be read refuses them. -/
def FirstMisread (field : String) (type : FieldType) (elements : List String) (e : Error) : Prop :=
  ∃ front t back, elements = front ++ t :: back ∧ (∀ earlier ∈ front, ∃ o, ReadAs type earlier o) ∧
    Operand.read? type (Text.trim t) = none ∧ e = .invalidValue field (Text.trim t) type.name

/-- Every element of a value counts: a membership has one operand for each, and a blank element is
refused as a wrong number of values. -/
structure EveryCounts (field : String) (type : FieldType) (raw : String) (elements : List String) :
    Prop where
  made : ∀ p, among.build field type raw = .ok p → (∀ t ∈ elements, Text.trim t ≠ "") ∧
    ∃ operands, p = .among operands ∧ operands.length = raw.toList.count ',' + 1 ∧
      List.Forall₂ (ReadAs type) elements operands
  refused : (∃ t ∈ elements, Text.trim t = "") →
    ∃ expected found, among.build field type raw = .error (.wrongArity "in" expected found)

/-! ## Elements -/

/-- The pieces between the commas are the elements of a list. -/
lemma elements_listPieces (raw : String) : Elements raw (listPieces raw) where
  nonempty h := Text.pieces_ne_nil ',' raw.toList (List.map_eq_nil_iff.mp h)
  apart := by
    intro t ht
    obtain ⟨piece, hpiece, rfl⟩ := List.mem_map.mp ht
    rw [String.toList_ofList]
    exact Text.not_mem_of_mem_pieces hpiece
  joined := by
    have hback : (listPieces raw).map String.toList = Text.pieces ',' raw.toList := by
      rw [listPieces, List.map_map]
      exact List.map_id'' (fun _ => String.toList_ofList) _
    rw [← String.toList_inj, String.toList_intercalate, hback]
    exact Text.intercalate_pieces ',' raw.toList

/-- A value has no other elements. -/
lemma Elements.eq_listPieces (h : Elements raw elements) : elements = listPieces raw := by
  rw [← h.joined, listPieces_intercalate h.nonempty h.apart]

/-- A list has one piece more than commas. -/
lemma length_listPieces (raw : String) : (listPieces raw).length = raw.toList.count ',' + 1 := by
  rw [listPieces, List.length_map, Text.length_pieces]

/-- The items of a list are its pieces that are not blank, without the blanks around them. -/
lemma listItems_eq (raw : String) : listItems raw = (filled (listPieces raw)).map Text.trim := by
  rw [listItems, List.filter_map]
  rfl

/-- No element is left if all are blank. -/
lemma filled_eq_nil_iff : filled elements = [] ↔ ∀ t ∈ elements, Text.trim t = "" := by
  simp only [filled, List.filter_eq_nil_iff, decide_eq_true_eq, ne_eq, not_not]

/-- All elements are left if none is blank. -/
lemma filled_eq_self_iff : filled elements = elements ↔ ∀ t ∈ elements, Text.trim t ≠ "" := by
  simp only [filled, List.filter_eq_self, decide_eq_true_eq]

/-! ## What is made of them -/

/-- A list is read as operands if each of its elements is read as the operand in its place. -/
lemma mapM_read_eq_ok_iff {operands : List Operand} :
    (elements.map Text.trim).mapM (Operand.read field type) = .ok operands ↔
      List.Forall₂ (ReadAs type) elements operands := by
  simp only [mapM_eq_ok_iff, List.forall₂_map_left_iff, Operand.read_eq_ok_iff]

/-- A list is refused for its first element that cannot be read. -/
lemma mapM_read_eq_error_iff {e : Error} :
    (elements.map Text.trim).mapM (Operand.read field type) = .error e ↔
      FirstMisread field type elements e := by
  rw [mapM_eq_error_iff]
  constructor
  · rintro ⟨front, item, back, hitems, hfront, hitem⟩
    obtain ⟨front, rest, rfl, rfl, hrest⟩ := List.map_eq_append_iff.mp hitems
    obtain ⟨t, back, rfl, rfl, rfl⟩ := List.map_eq_cons_iff.mp hrest
    obtain ⟨hnone, rfl⟩ := Operand.read_eq_error_iff.mp hitem
    refine ⟨front, t, back, rfl, fun earlier hmem => ?_, hnone, rfl⟩
    obtain ⟨o, hread⟩ := hfront _ (List.mem_map_of_mem hmem)
    exact ⟨o, Operand.read_eq_ok_iff.mp hread⟩
  · rintro ⟨front, t, back, rfl, hfront, hnone, rfl⟩
    refine ⟨front.map Text.trim, Text.trim t, back.map Text.trim, ?_, fun item hmem => ?_,
      Operand.read_eq_error_iff.mpr ⟨hnone, rfl⟩⟩
    · rw [List.map_append, List.map_cons]
    · obtain ⟨earlier, hearlier, rfl⟩ := List.mem_map.mp hmem
      obtain ⟨o, hread⟩ := hfront earlier hearlier
      exact ⟨o, Operand.read_eq_ok_iff.mpr hread⟩

/-- A membership has one operand for each element that is not blank, and at least one. -/
lemma build_among_eq_ok_iff {p : Predicate} :
    among.build field type raw = .ok p ↔ filled (listPieces raw) ≠ [] ∧
      ∃ operands, p = .among operands ∧
        List.Forall₂ (ReadAs type) (filled (listPieces raw)) operands := by
  have hnil : listItems raw = [] ↔ filled (listPieces raw) = [] := by
    rw [listItems_eq, List.map_eq_nil_iff]
  rw [build_eq_ok_iff]
  constructor
  · rintro ⟨⟩
    rename_i operands hne hread
    rw [listItems_eq, mapM_read_eq_ok_iff] at hread
    exact ⟨mt hnil.mpr hne, operands, rfl, hread⟩
  · rintro ⟨hne, operands, rfl, hread⟩
    refine .among (mt hnil.mp hne) ?_
    rw [listItems_eq, mapM_read_eq_ok_iff]
    exact hread

/-- A membership is refused if all elements are blank, or for the first other one that is misread. -/
lemma build_among_eq_error_iff {e : Error} :
    among.build field type raw = .error e ↔
      filled (listPieces raw) = [] ∧ e = .wrongArity "in" "at least 1" 0 ∨
      FirstMisread field type (filled (listPieces raw)) e := by
  rw [← mapM_read_eq_error_iff, ← listItems_eq, ← List.map_eq_nil_iff, ← listItems_eq]
  unfold build
  dsimp only
  split
  · rename_i hitems
    rw [hitems]
    constructor
    · rintro ⟨⟩
      exact .inl ⟨rfl, rfl⟩
    · rintro (⟨-, rfl⟩ | h)
      · rfl
      · cases h
  · rename_i hitems
    rw [bind_eq_error_iff]
    constructor
    · rintro (hread | ⟨operands, -, h⟩)
      · exact .inr hread
      · cases h
    · rintro (⟨hnil, -⟩ | hread)
      · exact absurd hnil hitems
      · exact .inl hread

/-- If no element is blank, every element counts. -/
lemma EveryCounts.of_filled (h : filled (listPieces raw) = listPieces raw) :
    EveryCounts field type raw (listPieces raw) where
  made := by
    intro p hbuild
    obtain ⟨-, operands, rfl, hread⟩ := build_among_eq_ok_iff.mp hbuild
    rw [h] at hread
    refine ⟨filled_eq_self_iff.mp h, operands, rfl, ?_, hread⟩
    rw [← hread.length_eq, length_listPieces]
  refused := by
    rintro ⟨t, ht, hblank⟩
    exact absurd hblank (filled_eq_self_iff.mp h t ht)

/-- If all elements are blank, there is no element to count, and the list is refused. -/
lemma EveryCounts.of_blank (h : filled (listPieces raw) = []) :
    EveryCounts field type raw (listPieces raw) where
  made := fun _ hbuild => absurd h (build_among_eq_ok_iff.mp hbuild).1
  refused := fun _ => ⟨"at least 1", 0, build_among_eq_error_iff.mpr (.inl ⟨h, rfl⟩)⟩

/-- A value with blank elements and others is not refused for their number. -/
lemma EveryCounts.cases (h : EveryCounts field type raw (listPieces raw)) :
    filled (listPieces raw) = listPieces raw ∨ filled (listPieces raw) = [] := by
  by_cases hblank : ∃ t ∈ listPieces raw, Text.trim t = ""
  · obtain ⟨expected, found, hrefused⟩ := h.refused hblank
    obtain ⟨hnil, -⟩ | ⟨_, _, _, _, _, _, e⟩ := build_among_eq_error_iff.mp hrefused
    · exact .inr hnil
    · cases e
  · refine .inl (filled_eq_self_iff.mpr fun t ht e => hblank ⟨t, ht, e⟩)

/-- A membership has one operand for each element of its list that is not blank, in their order. It is
refused for the number of values if all elements are blank, and else for the first that is misread. -/
theorem among_elements (field : String) (type : FieldType) (raw : String) :
    ∃ elements, (∀ others, Elements raw others ↔ others = elements) ∧
      elements.length = raw.toList.count ',' + 1 ∧
      (∀ p, among.build field type raw = .ok p ↔ filled elements ≠ [] ∧
        ∃ operands, p = .among operands ∧ List.Forall₂ (ReadAs type) (filled elements) operands) ∧
      (∀ e, among.build field type raw = .error e ↔
        filled elements = [] ∧ e = .wrongArity "in" "at least 1" 0 ∨
        FirstMisread field type (filled elements) e) ∧
      (EveryCounts field type raw elements ↔
        (∀ t ∈ elements, Text.trim t ≠ "") ∨ ∀ t ∈ elements, Text.trim t = "") := by
  refine ⟨listPieces raw, fun others => ⟨fun h => h.eq_listPieces, ?_⟩, length_listPieces raw,
    fun p => build_among_eq_ok_iff, fun e => build_among_eq_error_iff, ?_⟩
  · rintro rfl
    exact elements_listPieces raw
  rw [← filled_eq_self_iff, ← filled_eq_nil_iff]
  exact ⟨EveryCounts.cases, fun h => h.elim .of_filled .of_blank⟩

/-- An element is left empty between two numbers, and a membership in the two numbers is made: not every
element counts. -/
theorem among_passesOver :
    Elements "1,,3" ["1", "", "3"] ∧
      among.build "id" .integer "1,,3" = .ok (.among [.integer 1, .integer 3]) ∧
      ¬ EveryCounts "id" .integer "1,,3" ["1", "", "3"] := by
  have hbuild : among.build "id" .integer "1,,3" = .ok (.among [.integer 1, .integer 3]) := by decide
  refine ⟨⟨by decide, by decide, by decide⟩, hbuild, fun h => ?_⟩
  obtain ⟨expected, found, hrefused⟩ := h.refused ⟨"", by decide, by decide⟩
  rw [hbuild] at hrefused
  cases hrefused

end Operator

end PagedListing

import PagedListing.Proofs.Filter.Operator

/-!
# Membership and equality

A membership is made of the pieces of a value between its commas, without the blanks around them, and it
holds of what equals one of them (`Operator.among_union`). Blanks around a value mean something to texts
only: for every other type the pieces may be taken as they stand, and for texts exactly if there are no
blanks around any of them.
-/

namespace PagedListing
open PagedListing.Steps

variable {field : String} {type : FieldType}

/-- The filter for equality with a value. -/
abbrev Operator.equal : Operator := .compare .equal

/-- Blanks around a value do not matter unless it is a text. -/
lemma Operand.read?_trim (h : type ≠ .text) (raw : String) :
    Operand.read? type (Text.trim raw) = Operand.read? type raw := by
  cases type with
  | text => exact absurd rfl h
  | integer | float | boolean | timestamp => simp only [Operand.read?, Text.trim_trim]

namespace Operator

/-- An equality is built from the one operand that its value is read as. -/
lemma build_equal_iff {raw : String} {p : Predicate} :
    equal.build field type raw = .ok p ↔
      ∃ o, Operand.read field type raw = .ok o ∧ p = .compare .equal o := by
  rw [build_eq_ok_iff]
  constructor
  · rintro ⟨⟩
    exact ⟨_, ‹_›, rfl⟩
  · rintro ⟨o, hread, rfl⟩
    exact .compare .equal hread

/-- For every type but that of texts a value and the value without blanks around it are the same. -/
lemma build_equal_trim (h : type ≠ .text) {raw : String} {p : Predicate} :
    equal.build field type (Text.trim raw) = .ok p ↔ equal.build field type raw = .ok p := by
  simp only [build_equal_iff, Operand.read_eq_ok_iff, Operand.read?_trim h]

/-- What is read without blanks around it is not empty, unless it is a text. -/
lemma trim_ne_empty_of_build (h : type ≠ .text) {raw : String} {p : Predicate}
    (hbuild : equal.build field type raw = .ok p) : Text.trim raw ≠ "" := by
  intro hempty
  obtain ⟨o, hread, -⟩ := build_equal_iff.mp hbuild
  rw [Operand.read_eq_ok_iff, ← Operand.read?_trim h, hempty, Operand.read?_empty h] at hread
  cases hread

/-- A value without blanks around it is accepted where the value is. -/
lemma exists_build_trim {raw : String} (h : ∃ p, equal.build field type raw = .ok p) :
    ∃ p, equal.build field type (Text.trim raw) = .ok p := by
  by_cases htype : type = .text
  · subst htype
    exact ⟨_, build_equal_iff.mpr ⟨.text (Text.trim raw), rfl, rfl⟩⟩
  · obtain ⟨p, hp⟩ := h
    exact ⟨p, (build_equal_trim htype).mpr hp⟩

/-- Joined values of which none is blank are the items of a list, without the blanks around them. -/
lemma listItems_intercalate {texts : List String} (hne : texts ≠ [])
    (hcomma : ∀ t ∈ texts, ',' ∉ t.toList) (hblank : ∀ t ∈ texts, Text.trim t ≠ "") :
    listItems (",".intercalate texts) = texts.map Text.trim := by
  rw [listItems, listPieces_intercalate hne hcomma, List.filter_eq_self]
  intro item hitem
  obtain ⟨t, ht, rfl⟩ := List.mem_map.mp hitem
  exact decide_eq_true (hblank t ht)

variable {texts : List String}

/-- Values that are accepted one by one, none of them blank, are accepted together. -/
lemma exists_build_among (hne : texts ≠ []) (hcomma : ∀ t ∈ texts, ',' ∉ t.toList)
    (haccepted : ∀ t ∈ texts, ∃ q, equal.build field type t = .ok q)
    (hblank : ∀ t ∈ texts, Text.trim t ≠ "") :
    ∃ operands, (texts.map Text.trim).mapM (Operand.read field type) = .ok operands ∧
      among.build field type (",".intercalate texts) = .ok (.among operands) := by
  obtain ⟨operands, hoperands⟩ : ∃ operands,
      (texts.map Text.trim).mapM (Operand.read field type) = .ok operands := by
    refine exists_mapM_eq_ok fun item hitem => ?_
    obtain ⟨t, ht, rfl⟩ := List.mem_map.mp hitem
    obtain ⟨q, hq⟩ := exists_build_trim (haccepted t ht)
    obtain ⟨o, hread, -⟩ := build_equal_iff.mp hq
    exact ⟨o, hread⟩
  have hitems := listItems_intercalate hne hcomma hblank
  refine ⟨operands, hoperands, build_eq_ok_iff.mpr (.among ?_ ?_)⟩
  · rw [hitems]
    exact fun h => hne (List.map_eq_nil_iff.mp h)
  · rw [hitems]
    exact hoperands

end Operator

namespace Predicate

/-- A membership holds where an equality with one of its operands does. -/
lemma holds_among_iff {operands : List Operand} {value : Json} :
    (among operands).holds value = true ↔
      ∃ o ∈ operands, (compare .equal o).holds value = true := by
  unfold holds
  split
  · simp
  · exact List.any_eq_true

/-- An equality with a text holds of this text only. -/
lemma holds_equal_text_iff {s t : String} :
    (compare .equal (.text s)).holds (.str t) = true ↔ t = s := by
  show decide (Ord.compare t s = Ordering.eq) = true ↔ t = s
  rw [decide_eq_true_eq, Std.compare_eq_iff_eq]

/-- A membership in what is read from some values holds where equality with one of them does. -/
lemma holds_among_of_mapM {items : List String} {operands : List Operand}
    (h : items.mapM (Operand.read field type) = .ok operands) (value : Json) :
    (among operands).holds value = true ↔
      ∃ item ∈ items, ∃ q, Operator.equal.build field type item = .ok q ∧ q.holds value = true := by
  rw [holds_among_iff]
  constructor
  · rintro ⟨o, ho, hequal⟩
    obtain ⟨item, hitem, hread⟩ := (mem_iff_of_mapM_eq_ok h).mp ho
    exact ⟨item, hitem, _, Operator.build_equal_iff.mpr ⟨o, hread, rfl⟩, hequal⟩
  · rintro ⟨item, hitem, q, hq, hequal⟩
    obtain ⟨o, hread, rfl⟩ := Operator.build_equal_iff.mp hq
    exact ⟨o, (mem_iff_of_mapM_eq_ok h).mpr ⟨item, hitem, hread⟩, hequal⟩

end Predicate

/-- A membership is the union of equalities: it holds of a value exactly if equality with one of the
texts of its list does, without the blanks around them. The blanks make a difference for texts only. -/
theorem Operator.among_union (field : String) {type : FieldType} {texts : List String}
    (hne : texts ≠ []) (hcomma : ∀ t ∈ texts, ',' ∉ t.toList)
    (haccepted : ∀ t ∈ texts, ∃ q, equal.build field type t = .ok q)
    (hblank : type = .text → ∀ t ∈ texts, Text.trim t ≠ "") :
    ∃ p, among.build field type (",".intercalate texts) = .ok p ∧
      (∀ value, p.holds value = true ↔
        ∃ t ∈ texts, ∃ q, equal.build field type (Text.trim t) = .ok q ∧ q.holds value = true) ∧
      ((∀ value, p.holds value = true ↔
        ∃ t ∈ texts, ∃ q, equal.build field type t = .ok q ∧ q.holds value = true) ↔
        (type = .text → ∀ t ∈ texts, Text.trim t = t)) := by
  have hblank' : ∀ t ∈ texts, Text.trim t ≠ "" := by
    intro t ht
    by_cases htype : type = .text
    · exact hblank htype t ht
    · obtain ⟨q, hq⟩ := haccepted t ht
      exact trim_ne_empty_of_build htype hq
  obtain ⟨operands, hoperands, hbuild⟩ := exists_build_among hne hcomma haccepted hblank'
  have hholds : ∀ value, (Predicate.among operands).holds value = true ↔
      ∃ t ∈ texts, ∃ q, equal.build field type (Text.trim t) = .ok q ∧ q.holds value = true := by
    intro value
    rw [Predicate.holds_among_of_mapM hoperands]
    simp only [List.mem_map, exists_exists_and_eq_and]
  refine ⟨_, hbuild, hholds, fun hunion htype t ht => ?_, fun htrim value => ?_⟩
  · subst htype
    -- a text is a member itself, so it is one of the texts without blanks around them
    have hmember : (Predicate.among operands).holds (.str t) = true :=
      (hunion (.str t)).mpr ⟨t, ht, _, build_equal_iff.mpr ⟨_, rfl, rfl⟩,
        Predicate.holds_equal_text_iff.mpr rfl⟩
    obtain ⟨other, -, q, hq, hequal⟩ := (hholds (.str t)).mp hmember
    obtain ⟨o, ⟨⟩, rfl⟩ := build_equal_iff.mp hq
    rw [Predicate.holds_equal_text_iff.mp hequal, Text.trim_trim]
  · rw [hholds]
    refine exists_congr fun t => and_congr_right fun ht => ?_
    by_cases htype : type = .text
    · rw [htrim htype t ht]
    · simp only [build_equal_trim htype]

/-- Two titles, one of them behind a blank: the membership holds of the title without it, and is not the
union of the equalities with both as they stand. -/
theorem Operator.among_union_titles :
    (∀ t ∈ [" On trees", "Roots"], ∃ q, equal.build "title" .text t = .ok q) ∧
      ∃ p, among.build "title" .text " On trees,Roots" = .ok p ∧
        p.holds (.str "On trees") = true ∧
        ¬ ∀ value, p.holds value = true ↔
          ∃ t ∈ [" On trees", "Roots"], ∃ q, equal.build "title" .text t = .ok q ∧
            q.holds value = true := by
  have haccepted : ∀ t ∈ [" On trees", "Roots"], ∃ q, equal.build "title" .text t = .ok q :=
    fun t _ => ⟨.compare .equal (.text t), rfl⟩
  obtain ⟨p, hbuild, hholds, hunion⟩ := among_union "title" (List.cons_ne_nil _ _) (by decide)
    haccepted fun _ => by decide
  refine ⟨haccepted, p, hbuild, (hholds _).mpr ⟨" On trees", by decide, _, rfl, by decide⟩, ?_⟩
  rw [hunion]
  exact fun h => absurd (h rfl " On trees" List.mem_cons_self) (by decide)

/-- A text with blanks around it equals itself, and yet is no member of the list of it alone; and the
empty text, which equality accepts, makes no list. -/
theorem Operator.among_misses_padded :
    (∃ q, equal.build "title" .text " Roots " = .ok q ∧ q.holds (.str " Roots ") = true) ∧
      (∃ p, among.build "title" .text (",".intercalate [" Roots "]) = .ok p ∧
        p.holds (.str " Roots ") = false) ∧
      (∃ q, equal.build "title" .text "" = .ok q) ∧
      among.build "title" .text (",".intercalate [""]) = .error (.wrongArity "in" "at least 1" 0) := by
  refine ⟨⟨.compare .equal (.text " Roots "), rfl, by decide⟩,
    ⟨.among [.text "Roots"], by decide, by decide⟩, ⟨.compare .equal (.text ""), rfl⟩, by decide⟩

end PagedListing

import PagedListing.Proofs.Filter.Key
import PagedListing.Proofs.Schema

/-!
# Fields that keys can address

A valid schema may declare fields that are not to be read from a key: the name of a field is cut where a
separator stands in it, and where one begins with its last character in front of an operator. The keys
on a field are read as meant exactly if neither is the case (`addressable_iff`).
-/

namespace PagedListing.Directive

/-- The keys on a field are read as the directives that they are meant to be. -/
structure Addressable (name : String) : Prop where
  filter : ofKey (filterMark ++ name) = .ok (some (.filter name none))
  filterBy : ∀ operator : Operator, ofKey (filterMark ++ name ++ "__" ++ operator.token) =
    .ok (some (.filter name (some operator)))
  order : ofKey (orderMark ++ name) = .ok (some (.order name))

/-- The field of a written directive stands in its key as a whole. -/
lemma whole_field_of_written {key : String} {d : Directive} (h : Written d key) :
    Whole d.field.toList := by
  cases h with
  | filter _ hwhole => exact hwhole
  | filterBy _ _ hwhole => exact hwhole.of_append
  | order _ hwhole => exact hwhole

variable {name : String}

/-- A filter key without an operator is read as such exactly if its field has no separator. -/
lemma ofKey_filter_iff (hname : isIdentifier name = true) :
    ofKey (filterMark ++ name) = .ok (some (.filter name none)) ↔ Whole name.toList :=
  ofKey_eq_some_iff.trans ⟨whole_field_of_written, .filter hname⟩

/-- An ordering key is read as such exactly if its field has no separator. -/
lemma ofKey_order_iff (hname : isIdentifier name = true) :
    ofKey (orderMark ++ name) = .ok (some (.order name)) ↔ Whole name.toList :=
  ofKey_eq_some_iff.trans ⟨whole_field_of_written, .order hname⟩

/-- A filter key with an operator is read as such exactly if no separator begins inside the field or at
its end. -/
lemma ofKey_filterBy_iff (hname : isIdentifier name = true) (operator : Operator) :
    ofKey (filterMark ++ name ++ "__" ++ operator.token) =
      .ok (some (.filter name (some operator))) ↔ Whole (name.toList ++ ['_']) := by
  rw [ofKey_eq_some_iff]
  constructor
  · intro h
    cases h with
    | filterBy _ _ hwhole => exact hwhole
  · exact .filterBy operator hname

/-- A declared field can be addressed by all of its keys exactly if no separator stands in its name with
an underscore behind it. For a filter without an operator and an order it is enough that no separator
stands in it. -/
theorem addressable_iff {schema : Schema} (hschema : schema.validate = .ok ())
    (hname : schema.declares name = true) :
    (Addressable name ↔ Whole (name.toList ++ ['_'])) ∧
      (ofKey (filterMark ++ name) = .ok (some (.filter name none)) ↔ Whole name.toList) ∧
      (∀ operator : Operator, ofKey (filterMark ++ name ++ "__" ++ operator.token) =
        .ok (some (.filter name (some operator))) ↔ Whole (name.toList ++ ['_'])) ∧
      (ofKey (orderMark ++ name) = .ok (some (.order name)) ↔ Whole name.toList) ∧
      ((∃ key d, ofKey key = .ok (some d) ∧ d.field = name) ↔ Whole name.toList) := by
  have hidentifier := Schema.isIdentifier_of_declares hschema hname
  refine ⟨⟨fun h => ?_, fun h => ⟨?_, fun operator => ?_, ?_⟩⟩, ofKey_filter_iff hidentifier,
    ofKey_filterBy_iff hidentifier, ofKey_order_iff hidentifier, ?_⟩
  · exact (ofKey_filterBy_iff hidentifier .among).mp (h.filterBy .among)
  · exact (ofKey_filter_iff hidentifier).mpr h.of_append
  · exact (ofKey_filterBy_iff hidentifier operator).mpr h
  · exact (ofKey_order_iff hidentifier).mpr h.of_append
  · constructor
    · rintro ⟨key, d, hread, rfl⟩
      exact whole_field_of_written (ofKey_eq_some_iff.mp hread)
    · exact fun h => ⟨_, _, (ofKey_filter_iff hidentifier).mpr h, rfl⟩

/-- Fields with underscores where keys have them too. -/
def underscored : Schema :=
  ⟨"logs", [⟨"_created_at", .timestamp⟩, ⟨"a", .integer⟩, ⟨"a__in", .integer⟩, ⟨"note_", .text⟩]⟩

/-- Single underscores inside and in front of a name do no harm. -/
theorem addressable_createdAt :
    underscored.validate = .ok () ∧ underscored.declares "_created_at" = true ∧
      Addressable "_created_at" := by
  have hschema : underscored.validate = .ok () := rfl
  have hname : underscored.declares "_created_at" = true := by decide
  exact ⟨hschema, hname, (addressable_iff hschema hname).1.mpr (by decide)⟩

/-- The schema is valid, and yet a filter on one field is read as one on another, an order by it is
malformed, and no operator is found behind a name that ends in an underscore. -/
theorem not_addressable_underscored :
    underscored.validate = .ok () ∧ underscored.declares "a__in" = true ∧
      underscored.declares "note_" = true ∧
      ofKey "where__a__in" = .ok (some (.filter "a" (some .among))) ∧
      ofKey "order__a__in" = .error (.malformedKey "order__a__in") ∧
      ofKey "where__note___equal" = .error (.unknownOperator "_equal") := by
  decide

end PagedListing.Directive

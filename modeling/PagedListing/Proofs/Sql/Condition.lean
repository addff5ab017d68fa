import PagedListing.Proofs.Filter.Operator
import PagedListing.Proofs.Sql.Cast
import PagedListing.Proofs.Sql.Like
import PagedListing.Sql.Cell.Form
import PagedListing.Sql.Table

/-!
# Conditions and predicates

A field of each type but numbers with a point has a column type of its own (`Cell.Stores`). The
condition that a predicate puts on such a column is true of a cell exactly when the predicate holds of
the JSON form of the cell (`Condition.truth_ofPredicate`). A missing cell makes every condition
unknown, and no predicate holds of null; of any other cell both sides come down to one comparison
(`Cell.compare?_operand`).
-/

namespace PagedListing.Sql
open PagedListing.Time
open PagedListing.Number

/-! ## Stored cells -/

/-- A cell is missing or of the column type of a field: 64 bits for integers, and microseconds in the
years of four digits for timestamps. -/
inductive Cell.Stores : FieldType → Cell → Prop where
  | null {type : FieldType} : Stores type .null
  | integer (n : Int64) : Stores .integer (.integer .big n.toInt)
  | text (s : String) : Stores .text (.text s)
  | boolean (b : Bool) : Stores .boolean (.boolean b)
  | timestamp (count : Int64) (h : 0 ≤ (Instant.ofMicros count.toInt).date.year ∧
      (Instant.ofMicros count.toInt).date.year ≤ 9999) :
      Stores .timestamp (.timestamp .microsecond count)

namespace Cell

variable {type : FieldType} {c : Cell} {v : Json}

/-- The form of a timestamp that the calendar has is its text. -/
lemma form?_of_timestampText? {unit : TimeUnit} {count : Int64} {written : String}
    (h : timestampText? unit count = some written) :
    (Cell.timestamp unit count).form? = some (.str written) := by
  unfold form?
  dsimp only
  rw [h]

/-- A plain timestamp has the form of its instant. -/
lemma form?_timestamp {count : Int64} (h : (Instant.ofMicros count.toInt).IsPlain) :
    (Cell.timestamp .microsecond count).form? =
      some (.str (Instant.ofMicros count.toInt).zuluMicroText) :=
  form?_of_timestampText? (if_pos (Instant.inRange_date h))

/-- A cell that is stored under a type has a form. -/
lemma exists_form? (h : c.Stores type) : ∃ v, c.form? = some v := by
  cases h with
  | timestamp count h => exact ⟨_, form?_timestamp (Instant.isPlain_ofMicros h)⟩
  | null | integer _ | text _ | boolean _ => exact ⟨_, rfl⟩

/-- A stored cell is null if its form is. -/
lemma isNull_form (h : c.Stores type) (hform : c.form? = some v) : v.isNull = c.isNull := by
  cases h with
  | timestamp count h =>
    rw [form?_timestamp (Instant.isPlain_ofMicros h)] at hform
    cases hform
    rfl
  | null | integer _ | text _ | boolean _ =>
    cases hform
    rfl

/-- Nothing is compared with null. -/
lemma compare?_null (d : Cell) : Cell.null.compare? d = none := by
  cases d <;> rfl

/-- Timestamps are compared as their instants. -/
lemma compare?_timestamp (m n : Int64) :
    (Cell.timestamp .microsecond m).compare? (.timestamp .microsecond n) =
      some (compare (Instant.ofMicros m.toInt) (Instant.ofMicros n.toInt)) := by
  have hscale : compare (m.toInt * 1000) (n.toInt * 1000) = compare m.toInt n.toInt := by
    rcases Int.lt_trichotomy m.toInt n.toInt with hlt | heq | hgt
    · rw [Int.compare_eq_lt.mpr hlt, Int.compare_eq_lt.mpr (by omega)]
    · rw [heq, Int.compare_eq_eq.mpr rfl, Int.compare_eq_eq.mpr rfl]
    · rw [Int.compare_eq_gt.mpr hgt, Int.compare_eq_gt.mpr (by omega)]
  rw [Instant.compare_ofMicros, ← hscale]
  rfl

/-- The value bound for an operand compares with a stored cell as the operand with its form. -/
theorem compare?_operand {o : Operand} (h : c.Stores type) (hform : c.form? = some v)
    (htype : o.type = type) (hplain : ∀ x, o = .timestamp x → x.IsPlain) :
    ∃ d, (Place.ofOperand o).cell? = some d ∧ c.compare? d = o.compare? v := by
  -- a cell that is not missing has an operand of its own type beside it
  cases h with
  | null =>
    cases hform
    cases o with
    | timestamp x => exact ⟨_, ofText?_plainMicroText (hplain x rfl), compare?_null _⟩
    | integer _ | float _ | text _ | boolean _ => exact ⟨_, rfl, compare?_null _⟩
  | integer n =>
    cases hform
    cases o with
    | integer m =>
      refine ⟨_, rfl, ?_⟩
      simp only [Operand.compare?, Json.asInt64?, int64?_toInt]
      rfl
    | float _ | text _ | boolean _ | timestamp _ => cases htype
  | text s =>
    cases hform
    cases o with
    | text _ => exact ⟨_, rfl, rfl⟩
    | integer _ | float _ | boolean _ | timestamp _ => cases htype
  | boolean b =>
    cases hform
    cases o with
    | boolean _ => exact ⟨_, rfl, rfl⟩
    | integer _ | float _ | text _ | timestamp _ => cases htype
  | timestamp count hyear =>
    have hcount := Instant.isPlain_ofMicros hyear
    rw [form?_timestamp hcount] at hform
    cases hform
    cases o with
    | timestamp x =>
      have hx := hplain x rfl
      refine ⟨_, ofText?_plainMicroText hx, ?_⟩
      have hvalue (s : String) : (Operand.timestamp x).compare? (.str s) =
          (Instant.read? s).map (compare · x) := rfl
      rw [compare?_timestamp, toInt_micros hx, Instant.ofMicros_micros hx, hvalue,
        Instant.read?_zuluMicroText hcount, Option.map_some]
    | integer _ | float _ | text _ | boolean _ => cases htype

end Cell

/-! ## Truth values -/

namespace Truth

/-- A conjunction is true if both sides are. -/
lemma and_eq_true_iff {a b : Truth} : a.and b = some true ↔ a = some true ∧ b = some true := by
  rcases a with - | - | - <;> rcases b with - | - | - <;> decide

/-- A disjunction is true if one of the sides is. -/
lemma or_eq_true_iff {a b : Truth} : a.or b = some true ↔ a = some true ∨ b = some true := by
  rcases a with - | - | - <;> rcases b with - | - | - <;> decide

/-- A disjunction is true if one of its members is. -/
lemma any_eq_true_iff {truths : List Truth} : any truths = some true ↔ some true ∈ truths := by
  induction truths with
  | nil => exact ⟨nofun, nofun⟩
  | cons first rest ih =>
    show first.or (any rest) = some true ↔ _
    rw [or_eq_true_iff, ih, List.mem_cons, eq_comm]

end Truth

/-! ## Conditions -/

/-- A text of ASCII. -/
def IsAscii (s : String) : Prop :=
  ∀ c ∈ s.toList, c.toNat < 0x80

/-- Whether a text is one of ASCII is decided by its characters. -/
instance (s : String) : Decidable (IsAscii s) :=
  decidable_of_iff (s.toList.all fun c => c.toNat < 0x80) (by simp [IsAscii])

/-- The timestamps among the operands of a predicate are bound without loss. -/
def Bindable (p : Predicate) : Prop :=
  ∀ x, .timestamp x ∈ p.operands → x.IsPlain

section
variable {type : FieldType} {c : Cell} {v : Json}

/-- A stored cell stands in a relation to a bound value where its form stands in it to the operand. -/
lemma relate_operand {o : Operand} (h : c.Stores type) (hform : c.form? = some v)
    (htype : o.type = type) (hplain : ∀ x, o = .timestamp x → x.IsPlain) (relation : Relation) :
    relate c relation (.ofOperand o) = some true ↔ Predicate.related v relation o = true := by
  obtain ⟨d, hd, hcompare⟩ := Cell.compare?_operand h hform htype hplain
  have hrelate : relate c relation (.ofOperand o) = (o.compare? v).map relation.holds := by
    rw [← hcompare]
    show ((Place.ofOperand o).cell?.bind fun d => (c.compare? d).bind fun o => some (relation.holds o)) = _
    rw [hd]
    exact Option.map_eq_bind.symm
  rw [hrelate, Predicate.related]
  cases o.compare? v with
  | none => exact ⟨nofun, nofun⟩
  | some ordering =>
    rw [Option.map_some, Option.any_some]
    exact ⟨fun e => Option.some.inj e, fun e => congrArg some e⟩

/-- No condition is true of a missing cell. -/
lemma truth_null (p : Predicate) (column : String) :
    (Condition.ofPredicate column p).truth .null ≠ some true := by
  have hrelate : ∀ relation place, relate .null relation place ≠ some true := by
    intro relation place h
    obtain ⟨d, -, h⟩ := Option.bind_eq_some_iff.mp h
    obtain ⟨o, h, -⟩ := Option.bind_eq_some_iff.mp h
    rw [Cell.compare?_null] at h
    cases h
  cases p with
  | compare relation o => exact hrelate relation _
  | between low high =>
    intro h
    exact hrelate _ _ (Truth.and_eq_true_iff.mp h).1
  | among operands =>
    intro h
    obtain ⟨place, -, h⟩ := List.mem_map.mp (Truth.any_eq_true_iff.mp h)
    exact hrelate _ _ h
  | like needle ignoreCase => exact nofun

/-- The condition of a predicate is true of a stored cell exactly when the predicate holds of the form
of the cell. -/
theorem Condition.truth_ofPredicate {p : Predicate} (column : String) (h : c.Stores type)
    (hform : c.form? = some v) (hsuits : p.Suits type) (hplain : Bindable p)
    (hascii : ∀ needle, p = .like needle true → IsAscii needle ∧ ∀ s, c = .text s → IsAscii s) :
    (ofPredicate column p).truth c = some true ↔ p.holds v = true := by
  have hnull := Cell.isNull_form h hform
  -- a missing cell is settled first, since a predicate asks whether a value is null before all else
  cases hc : c.isNull with
  | true =>
    have e : c = .null := by
      cases c with
      | null => rfl
      | _ => cases hc
    subst e
    rw [hc] at hnull
    have hholds : p.holds v = false := if_pos hnull
    rw [hholds]
    exact ⟨fun ht => absurd ht (truth_null p column), nofun⟩
  | false =>
    rw [hc] at hnull
    have hrelate : ∀ o ∈ p.operands, ∀ relation, relate c relation (.ofOperand o) = some true ↔
        Predicate.related v relation o = true := by
      intro o hmem relation
      exact relate_operand h hform (hsuits.operands o hmem) (fun x e => hplain x (e ▸ hmem)) relation
    have hsome : ¬ v.isNull = true := by
      rw [hnull]
      exact Bool.false_ne_true
    cases p with
    | compare relation o =>
      have hholds : (Predicate.compare relation o).holds v = Predicate.related v relation o :=
        if_neg hsome
      rw [hholds]
      exact hrelate o List.mem_cons_self relation
    | between low high =>
      have hholds : (Predicate.between low high).holds v =
          (Predicate.related v .moreOrEqual low && Predicate.related v .lessOrEqual high) :=
        if_neg hsome
      rw [hholds]
      show (relate c .moreOrEqual (.ofOperand low)).and (relate c .lessOrEqual (.ofOperand high)) =
        some true ↔ _
      rw [Truth.and_eq_true_iff, Bool.and_eq_true,
        hrelate low List.mem_cons_self,
        hrelate high (List.mem_cons_of_mem low List.mem_cons_self)]
    | among operands =>
      have hholds : (Predicate.among operands).holds v =
          operands.any (Predicate.related v .equal) := if_neg hsome
      rw [hholds]
      show Truth.any ((operands.map Place.ofOperand).map (relate c .equal)) = some true ↔ _
      rw [Truth.any_eq_true_iff, List.map_map, List.mem_map, List.any_eq_true]
      exact exists_congr fun o => and_congr_right fun hmem => hrelate o hmem .equal
    | like needle ignoreCase =>
      have htext := hsuits.searched needle ignoreCase rfl
      subst htext
      cases h with
      | null => cases hc
      | text s =>
        cases hform
        have hholds : (Predicate.like needle ignoreCase).holds (.str s) =
            if ignoreCase then Text.containsIgnoringCase s needle else Text.contains s needle := rfl
        show some (Like.isMatch (Like.containing needle) s ignoreCase) = some true ↔ _
        rw [hholds, Option.some_inj]
        cases ignoreCase with
        | false => rw [Like.isMatch_containing, if_neg Bool.false_ne_true]
        | true =>
          obtain ⟨hneedle, htexts⟩ := hascii needle rfl
          rw [Like.isMatch_containing_ignoringCase hneedle (htexts s rfl), if_pos rfl]

end

/-- The condition of a predicate is on its column. -/
lemma Condition.column_ofPredicate (column : String) (p : Predicate) :
    (ofPredicate column p).column = column := by
  cases p <;> rfl

/-- The condition of a predicate has the places of its operands. -/
lemma Condition.places_ofPredicate (column : String) (p : Predicate) :
    (ofPredicate column p).places = p.operands.map Place.ofOperand := by
  cases p <;> rfl

/-- The values at the places of a condition can be read. -/
lemma Condition.readable_ofPredicate {p : Predicate} (column : String) (h : Bindable p) :
    ∀ place ∈ (ofPredicate column p).places, place.cell?.isSome = true := by
  intro place hmem
  rw [places_ofPredicate] at hmem
  obtain ⟨o, ho, rfl⟩ := List.mem_map.mp hmem
  cases o with
  | timestamp x =>
    have hcell : (Place.ofOperand (.timestamp x)).cell? =
        some (.timestamp .microsecond (Int64.ofInt x.micros)) := Cell.ofText?_plainMicroText (h x ho)
    rw [hcell]
    rfl
  | integer _ | float _ | text _ | boolean _ => rfl

end PagedListing.Sql

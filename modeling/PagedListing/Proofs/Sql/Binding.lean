import PagedListing.Proofs.Sql.Condition

/-!
# Bound instants

An instant is bound in whole microseconds, as the columns of timestamps hold them; what a part of one
adds to it is cut off (`Instant.read?_plainMicroText_cut`). Only the row that holds just these
microseconds tells the two apart: it is equal to the bound instant, and before the given one
(`boundInstant_exact_iff`).
-/

namespace PagedListing.Time.Instant

/-- The instant without the part of a microsecond that it has. -/
def wholeMicros (x : Instant) : Instant := ⟨x.seconds, x.nanos / 1000 * 1000⟩

variable {x y : Instant}

/-- An instant is in whole microseconds if no nanoseconds are left over. -/
lemma wholeMicros_eq_self_iff : x.wholeMicros = x ↔ x.nanos % 1000 = 0 := by
  obtain ⟨seconds, nanos⟩ := x
  rw [wholeMicros, mk.injEq, eq_self_iff_true, true_and]
  dsimp only
  omega

/-- Whole microseconds are not a leap second if the instant is not. -/
lemma nanos_wholeMicros_lt (h : x.nanos < nanosPerSecond) : x.wholeMicros.nanos < nanosPerSecond :=
  Nat.lt_of_le_of_lt (Nat.div_mul_le_self x.nanos 1000) h

/-- An instant in years of four digits is plain in its whole microseconds. -/
lemma isPlain_wholeMicros (hleap : x.nanos < nanosPerSecond)
    (hyear : 0 ≤ x.date.year ∧ x.date.year ≤ 9999) : x.wholeMicros.IsPlain :=
  ⟨nanos_wholeMicros_lt hleap, Nat.mul_mod_left _ _, hyear⟩

/-- The part of a microsecond is not written. -/
lemma plainMicroText_wholeMicros (h : x.nanos < nanosPerSecond) :
    x.wholeMicros.plainMicroText = x.plainMicroText := by
  have hfraction : microFraction x.wholeMicros.nanos = microFraction x.nanos :=
    congrArg (fun n => '.' :: padded 6 n) (Nat.mul_div_cancel (x.nanos / 1000) (by decide))
  rw [plainMicroText, plainMicroText, layout, layout, TimeOfDay.text, TimeOfDay.text,
    timeOfDay_eq h, timeOfDay_eq (nanos_wholeMicros_lt h)]
  simp only [hfraction]
  rfl

/-- The text in which an instant is bound is read back as its whole microseconds. -/
theorem read?_plainMicroText_cut (hleap : x.nanos < nanosPerSecond)
    (hyear : 0 ≤ x.date.year ∧ x.date.year ≤ 9999) :
    read? x.plainMicroText = some x.wholeMicros := by
  rw [← plainMicroText_wholeMicros hleap]
  exact read?_plainMicroText (isPlain_wholeMicros hleap hyear)

/-- The microseconds of an instant are those of its whole microseconds. -/
lemma micros_wholeMicros : x.wholeMicros.micros = x.micros := by
  rw [micros, micros, wholeMicros, Nat.mul_div_cancel _ (by decide)]

/-- An instant that is made of microseconds has as many. -/
lemma micros_ofMicros (m : Int) : (ofMicros m).micros = m := by
  rw [micros, ofMicros]
  dsimp only
  omega

/-- An instant in whole microseconds stands to another as to the whole microseconds of it, unless it is
these. -/
lemma compare_wholeMicros (hmicros : y.nanos % 1000 = 0) (hne : y ≠ x.wholeMicros) :
    compare y x.wholeMicros = compare y x := by
  show (compare y.seconds x.seconds).then (compare y.nanos (x.nanos / 1000 * 1000)) =
    (compare y.seconds x.seconds).then (compare y.nanos x.nanos)
  rcases Int.lt_trichotomy y.seconds x.seconds with hlt | heq | hgt
  · rw [Int.compare_eq_lt.mpr hlt]
    rfl
  · have hnanos : y.nanos ≠ x.nanos / 1000 * 1000 := by
      intro e
      exact hne (congr (congrArg mk heq) e)
    rcases Nat.lt_or_ge y.nanos x.nanos with hlt | hge
    · rw [Nat.compare_eq_lt.mpr hlt, Nat.compare_eq_lt.mpr (by omega)]
    · rw [Nat.compare_eq_gt.mpr (by omega), Nat.compare_eq_gt.mpr (by omega)]
  · rw [Int.compare_eq_gt.mpr hgt]
    rfl

/-- The whole microseconds of an instant lie before it, if a part of one is left. -/
lemma compare_wholeMicros_self (h : x.nanos % 1000 ≠ 0) : compare x.wholeMicros x = .lt := by
  show (compare x.seconds x.seconds).then (compare (x.nanos / 1000 * 1000) x.nanos) = .lt
  rw [Int.compare_eq_eq.mpr rfl, Nat.compare_eq_lt.mpr (by omega)]
  rfl

end PagedListing.Time.Instant

namespace PagedListing.Sql
open PagedListing.Time

/-- The relations that take an equal value as a smaller one. -/
lemma holds_eq_iff_holds_lt (relation : Relation) :
    (relation.holds .eq = true ↔ relation.holds .lt = true) ↔
      relation = .more ∨ relation = .lessOrEqual := by
  cases relation <;> decide

/-- Where an instant has no part of a microsecond, or the cell of a column holds other microseconds than
those of it, the bound text decides as the instant does; and otherwise, where the relation does not tell
an equal value from a smaller one. -/
lemma relate_boundInstant_iff {c : Cell} {v : Json} (h : c.Stores .timestamp) (hform : c.form? = some v)
    {x : Instant} (hleap : x.nanos < nanosPerSecond) (hyear : 0 ≤ x.date.year ∧ x.date.year ≤ 9999)
    (relation : Relation) :
    (relate c relation (.ofOperand (.timestamp x)) = some true ↔
        Predicate.related v relation (.timestamp x) = true) ↔
      x.nanos % 1000 = 0 ∨ c ≠ .timestamp .microsecond (Int64.ofInt x.micros) ∨
        relation = .more ∨ relation = .lessOrEqual := by
  have hplain := Instant.isPlain_wholeMicros hleap hyear
  have hplace : Place.ofOperand (.timestamp x) = .ofOperand (.timestamp x.wholeMicros) :=
    congrArg Place.timestamp (Instant.plainMicroText_wholeMicros hleap).symm
  rw [hplace, relate_operand h hform rfl (by rintro _ ⟨⟩; exact hplain)]
  cases h with
  | null =>
    cases hform
    exact iff_of_true Iff.rfl (.inr (.inl nofun))
  | timestamp count hcount =>
    have hvalue := Instant.isPlain_ofMicros hcount
    rw [Cell.form?_timestamp hvalue, Option.some_inj] at hform
    have htext (z : Instant) (s : String) : (Operand.timestamp z).compare? (.str s) =
        (Instant.read? s).map (compare · z) := rfl
    have hcompare (z : Instant) : (Operand.timestamp z).compare? v =
        some (compare (Instant.ofMicros count.toInt) z) := by
      rw [← hform, htext, Instant.read?_zuluMicroText hvalue, Option.map_some]
    have hcell : Cell.timestamp .microsecond count = .timestamp .microsecond (Int64.ofInt x.micros) ↔
        Instant.ofMicros count.toInt = x.wholeMicros := by
      rw [← Instant.micros_wholeMicros, Cell.timestamp.injEq, eq_self_iff_true, true_and]
      constructor
      · rintro rfl
        rw [toInt_micros hplain, Instant.ofMicros_micros hplain]
      · intro e
        rw [← e, Instant.micros_ofMicros, Int64.ofInt_toInt]
    rw [Predicate.related, Predicate.related, hcompare, hcompare, Option.any_some, Option.any_some,
      ne_eq, hcell]
    by_cases hpart : x.nanos % 1000 = 0
    · rw [Instant.wholeMicros_eq_self_iff.mpr hpart]
      exact iff_of_true Iff.rfl (.inl hpart)
    · by_cases heq : Instant.ofMicros count.toInt = x.wholeMicros
      · have hsame : compare (Instant.ofMicros count.toInt) x.wholeMicros = .eq := by
          rw [← heq, Instant.compare_ofMicros]
          exact Int.compare_eq_eq.mpr rfl
        have hbefore : compare (Instant.ofMicros count.toInt) x = .lt := by
          rw [heq]
          exact Instant.compare_wholeMicros_self hpart
        rw [hsame, hbefore, holds_eq_iff_holds_lt]
        simp only [hpart, heq, not_true_eq_false, false_or]
      · rw [Instant.compare_wholeMicros hvalue.inMicros heq]
        exact iff_of_true Iff.rfl (.inr (.inl heq))

/-- A bound instant is read back as its whole microseconds, so as itself exactly if these are all of it.
Otherwise its condition decides as the predicate does, but on the cell of these microseconds if the
relation tells an equal value from a smaller one. -/
theorem boundInstant_exact_iff {raw : String} {x : Instant} (hread : Instant.read? raw = some x)
    (hleap : x.nanos < nanosPerSecond) (hyear : 0 ≤ x.date.year ∧ x.date.year ≤ 9999) :
    ∃ written, (Place.ofOperand (.timestamp x)).param = .text written ∧
      Instant.read? written = some x.wholeMicros ∧
      (Instant.read? written = Instant.read? raw ↔ x.nanos % 1000 = 0) ∧
      ∀ {c : Cell} {v : Json}, c.Stores .timestamp → c.form? = some v →
        ∀ (column : String) (relation : Relation),
          (((Condition.ofPredicate column (.compare relation (.timestamp x))).truth c = some true ↔
              (Predicate.compare relation (.timestamp x)).holds v = true) ↔
            x.nanos % 1000 = 0 ∨ c ≠ .timestamp .microsecond (Int64.ofInt x.micros) ∨
              relation = .more ∨ relation = .lessOrEqual) := by
  have hback := Instant.read?_plainMicroText_cut hleap hyear
  refine ⟨x.plainMicroText, rfl, hback, ?_, ?_⟩
  · rw [hback, hread, Option.some_inj, Instant.wholeMicros_eq_self_iff]
  · intro c v h hform column relation
    -- null is not related to any operand, so that the test for it changes nothing
    have hholds : (Predicate.compare relation (.timestamp x)).holds v =
        Predicate.related v relation (.timestamp x) := by
      rw [Predicate.holds]
      split
      · rename_i hnull
        cases v <;> cases hnull
        rfl
      · rfl
    rw [hholds, ← relate_boundInstant_iff h hform hleap hyear relation]
    rfl

/-- Half a microsecond into a year: the bound text is that of its start. -/
theorem boundInstant_exact_iff_newYear :
    Instant.read? "2024-01-01T09:00:00.0000005+09:00" = some ⟨1704067200, 500⟩ ∧
      ∃ written, (Place.ofOperand (.timestamp ⟨1704067200, 500⟩)).param = .text written ∧
        Instant.read? written = some ⟨1704067200, 0⟩ ∧
          Instant.read? written ≠ Instant.read? "2024-01-01T09:00:00.0000005+09:00" := by
  have hread : Instant.read? "2024-01-01T09:00:00.0000005+09:00" = some ⟨1704067200, 500⟩ := by decide
  obtain ⟨written, hparam, hback, hexact, -⟩ := boundInstant_exact_iff hread (by decide) (by decide)
  exact ⟨hread, written, hparam, hback, fun h => absurd (hexact.mp h) (by decide)⟩

/-- A row of the start of the year is found from half a microsecond into it on. -/
theorem boundInstant_findsEarlier :
    Instant.read? "2024-01-01T00:00:00.0000005Z" = some ⟨1704067200, 500⟩ ∧
      (500 < nanosPerSecond ∧ (Instant.mk 1704067200 500).date.year = 2024) ∧
      (Place.ofOperand (.timestamp ⟨1704067200, 500⟩)).param = .text "2024-01-01 00:00:00.000000" ∧
      Instant.read? "2024-01-01 00:00:00.000000" ≠ some ⟨1704067200, 500⟩ ∧
      (Cell.timestamp .microsecond 1704067200000000).form? =
        some (.str "2024-01-01T00:00:00.000000Z") ∧
      (Condition.ofPredicate "createdAt" (.compare .moreOrEqual (.timestamp ⟨1704067200, 500⟩))).truth
        (.timestamp .microsecond 1704067200000000) = some true ∧
      (Predicate.compare .moreOrEqual (.timestamp ⟨1704067200, 500⟩)).holds
        (.str "2024-01-01T00:00:00.000000Z") = false := by
  have hform : (Cell.timestamp .microsecond 1704067200000000).form? =
      some (.str "2024-01-01T00:00:00.000000Z") :=
    Cell.form?_of_timestampText? (by decide)
  exact ⟨by decide, by decide, by decide, by decide, hform, by decide, by decide⟩

end PagedListing.Sql

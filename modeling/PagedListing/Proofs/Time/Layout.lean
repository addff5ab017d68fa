import PagedListing.Proofs.Time.Calendar
import PagedListing.Proofs.Time.Scan

/-!
# Written instants read back

An instant in whole microseconds and outside of leap seconds is read back from its layout without an
offset in every year that dates are kept for (`Instant.read?_layout`), and in a year of four digits from
its Internet layout too (`Instant.read?_zuluMicroText`). Both layouts in microseconds are the same numbers
between the same marks (`Instant.layout_append`). A date is read back from its text as the start of the
day (`Date.read?_text`).
-/

namespace PagedListing.Time
open PagedListing.Number

/-! ## Dates -/

namespace Date

/-- The month and the day of a date have two digits. -/
lemma two_digits {d : Date} (h : d.isValid = true) : d.month < tenTo 2 ∧ d.day < tenTo 2 := by
  obtain ⟨-, hmonth, -, hday⟩ := bounds_of_isValid h
  show d.month < 100 ∧ d.day < 100
  omega

/-- The text of a date is read back as the start of the day, in every year that dates are kept for. -/
theorem read?_text {d : Date} (hvalid : d.isValid = true) (hrange : d.inRange = true) :
    Instant.read? (String.ofList d.text) = some ⟨86400 * d.dayNumber, 0⟩ := by
  have hmidnight : Instant.ofDateTime d .midnight 0 = ⟨86400 * d.dayNumber + 0 - 0, 0⟩ := rfl
  rw [Instant.read?_date (two_digits hvalid), if_pos (Bool.and_eq_true_iff.mpr ⟨hvalid, hrange⟩),
    hmidnight, Int.add_zero, Int.sub_zero]

end Date

/-! ## Instants -/

namespace Instant

/-- An instant in whole microseconds and outside of leap seconds, in a year of four digits. -/
structure IsPlain (x : Instant) : Prop where
  notLeap : x.nanos < nanosPerSecond
  inMicros : x.nanos % 1000 = 0
  year : 0 ≤ x.date.year ∧ x.date.year ≤ 9999

/-- Microseconds are whole, and leap seconds are not counted. -/
lemma isPlain_ofMicros {micros : Int}
    (h : 0 ≤ (ofMicros micros).date.year ∧ (ofMicros micros).date.year ≤ 9999) :
    (ofMicros micros).IsPlain := by
  refine ⟨?_, ?_, h⟩
  · simp only [ofMicros, nanosPerSecond]
    omega
  · exact Nat.mul_mod_left _ _

variable {x : Instant}

/-- The date of an instant is one of the calendar. -/
lemma isValid_date (x : Instant) : x.date.isValid = true :=
  Date.isValid_ofDayNumber _

/-- The clock of an instant outside of leap seconds is read off the seconds of its day. -/
lemma timeOfDay_eq (h : x.nanos < nanosPerSecond) :
    x.timeOfDay = ⟨(x.seconds % 86400).toNat / 3600, (x.seconds % 86400).toNat % 3600 / 60,
      (x.seconds % 86400).toNat % 60, x.nanos⟩ := by
  simp only [timeOfDay, secondsPerDay, Nat.div_eq_of_lt h, Nat.mod_eq_of_lt h, Nat.add_zero]
  rfl

/-- A time of day outside of leap seconds lies in the bounds of the clock. -/
lemma timeOfDay_bounds (h : x.nanos < nanosPerSecond) :
    x.timeOfDay.hour < 24 ∧ x.timeOfDay.minute < 60 ∧ x.timeOfDay.second < 60 ∧
      x.timeOfDay.nanos = x.nanos := by
  rw [timeOfDay_eq h]
  refine ⟨?_, ?_, ?_, rfl⟩ <;> dsimp only <;> omega

/-- The time of day of an instant outside of leap seconds is valid. -/
lemma isValid_timeOfDay (h : x.nanos < nanosPerSecond) : x.timeOfDay.isValid = true := by
  obtain ⟨hhour, hminute, hsecond, hnanos⟩ := timeOfDay_bounds h
  rw [TimeOfDay.isValid, decide_eq_true_iff, hnanos]
  exact ⟨by omega, by omega, by omega, h⟩

/-- An instant outside of leap seconds is that of its date and time of day. -/
lemma ofDateTime_eq (h : x.nanos < nanosPerSecond) : ofDateTime x.date x.timeOfDay 0 = x := by
  obtain ⟨-, -, hsecond, hnanos⟩ := timeOfDay_bounds h
  have hleap : x.timeOfDay.leapNanos = x.nanos := by
    rw [TimeOfDay.leapNanos, if_neg (by omega), hnanos]
  have hseconds : (x.timeOfDay.seconds : Int) = x.seconds % 86400 := by
    rw [timeOfDay_eq h]
    simp only [TimeOfDay.seconds]
    omega
  rw [ofDateTime, hleap, hseconds, date, Date.dayNumber_ofDayNumber, secondsPerDay]
  congr 1
  omega

/-- The layout in microseconds: numbers of fixed width between marks. -/
lemma layout_append (h : x.IsPlain) (separator : Char) (rest : List Char) :
    x.layout separator microFraction ++ rest =
      padded 4 x.date.year.toNat ++ '-' :: (padded 2 x.date.month ++ '-' :: (padded 2 x.date.day ++
        separator :: (padded 2 x.timeOfDay.hour ++ ':' :: (padded 2 x.timeOfDay.minute ++
          ':' :: (padded 2 x.timeOfDay.second ++ '.' :: (padded 6 (x.nanos / 1000) ++ rest)))))) := by
  have hyear : yearText x.date.year = padded 4 x.date.year.toNat := by
    obtain ⟨hlow, hhigh⟩ := h.year
    rw [yearText, if_neg (by omega), if_neg (by omega)]
    congr 1
    omega
  obtain ⟨-, -, -, hnanos⟩ := timeOfDay_bounds h.notLeap
  rw [layout, Date.text, TimeOfDay.text, microFraction, hyear, hnanos]
  -- written-out proofs of these steps keep the kernel from unfolding the digits
  simp -implicitDefEqProofs only [List.append_assoc, List.cons_append]

/-- The date of a plain instant is one that dates are kept for. -/
lemma inRange_date (h : x.IsPlain) : x.date.inRange = true := by
  have hyear := h.year
  rw [Date.inRange, decide_eq_true_iff, Date.firstYear, Date.lastYear]
  omega

/-- The numbers of a plain instant fit into their widths. -/
lemma layout_bounds (h : x.IsPlain) :
    (x.date.year.toNat < tenTo 4 ∧ x.date.month < tenTo 2 ∧ x.date.day < tenTo 2) ∧
      x.timeOfDay.hour < tenTo 2 ∧ x.timeOfDay.minute < tenTo 2 ∧ x.timeOfDay.second < tenTo 2 ∧
        x.nanos / 1000 < tenTo 6 := by
  obtain ⟨-, hmonth, -, hday⟩ := Date.bounds_of_isValid (isValid_date x)
  obtain ⟨hhour, hminute, hsecond, -⟩ := timeOfDay_bounds h.notLeap
  have hyear := h.year
  have hnanos : x.nanos < 1000000000 := h.notLeap
  show (x.date.year.toNat < 10000 ∧ x.date.month < 100 ∧ x.date.day < 100) ∧
    x.timeOfDay.hour < 100 ∧ x.timeOfDay.minute < 100 ∧ x.timeOfDay.second < 100 ∧
      x.nanos / 1000 < 1000000
  omega

/-- The microseconds of an instant from the start of 1970, a part of one cut off. -/
def micros (x : Instant) : Int :=
  x.seconds * 1000000 + (x.nanos / 1000 : Nat)

/-- A plain instant is made of its microseconds. -/
lemma ofMicros_micros (h : x.IsPlain) : ofMicros x.micros = x := by
  have hnanos : x.nanos < 1000000000 := h.notLeap
  have hmicros := h.inMicros
  have hseconds : x.micros / 1000000 = x.seconds := by
    rw [micros]
    omega
  have hrest : (x.micros % 1000000).toNat * 1000 = x.nanos := by
    rw [micros]
    omega
  rw [ofMicros, hseconds, hrest]

/-- Instants are ordered as their microseconds. -/
theorem compare_ofMicros (m n : Int) : compare (ofMicros m) (ofMicros n) = compare m n := by
  show (compare (m / 1000000) (n / 1000000)).then
    (compare ((m % 1000000).toNat * 1000) ((n % 1000000).toNat * 1000)) = _
  rcases Int.lt_trichotomy (m / 1000000) (n / 1000000) with hlt | heq | hgt
  · rw [Int.compare_eq_lt.mpr hlt, Int.compare_eq_lt.mpr (by omega)]
    rfl
  · rw [Int.compare_eq_eq.mpr heq]
    show compare ((m % 1000000).toNat * 1000) ((n % 1000000).toNat * 1000) = _
    rcases Int.lt_trichotomy m n with hlt | heq | hgt
    · rw [Int.compare_eq_lt.mpr hlt, Nat.compare_eq_lt.mpr (by omega)]
    · rw [heq, Nat.compare_eq_eq.mpr rfl, Int.compare_eq_eq.mpr rfl]
    · rw [Int.compare_eq_gt.mpr hgt, Nat.compare_eq_gt.mpr (by omega)]
  · rw [Int.compare_eq_gt.mpr hgt, Int.compare_eq_gt.mpr (by omega)]
    rfl

/-- The instants of the years with four digits lie less than `2^62` microseconds from the start of
1970. -/
lemma micros_bounds (h : x.IsPlain) : x.micros.natAbs < 4611686018427387904 := by
  have hdays := Date.dayNumber_bounds (isValid_date x) h.year
  have hnanos : x.nanos < 1000000000 := h.notLeap
  rw [date, Date.dayNumber_ofDayNumber, secondsPerDay] at hdays
  rw [micros]
  omega

/-- The time of day of an instant in whole microseconds is read as far as it is written. -/
lemma clocked (hleap : x.nanos < nanosPerSecond) (hmicros : x.nanos % 1000 = 0) {rest : List Char}
    (hrest : ∀ c ∈ rest.head?, c.isDigit = false) :
    Scan.Clocked x.timeOfDay microFraction rest := by
  obtain ⟨hhour, hminute, hsecond, e⟩ := timeOfDay_bounds hleap
  have hnanos : x.nanos < 1000000000 := hleap
  have hwhole : x.nanos / 1000 * 1000 = x.nanos := by omega
  have hwidth : x.nanos / 1000 < tenTo 6 := by
    show x.nanos / 1000 < 1000000
    omega
  have hfraction := Scan.fraction_padded (by decide) hwidth hrest
  refine ⟨?_, ?_, ?_⟩
  · show x.timeOfDay.hour < 100 ∧ x.timeOfDay.minute < 100 ∧ x.timeOfDay.second < 100
    omega
  · exact Scan.head_mark rfl _
  · rw [e]
    refine hfraction.trans ?_
    exact congrArg (fun n => some (n, rest)) hwhole

/-- The date and the time of day of an instant are valid in the years that dates are kept for. -/
lemma isValid_date_timeOfDay (hleap : x.nanos < nanosPerSecond) (hrange : x.date.inRange = true) :
    (x.date.isValid && x.date.inRange) = true ∧ x.timeOfDay.isValid = true :=
  ⟨Bool.and_eq_true_iff.mpr ⟨isValid_date x, hrange⟩, isValid_timeOfDay hleap⟩

/-- The month and the day of an instant have two digits. -/
lemma date_bounds (x : Instant) : x.date.month < tenTo 2 ∧ x.date.day < tenTo 2 :=
  Date.two_digits (isValid_date x)

/-- An instant in whole microseconds and outside of leap seconds is read back from its layout without
an offset, in every year that dates are kept for. -/
theorem read?_layout (hleap : x.nanos < nanosPerSecond) (hmicros : x.nanos % 1000 = 0)
    (hrange : x.date.inRange = true) {mark : Char} (hmark : mark = 'T' ∨ mark = ' ') :
    read? (String.ofList (x.layout mark microFraction)) = some x := by
  rw [layout, read?_civil (date_bounds x) hmark (clocked hleap hmicros (by simp)),
    if_pos (isValid_date_timeOfDay hleap hrange), ofDateTime_eq hleap]

/-- An instant in microseconds is read back from its Internet layout. -/
theorem read?_zuluMicroText (h : x.IsPlain) : read? x.zuluMicroText = some x := by
  have hzone : Scan.offset ['Z'] = some (0, []) := rfl
  rw [zuluMicroText, layout, List.append_assoc, List.cons_append,
    read?_internet (date_bounds x) h.year (clocked h.notLeap h.inMicros (Scan.head_mark rfl [])) hzone,
    if_pos ⟨isValid_date x, isValid_timeOfDay h.notLeap⟩, ofDateTime_eq h.notLeap]

/-- An instant in microseconds is read back from the layout in which it is bound. -/
theorem read?_plainMicroText (h : x.IsPlain) : read? x.plainMicroText = some x :=
  read?_layout h.notLeap h.inMicros (inRange_date h) (.inr rfl)

end Instant

end PagedListing.Time

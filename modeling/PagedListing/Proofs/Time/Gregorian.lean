import Mathlib.Algebra.BigOperators.Intervals
import PagedListing.Time.Date

/-!
# The proleptic Gregorian calendar

The calendar by its rules: leap years, the lengths of the months, and the days that have passed before a
date, counted year by year and month by month. The dates that it has are the valid ones
(`isValid_iff_hasDate`), and their day numbers are these counts (`dayNumber_eq_daysSinceEpoch`).
-/

namespace PagedListing.Time.Gregorian
open Finset (range)

/-- Every fourth year is a leap year, and of the centuries every fourth one. -/
def IsLeap (year : ℕ) : Prop := 4 ∣ year ∧ (100 ∣ year → 400 ∣ year)

/-- Whether a year is a leap year is decided by its divisors. -/
instance (year : ℕ) : Decidable (IsLeap year) :=
  inferInstanceAs (Decidable (4 ∣ year ∧ (100 ∣ year → 400 ∣ year)))

/-- The days of a month. -/
def monthLength (year month : ℕ) : ℕ :=
  if month = 2 then if IsLeap year then 29 else 28
  else if month = 4 ∨ month = 6 ∨ month = 9 ∨ month = 11 then 30 else 31

/-- The days of a year. -/
def yearLength (year : ℕ) : ℕ := ∑ m ∈ range 12, monthLength year (m + 1)

/-- There is such a date. -/
def HasDate (year month day : ℕ) : Prop :=
  (1 ≤ month ∧ month ≤ 12) ∧ 1 ≤ day ∧ day ≤ monthLength year month

/-- Whether there is a date is decided by the length of its month. -/
instance (year month day : ℕ) : Decidable (HasDate year month day) :=
  inferInstanceAs (Decidable ((1 ≤ month ∧ month ≤ 12) ∧ 1 ≤ day ∧ day ≤ monthLength year month))

/-- The days from the first day of the year 0 to a date. -/
def daysBefore (year month day : ℕ) : ℕ :=
  ∑ y ∈ range year, yearLength y + ∑ m ∈ range (month - 1), monthLength year (m + 1) + (day - 1)

/-- The days from 1970-01-01 to a date. -/
def daysSinceEpoch (year month day : ℕ) : ℤ :=
  daysBefore year month day - daysBefore 1970 1 1

/-- The leap years of the calendar are those of the rule. -/
lemma isLeapYear_iff_isLeap (year : ℕ) : isLeapYear year = true ↔ IsLeap year := by
  rw [isLeapYear, decide_eq_true_iff, IsLeap]
  omega

/-- A year has 366 days if it is a leap year, and 365 otherwise. -/
lemma yearLength_eq (year : ℕ) : yearLength year = if IsLeap year then 366 else 365 := by
  simp only [yearLength, Finset.sum_range_succ, Finset.sum_range_zero, monthLength]
  by_cases h : IsLeap year <;> simp [h]

/-- The lengths of the months of a year are those of the list. -/
lemma monthLengths_eq (year : ℕ) :
    monthLengths (isLeapYear year) = (List.range 12).map fun m => monthLength year (m + 1) := by
  by_cases h : IsLeap year
  · rw [(isLeapYear_iff_isLeap year).mpr h]
    simp [List.range, List.range.loop, monthLengths, monthLength, h]
  · rw [Bool.eq_false_iff.mpr (mt (isLeapYear_iff_isLeap year).mp h)]
    simp [List.range, List.range.loop, monthLengths, monthLength, h]

/-- A date is valid if and only if its month has such a day. -/
theorem isValid_iff_hasDate (year month day : ℕ) :
    (Date.mk year month day).isValid = true ↔ HasDate year month day := by
  simp only [Date.isValid, monthLengths_eq, List.getElem?_map, Bool.and_eq_true, decide_eq_true_eq,
    HasDate]
  by_cases hmonth : 1 ≤ month ∧ month ≤ 12
  · have hlookup : (List.range 12)[month - 1]? = some (month - 1) := List.getElem?_range (by omega)
    have hsucc : month - 1 + 1 = month := Nat.sub_add_cancel hmonth.1
    simp only [hlookup, Option.map_some, Option.any_some, hsucc, decide_eq_true_eq]
    omega
  · have hlookup : 1 ≤ month → (List.range 12)[month - 1]? = none := by
      intro hpos
      rw [List.getElem?_eq_none_iff, List.length_range]
      omega
    constructor
    · rintro ⟨⟨hpos, -⟩, hday⟩
      rw [hlookup hpos] at hday
      cases hday
    · exact fun h => absurd h.1 hmonth

/-- The lengths of the years add up to the days before a year. -/
lemma sum_yearLength (year : ℕ) :
    ((∑ y ∈ range year, yearLength y : ℕ) : ℤ) = daysBeforeYear year + 366 := by
  induction year with
  | zero => rfl
  | succ year ih =>
    rw [Finset.sum_range_succ, Int.natCast_add, ih, yearLength_eq]
    simp only [daysBeforeYear]
    split
    · rename_i h
      unfold IsLeap at h
      omega
    · rename_i h
      unfold IsLeap at h
      omega

/-- The year 0 is a leap year, and comes before the first day that is counted. -/
lemma daysBefore_newYear (year : ℕ) : (daysBefore year 1 1 : ℤ) = daysBeforeYear year + 366 := by
  rw [daysBefore, Nat.sub_self, Finset.range_zero, Finset.sum_empty, Nat.add_zero, Nat.add_zero,
    sum_yearLength]

/-- The lengths of the months add up to the days before a month. -/
lemma daysBeforeMonth_eq (year : ℕ) {month : ℕ} (h : month ≤ 13) :
    daysBeforeMonth (isLeapYear year) month = ∑ m ∈ range (month - 1), monthLength year (m + 1) := by
  have hmin : min (month - 1) 12 = month - 1 := by omega
  rw [daysBeforeMonth, monthLengths_eq, ← List.map_take, List.take_range, hmin, ← List.sum_eq_foldr]
  rfl

/-- The number of a day is the count of the days since 1970. -/
theorem dayNumber_eq_daysSinceEpoch {year month day : ℕ} (h : HasDate year month day) :
    (Date.mk year month day).dayNumber = daysSinceEpoch year month day := by
  obtain ⟨⟨-, hmonth⟩, hday, -⟩ := h
  have hyears := sum_yearLength year
  have hepoch : (daysBefore 1970 1 1 : ℤ) = epochDay + 366 := daysBefore_newYear 1970
  rw [daysSinceEpoch, hepoch, daysBefore, Date.dayNumber,
    daysBeforeMonth_eq year (Nat.le_succ_of_le hmonth)]
  dsimp only
  omega

end PagedListing.Time.Gregorian

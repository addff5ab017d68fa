import PagedListing.Proofs.Time.Layout
import PagedListing.Proofs.Time.Succession
import PagedListing.Sql.Cell.Form

/-!
# Dates shown in JSON

A date of a column counts days from the start of 1970. Where the number of its day from the year 1 on has
32 bits, its JSON form is the text of the date that the calendar has there, and the count as it stands
outside of the calendar; where this number has more bits there is no form (`Cell.form?_date_eq`). All dates
without a form lie far behind the end of the calendar (`hasOrdinal_of_inRange`).
-/

namespace PagedListing.Sql
open PagedListing.Time

/-- The number of a day, counted from the first day of the year 1, has 32 bits. -/
def HasOrdinal (days : Int32) : Prop :=
  Int32.minValue.toInt ≤ days.toInt + 719163 ∧ days.toInt + 719163 ≤ Int32.maxValue.toInt

/-- Whether days have an ordinal is decided by their range. -/
instance (days : Int32) : Decidable (HasOrdinal days) :=
  inferInstanceAs (Decidable (_ ∧ _))

/-- The form that a date is to have: its text in the calendar, and outside of it the count of days. -/
def dateForm (d : Date) (days : Int32) : Json :=
  if d.inRange then .str (String.ofList d.text) else .int days.toInt

/-- Days have an ordinal unless their number is too large for 32 bits. -/
lemma hasOrdinal_iff (days : Int32) :
    HasOrdinal days ↔ days.toInt + 719163 ≤ Int32.maxValue.toInt := by
  have hmin : Int32.minValue.toInt = -2147483648 := rfl
  have hlow := days.le_toInt
  rw [HasOrdinal]
  omega

/-- The calendar ends long before the days whose numbers have more than 32 bits. -/
lemma hasOrdinal_of_inRange {days : Int32} (h : (Date.ofDayNumber days.toInt).inRange = true) :
    HasOrdinal days := by
  have hmax : Int32.maxValue.toInt = 2147483647 := rfl
  have hend : (Date.mk (Date.lastYear + 1) 1 1).dayNumber = 95026237 := by decide
  rw [Date.inRange, decide_eq_true_iff] at h
  have hyear : ¬ Date.lastYear + 1 ≤ (Date.ofDayNumber days.toInt).year := by omega
  rw [Date.le_year_ofDayNumber_iff, hend] at hyear
  rw [hasOrdinal_iff]
  omega

namespace Cell

/-- A date has a form if it has an ordinal. -/
lemma form?_date_eq (days : Int32) :
    (Cell.date days).form? =
      if HasOrdinal days then some (dateForm (Date.ofDayNumber days.toInt) days) else none := by
  have hordinal : ordinalDay? days =
      if HasOrdinal days then some (days.toInt + 719163) else none := by
    simp only [hasOrdinal_iff]
    rfl
  have htext : dateText? days =
      if (Date.ofDayNumber days.toInt).inRange then
        some (String.ofList (Date.ofDayNumber days.toInt).text)
      else none := by
    rw [dateText?, dateOfDay?]
    split <;> rfl
  unfold form?
  dsimp only
  rw [hordinal, htext, dateForm]
  by_cases h : HasOrdinal days
  · by_cases hrange : (Date.ofDayNumber days.toInt).inRange = true
    · simp only [if_pos h, if_pos hrange]
    · simp only [if_pos h, if_neg hrange]
  · simp only [if_neg h]

example : (Cell.date (-719529)).form? = some (.str "-0001-12-31") := rfl

end Cell

end PagedListing.Sql

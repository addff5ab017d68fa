import Mathlib.Tactic.Lemma
import PagedListing.Time.Instant

/-!
# Dates and day numbers

The date with a day number is one that the calendar has (`Date.isValid_ofDayNumber`), and its day
number is the given one (`Date.dayNumber_ofDayNumber`). Both follow from where the cycles of the
calendar put a day: in a year, by the days before it, and in a month of that year. So a day lies in a
year or after it from the first day of the year on (`Date.le_year_ofDayNumber_iff`).
-/

namespace PagedListing.Time

/-- A position in the months that follow is a day of one of them, after all days of those before. -/
lemma exists_monthAndDay {lengths : List Nat} (month : Nat) {dayOfYear : Nat}
    (h : dayOfYear < lengths.foldr (· + ·) 0) :
    ∃ k day length, monthAndDay lengths month dayOfYear = (month + k, day) ∧
      lengths[k]? = some length ∧ 1 ≤ day ∧ day ≤ length ∧
      (lengths.take k).foldr (· + ·) 0 + day = dayOfYear + 1 := by
  induction lengths generalizing month dayOfYear with
  | nil => cases h
  | cons first rest ih =>
    rw [monthAndDay]
    split
    · rename_i hlt
      exact ⟨0, dayOfYear + 1, first, rfl, rfl, by omega, by omega, by simp⟩
    · rename_i hge
      have hrest : dayOfYear - first < rest.foldr (· + ·) 0 := by
        rw [List.foldr_cons] at h
        omega
      obtain ⟨k, day, length, e, hlength, hpos, hle, hsum⟩ := ih (month + 1) hrest
      refine ⟨k + 1, day, length, ?_, hlength, hpos, hle, ?_⟩
      · rw [e, Nat.add_assoc, Nat.add_comm 1 k]
      · rw [List.take_succ_cons, List.foldr_cons]
        omega

/-- The months of a year have all its days. -/
lemma daysOfYear (leap : Bool) :
    (monthLengths leap).foldr (· + ·) 0 = if leap then 366 else 365 := by
  cases leap <;> rfl

/-- Leap years are every fourth one but the centuries, and every fourth century. -/
lemma isLeapYear_iff (year : Int) :
    isLeapYear year = true ↔ year % 4 = 0 ∧ (year % 100 ≠ 0 ∨ year % 400 = 0) :=
  decide_eq_true_iff

/-- No later year begins before an earlier one. -/
lemma daysBeforeYear_le {a b : Int} (h : a ≤ b) : daysBeforeYear a ≤ daysBeforeYear b := by
  simp only [daysBeforeYear]
  omega

/-- A year begins after the days of the year before. -/
lemma daysBeforeYear_succ (year : Int) :
    daysBeforeYear (year + 1) = daysBeforeYear year + if isLeapYear year then 366 else 365 := by
  simp only [daysBeforeYear]
  split
  · rename_i h
    rw [isLeapYear_iff] at h
    omega
  · rename_i h
    rw [isLeapYear_iff] at h
    omega

namespace Date

/-- Where the cycles of the calendar put a day: in the year after all days of the years before it, and
in a month of the year after all days of the months before. -/
lemma exists_ofDayNumber (n : Int) :
    ∃ year k day length, ofDayNumber n = ⟨year, 1 + k, day⟩ ∧
      (monthLengths (isLeapYear year))[k]? = some length ∧ 1 ≤ day ∧ day ≤ length ∧
      n + epochDay = daysBeforeYear year + (daysBeforeMonth (isLeapYear year) (1 + k) + day : Nat) - 1 := by
  rw [ofDayNumber]
  generalize hcycle : ((n + epochDay) % 146097).toNat = cycle
  generalize hcentury : min (cycle / 36524) 3 = century
  generalize hquad : (cycle - century * 36524) / 1461 = quad
  generalize hinQuad : (cycle - century * 36524) % 1461 = inQuad
  generalize hsingle : min (inQuad / 365) 3 = single
  generalize hyear : 400 * ((n + epochDay) / 146097) +
    ((100 * century + 4 * quad + single + 1 : Nat) : Int) = year
  -- the last day of a cycle belongs to its last year, which is then a leap year
  have hlt : inQuad - single * 365 < if isLeapYear year then 366 else 365 := by
    split
    · omega
    · rename_i hleap
      rw [isLeapYear_iff] at hleap
      omega
  -- the shorter cycles fit into the longer ones, so that each quotient is read off
  have hbounds : century ≤ 3 ∧ quad ≤ 24 ∧ single ≤ 3 := by omega
  have hquads : (year - 1) / 4 = 100 * ((n + epochDay) / 146097) + (25 * century + quad : Nat) := by
    omega
  have hcenturies : (year - 1) / 100 = 4 * ((n + epochDay) / 146097) + century := by omega
  have hcycles : (year - 1) / 400 = (n + epochDay) / 146097 := by omega
  have hstart : n + epochDay = daysBeforeYear year + (inQuad - single * 365 : Nat) := by
    simp only [daysBeforeYear, hquads, hcenturies, hcycles]
    omega
  obtain ⟨k, day, length, e, hlength, hpos, hle, hsum⟩ :=
    exists_monthAndDay 1 (daysOfYear (isLeapYear year) ▸ hlt)
  refine ⟨year, k, day, length, ?_, hlength, hpos, hle, ?_⟩
  · rw [e]
  · rw [hstart, daysBeforeMonth, Nat.add_sub_cancel_left, hsum]
    omega

/-- The date with a day number has that day number. -/
theorem dayNumber_ofDayNumber (n : Int) : (ofDayNumber n).dayNumber = n := by
  obtain ⟨year, k, day, length, e, -, -, -, hdays⟩ := exists_ofDayNumber n
  simp only [e, dayNumber]
  omega

/-- The date with a day number is one that the calendar has. -/
theorem isValid_ofDayNumber (n : Int) : (ofDayNumber n).isValid = true := by
  obtain ⟨year, k, day, length, e, hlength, hpos, hle, -⟩ := exists_ofDayNumber n
  rw [e, isValid]
  simp only [Nat.add_sub_cancel_left, hlength, Option.any_some, Bool.and_eq_true, decide_eq_true_eq]
  exact ⟨⟨Nat.le_add_right 1 k, hpos⟩, hle⟩

/-- A date of the calendar stands in one of the twelve months, up to the length of the month. -/
lemma exists_length {d : Date} (h : d.isValid = true) :
    ∃ length, (monthLengths (isLeapYear d.year))[d.month - 1]? = some length ∧
      1 ≤ d.month ∧ d.month ≤ 12 ∧ 1 ≤ d.day ∧ d.day ≤ length := by
  simp only [isValid, Bool.and_eq_true, decide_eq_true_eq, Option.any_eq_true] at h
  obtain ⟨⟨hmonth, hday⟩, length, hlength, hle⟩ := h
  obtain ⟨hlt, -⟩ := List.getElem?_eq_some_iff.mp hlength
  have hcount : ∀ leap, (monthLengths leap).length = 12 := by decide
  rw [hcount] at hlt
  exact ⟨length, hlength, hmonth, by omega, hday, hle⟩

/-- A date lies between the first days of its year and of the next one. -/
lemma year_bounds {d : Date} (h : d.isValid = true) :
    daysBeforeYear d.year ≤ d.dayNumber + epochDay ∧
      d.dayNumber + epochDay < daysBeforeYear (d.year + 1) := by
  obtain ⟨length, hlength, hmonth, hmonth', hday, hle⟩ := exists_length h
  have hmonths : ∀ leap, ∀ k < 12, ∀ length ∈ (monthLengths leap)[k]?,
      daysBeforeMonth leap (k + 1) + length ≤ if leap then 366 else 365 := by decide
  have hmost := hmonths (isLeapYear d.year) (d.month - 1) (by omega) length hlength
  rw [Nat.sub_add_cancel hmonth] at hmost
  rw [daysBeforeYear_succ, dayNumber]
  cases hleap : isLeapYear d.year with
  | true =>
    simp only [hleap, if_true] at hmost ⊢
    omega
  | false =>
    simp only [hleap, Bool.false_eq_true, if_false] at hmost ⊢
    omega

/-- A day lies between the first days of its year and of the next one. -/
lemma year_ofDayNumber_bounds (n : Int) :
    daysBeforeYear (ofDayNumber n).year ≤ n + epochDay ∧
      n + epochDay < daysBeforeYear ((ofDayNumber n).year + 1) := by
  have hbounds := year_bounds (isValid_ofDayNumber n)
  rwa [dayNumber_ofDayNumber] at hbounds

/-- The first day of a year. -/
lemma dayNumber_newYear (year : Int) :
    (Date.mk year 1 1).dayNumber = daysBeforeYear year - epochDay := by
  have hnone : daysBeforeMonth (isLeapYear year) 1 = 0 := rfl
  simp only [dayNumber, hnone]
  omega

/-- From the first day of a year on, days lie in this year or after it. -/
theorem le_year_ofDayNumber_iff (year n : Int) :
    year ≤ (ofDayNumber n).year ↔ (Date.mk year 1 1).dayNumber ≤ n := by
  obtain ⟨hlow, hhigh⟩ := year_ofDayNumber_bounds n
  rw [dayNumber_newYear]
  constructor
  · intro h
    have hbefore := daysBeforeYear_le h
    omega
  · intro h
    refine Int.not_lt.mp fun hlt => ?_
    have hafter := daysBeforeYear_le (Int.add_one_le_of_lt hlt)
    omega

/-- The months are the first twelve numbers from one on, and no month has more than 31 days. -/
lemma bounds_of_isValid {d : Date} (h : d.isValid = true) :
    1 ≤ d.month ∧ d.month ≤ 12 ∧ 1 ≤ d.day ∧ d.day ≤ 31 := by
  obtain ⟨length, hlength, hmonth, hmonth', hday, hle⟩ := exists_length h
  have hmost : ∀ leap, ∀ n ∈ monthLengths leap, n ≤ 31 := by decide
  have hlongest := hmost (isLeapYear d.year) length (List.mem_of_getElem? hlength)
  exact ⟨hmonth, hmonth', hday, Nat.le_trans hle hlongest⟩

/-- The dates of the years with four digits lie less than three million days from the start of 1970. -/
lemma dayNumber_bounds {d : Date} (h : d.isValid = true) (hyear : 0 ≤ d.year ∧ d.year ≤ 9999) :
    -3000000 < d.dayNumber ∧ d.dayNumber < 3000000 := by
  obtain ⟨-, hmonth, -, hday⟩ := bounds_of_isValid h
  have hmost : ∀ leap, ∀ month ≤ 12, daysBeforeMonth leap month ≤ 335 := by decide
  have hbefore := hmost (isLeapYear d.year) d.month hmonth
  simp only [dayNumber, daysBeforeYear, epochDay]
  omega

end Date

end PagedListing.Time

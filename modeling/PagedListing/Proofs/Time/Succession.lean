import Mathlib.Data.Int.Init
import PagedListing.Proofs.Time.Calendar

/-!
# Days counted one by one

The day after a date is the next one of its month, or the first of the next month or year (`Date.next`).
A date lies so many days from 1970-01-01 if counting on day by day leads from there to the date, or from
the date to there (`Date.Counted`). Every number of days leads to one date: the one where the cycles of
the calendar put it (`Date.counted_iff`).
-/

namespace PagedListing.Time.Date

/-- The date is the last one of its month. -/
def EndsMonth (d : Date) : Prop :=
  (monthLengths (isLeapYear d.year))[d.month - 1]? = some d.day

/-- Whether a date ends its month is decided by the length of the month. -/
instance (d : Date) : Decidable d.EndsMonth :=
  inferInstanceAs (Decidable (_ = _))

/-- The day after a date. -/
def next (d : Date) : Date :=
  if d.EndsMonth then
    if d.month = 12 then ⟨d.year + 1, 1, 1⟩ else ⟨d.year, d.month + 1, 1⟩
  else ⟨d.year, d.month, d.day + 1⟩

/-- The date so many days from 1970-01-01, counted day by day. Counting back, a date is a day before the
one that comes after it. -/
inductive Counted : Int → Date → Prop
  | start : Counted 0 ⟨1970, 1, 1⟩
  | onward {n : Int} {d : Date} : Counted n d → Counted (n + 1) d.next
  | back {n : Int} {d : Date} : d.isValid = true → Counted (n + 1) d.next → Counted n d

/-! ## The day after -/

/-- A month begins after the days of the month before. -/
lemma daysBeforeMonth_succ {leap : Bool} {month length : Nat} (hmonth : 1 ≤ month)
    (hlength : (monthLengths leap)[month - 1]? = some length) :
    daysBeforeMonth leap (month + 1) = daysBeforeMonth leap month + length := by
  have hmonths : ∀ leap, ∀ k < 12, ∀ length ∈ (monthLengths leap)[k]?,
      daysBeforeMonth leap (k + 2) = daysBeforeMonth leap (k + 1) + length := by decide
  obtain ⟨k, rfl⟩ := Nat.exists_eq_add_of_le' hmonth
  obtain ⟨hlt, -⟩ := List.getElem?_eq_some_iff.mp hlength
  exact hmonths leap k hlt length hlength

/-- Later months have as many days before them or more. -/
lemma daysBeforeMonth_le (leap : Bool) {first second : Nat} (h : first ≤ second)
    (hsecond : second ≤ 12) : daysBeforeMonth leap first ≤ daysBeforeMonth leap second := by
  have hmonths : ∀ leap, ∀ second < 13, ∀ first ≤ second,
      daysBeforeMonth leap first ≤ daysBeforeMonth leap second := by decide
  exact hmonths leap second (Nat.lt_succ_of_le hsecond) first h

/-- A year begins where a thirteenth month of the year before would. -/
lemma daysBeforeYear_next (year : Int) :
    daysBeforeYear (year + 1) = daysBeforeYear year + daysBeforeMonth (isLeapYear year) 13 := by
  have hdays : daysBeforeMonth (isLeapYear year) 13 = if isLeapYear year then 366 else 365 :=
    daysOfYear (isLeapYear year)
  rw [daysBeforeYear_succ, hdays]
  split <;> rfl

/-- The day after a date is a date. -/
lemma isValid_next {d : Date} (h : d.isValid = true) : d.next.isValid = true := by
  obtain ⟨length, hlength, hmonth, hmonth', hday, hle⟩ := exists_length h
  have hfirst : ∀ leap, ∀ k < 12, ((monthLengths leap)[k]?.any (1 ≤ ·)) = true := by decide
  rw [next]
  split
  · split
    · exact hfirst (isLeapYear (d.year + 1)) 0 (by decide)
    · simp [isValid, hfirst (isLeapYear d.year) d.month (by omega)]
  · -- a date that ends no month leaves room for one more day
    rename_i hend
    have hlt : d.day + 1 ≤ length := by
      refine Nat.lt_of_le_of_ne hle fun e => hend ?_
      rw [EndsMonth, hlength, e]
    simpa [isValid, hlength, hmonth] using hlt

/-- The day after a date comes one day later. -/
theorem dayNumber_next {d : Date} (h : d.isValid = true) : d.next.dayNumber = d.dayNumber + 1 := by
  obtain ⟨length, hlength, hmonth, -, -, -⟩ := exists_length h
  rw [next]
  split
  · rename_i hend
    have hlast := daysBeforeMonth_succ hmonth hend
    split
    · rename_i hdecember
      rw [hdecember] at hlast
      rw [dayNumber_newYear, daysBeforeYear_next, hlast, dayNumber, hdecember]
      omega
    · rw [dayNumber, dayNumber]
      dsimp only
      rw [hlast]
      omega
  · rw [dayNumber, dayNumber]
    dsimp only
    omega

/-- A date in an earlier year comes earlier. -/
lemma dayNumber_lt_of_year {d e : Date} (hd : d.isValid = true) (he : e.isValid = true)
    (hyear : d.year < e.year) : d.dayNumber < e.dayNumber := by
  obtain ⟨-, hend⟩ := year_bounds hd
  obtain ⟨hstart, -⟩ := year_bounds he
  have hbefore := daysBeforeYear_le (Int.add_one_le_of_lt hyear)
  omega

/-- A date in an earlier month of the year comes earlier. -/
lemma dayNumber_lt_of_month {d e : Date} (hd : d.isValid = true) (he : e.isValid = true)
    (hyear : d.year = e.year) (hmonth : d.month < e.month) : d.dayNumber < e.dayNumber := by
  obtain ⟨length, hlength, hfirst, -, -, hle⟩ := exists_length hd
  obtain ⟨-, hlast, hday, -⟩ := bounds_of_isValid he
  have hend := daysBeforeMonth_succ hfirst hlength
  have hbefore := daysBeforeMonth_le (isLeapYear d.year) (Nat.add_one_le_of_lt hmonth) hlast
  rw [dayNumber, dayNumber, ← hyear]
  omega

/-- Dates of one day number are one date: an earlier year or month has earlier days. -/
theorem eq_of_dayNumber_eq {d e : Date} (hd : d.isValid = true) (he : e.isValid = true)
    (h : d.dayNumber = e.dayNumber) : d = e := by
  have hyear : d.year = e.year := by
    rcases Int.lt_trichotomy d.year e.year with hlt | heq | hgt
    · exact absurd h (Int.ne_of_lt (dayNumber_lt_of_year hd he hlt))
    · exact heq
    · exact absurd h.symm (Int.ne_of_lt (dayNumber_lt_of_year he hd hgt))
  have hmonth : d.month = e.month := by
    rcases Nat.lt_trichotomy d.month e.month with hlt | heq | hgt
    · exact absurd h (Int.ne_of_lt (dayNumber_lt_of_month hd he hyear hlt))
    · exact heq
    · exact absurd h.symm (Int.ne_of_lt (dayNumber_lt_of_month he hd hyear.symm hgt))
  obtain ⟨year, month, day⟩ := d
  obtain ⟨year', month', day'⟩ := e
  cases hyear
  cases hmonth
  have hday : day = day' := by
    simp only [dayNumber] at h
    omega
  rw [hday]

/-- The cycles of the calendar put the day after a date where it is counted. -/
lemma next_ofDayNumber (n : Int) : (ofDayNumber n).next = ofDayNumber (n + 1) := by
  have h := isValid_ofDayNumber n
  apply eq_of_dayNumber_eq (isValid_next h) (isValid_ofDayNumber (n + 1))
  rw [dayNumber_next h, dayNumber_ofDayNumber, dayNumber_ofDayNumber]

/-! ## Counted dates -/

/-- The date of a count of days is reached day by day. -/
lemma counted_ofDayNumber (n : Int) : Counted n (ofDayNumber n) := by
  induction n with
  | zero => exact .start
  | succ n ih =>
    have h := ih.onward
    rwa [next_ofDayNumber] at h
  | pred n ih =>
    apply Counted.back (isValid_ofDayNumber _)
    rwa [next_ofDayNumber, Int.sub_add_cancel]

/-- Dates that are reached day by day are dates of the calendar. -/
lemma Counted.isValid {n : Int} {d : Date} (h : Counted n d) : d.isValid = true := by
  induction h with
  | start => rfl
  | onward _ ih => exact isValid_next ih
  | back hvalid _ _ => exact hvalid

/-- A date that is reached day by day has the count as its number. -/
lemma Counted.dayNumber_eq {n : Int} {d : Date} (h : Counted n d) : d.dayNumber = n := by
  induction h with
  | start => rfl
  | onward h ih => rw [dayNumber_next h.isValid, ih]
  | back hvalid _ ih =>
    rw [dayNumber_next hvalid] at ih
    omega

/-- Counted day by day, each number of days leads to the date that has it for its day number. -/
theorem counted_iff {n : Int} {d : Date} : Counted n d ↔ d = ofDayNumber n := by
  constructor
  · intro h
    apply eq_of_dayNumber_eq h.isValid (isValid_ofDayNumber n)
    rw [h.dayNumber_eq, dayNumber_ofDayNumber]
  · rintro rfl
    exact counted_ofDayNumber n

end PagedListing.Time.Date

import PagedListing.Proofs.Time.Gregorian
import PagedListing.Proofs.Time.Scan

/-!
# What written dates and times denote

A stamp is a date and a time of day as numbers of fixed width, whether there is such a date and time or
not. In each of the layouts its text denotes the instant that the calendar and the clock give it, and is
not read where they do not have it (`Stamp.read?_layouts`).
-/

namespace PagedListing.Time
open PagedListing.Number (tenTo)
open PagedListing.Steps (bind_eq)

/-- The fraction of a second in a text: none, or a number of one to nine digits. -/
inductive Fraction where
  | none
  | digits (count value : ℕ) (hcount : 0 < count ∧ count ≤ 9) (hvalue : value < tenTo count)

namespace Fraction

/-- The text of a fraction, with the point in front of it. -/
def text : Fraction → List Char
  | none => []
  | digits count value _ _ => '.' :: padded count value

/-- The nanoseconds of a fraction. -/
def nanos : Fraction → ℕ
  | none => 0
  | digits count value _ _ => value * tenTo (9 - count)

end Fraction

/-- The distance from universal time in a text: none, or less than a day ahead of it or behind it. -/
inductive Zone where
  | universal
  | ahead (hours : Fin 24) (minutes : Fin 60)
  | behind (hours : Fin 24) (minutes : Fin 60)

namespace Zone

/-- The text of a distance. -/
def text : Zone → List Char
  | universal => ['Z']
  | ahead hours minutes => '+' :: padded 2 hours ++ ':' :: padded 2 minutes
  | behind hours minutes => '-' :: padded 2 hours ++ ':' :: padded 2 minutes

/-- The seconds of a distance. -/
def seconds : Zone → ℤ
  | universal => 0
  | ahead hours minutes => 3600 * hours + 60 * minutes
  | behind hours minutes => -(3600 * hours + 60 * minutes)

end Zone

/-- A date and a time of day as they are written, the seconds without a leap second. -/
structure Stamp where
  year : Fin 10000
  month : Fin 100
  day : Fin 100
  hour : Fin 100
  minute : Fin 100
  second : Fin 60
  fraction : Fraction

namespace Stamp

/-- The text of the date. -/
def dateText (w : Stamp) : List Char :=
  padded 4 w.year ++ '-' :: padded 2 w.month ++ '-' :: padded 2 w.day

/-- The text of the time of day. -/
def clockText (w : Stamp) : List Char :=
  padded 2 w.hour ++ ':' :: padded 2 w.minute ++ ':' :: padded 2 w.second ++ w.fraction.text

/-- Date and time with a mark between them and a distance from universal time, if there is one. -/
def text (w : Stamp) (mark : Char) (zone : List Char) : String :=
  String.ofList (w.dateText ++ mark :: (w.clockText ++ zone))

/-- The calendar has the date. -/
def OnCalendar (w : Stamp) : Prop := Gregorian.HasDate w.year w.month w.day

/-- The clock shows the time. -/
def OnClock (w : Stamp) : Prop := w.hour.val ≤ 23 ∧ w.minute.val ≤ 59

/-- Whether the calendar has the date is decided by its month and its day. -/
instance (w : Stamp) : Decidable w.OnCalendar :=
  inferInstanceAs (Decidable (Gregorian.HasDate w.year w.month w.day))

/-- Whether the clock shows the time is decided by its hour and its minute. -/
instance (w : Stamp) : Decidable w.OnClock :=
  inferInstanceAs (Decidable (w.hour.val ≤ 23 ∧ w.minute.val ≤ 59))

/-- The start of the day in universal time. -/
def startOfDay (w : Stamp) : Instant :=
  ⟨86400 * Gregorian.daysSinceEpoch w.year w.month w.day, 0⟩

/-- The instant of the date and the time of day at a distance from universal time in seconds. -/
def instant (w : Stamp) (offset : ℤ) : Instant :=
  ⟨w.startOfDay.seconds + (3600 * w.hour + 60 * w.minute + w.second) - offset, w.fraction.nanos⟩

/-- The date, whether the calendar has it or not. -/
def date (w : Stamp) : Date := ⟨(w.year : ℕ), w.month, w.day⟩

/-- The time of day, whether the clock shows it or not. -/
def time (w : Stamp) : TimeOfDay := ⟨w.hour, w.minute, w.second, w.fraction.nanos⟩

variable (w : Stamp)

/-- The date of a stamp is written as a date. -/
lemma dateText_eq : w.dateText = w.date.text := by
  have hyear : ((w.year : ℕ) : ℤ) ≤ 9999 := by omega
  have htext : yearText ((w.year : ℕ) : ℤ) = padded 4 w.year := by
    rw [yearText, if_neg (by omega), if_neg (by omega), Int.natAbs_natCast]
  rw [dateText, date, Date.text, htext]

/-- The time of a stamp is written as a time of day. -/
lemma clockText_eq : w.clockText = w.time.text fun _ => w.fraction.text := rfl

/-- The month and the day of a stamp have two digits. -/
lemma date_bounds : w.date.month < tenTo 2 ∧ w.date.day < tenTo 2 :=
  ⟨w.month.isLt, w.day.isLt⟩

/-- The year of a stamp has four digits. -/
lemma date_year : 0 ≤ w.date.year ∧ w.date.year ≤ 9999 := by
  show 0 ≤ ((w.year : ℕ) : ℤ) ∧ ((w.year : ℕ) : ℤ) ≤ 9999
  omega

/-- The date of a stamp is one that dates are kept for. -/
lemma inRange_date : w.date.inRange = true := by
  have hyear := w.date_year
  rw [Date.inRange, decide_eq_true_iff, Date.firstYear, Date.lastYear]
  omega

/-- The date of a stamp is valid if the calendar has it. -/
lemma isValid_date : w.date.isValid = true ↔ w.OnCalendar :=
  Gregorian.isValid_iff_hasDate w.year w.month w.day

/-- The fraction of a stamp is less than a second. -/
lemma nanos_lt : w.fraction.nanos < nanosPerSecond := by
  cases w.fraction with
  | none => decide
  | digits count value hcount hvalue =>
    have hpowers : tenTo count * tenTo (9 - count) = nanosPerSecond := by
      rw [tenTo, tenTo, Nat.pow_eq, Nat.pow_eq, ← Nat.pow_add, Nat.add_sub_cancel' hcount.2]
      rfl
    rw [← hpowers]
    exact Nat.mul_lt_mul_of_pos_right hvalue (Number.tenTo_pos _)

/-- The time of a stamp is valid if the clock shows it. -/
lemma isValid_time : w.time.isValid = true ↔ w.OnClock := by
  have hsecond := w.second.isLt
  rw [TimeOfDay.isValid, decide_eq_true_iff, OnClock]
  exact ⟨fun h => ⟨h.1, h.2.1⟩, fun h => ⟨h.1, h.2, by show w.second.val ≤ 60; omega, w.nanos_lt⟩⟩

/-- The time of day of a stamp is read as far as it is written. -/
lemma clocked {rest : List Char} (hrest : ∀ c ∈ rest.head?, c.isDigit = false ∧ c ≠ '.') :
    Scan.Clocked w.time (fun _ => w.fraction.text) rest where
  bounds := ⟨w.hour.isLt, w.minute.isLt, Nat.lt_trans w.second.isLt (by decide)⟩
  mark := by
    cases w.fraction with
    | none => exact fun c hc => (hrest c hc).1
    | digits count value hcount hvalue => exact Scan.head_mark rfl _
  fraction := by
    show Scan.fraction (w.fraction.text ++ rest) = some (w.fraction.nanos, rest)
    cases w.fraction with
    | none => exact Scan.fraction_absent fun c hc => (hrest c hc).2
    | digits count value hcount hvalue =>
      exact Scan.fraction_padded hcount hvalue fun c hc => (hrest c hc).1

/-- The date and the time of a stamp make its instant. -/
lemma ofDateTime_eq (offset : ℤ) (h : w.OnCalendar) :
    Instant.ofDateTime w.date w.time offset = w.instant offset := by
  have hsecond := w.second.isLt
  have hday : w.date.dayNumber = Gregorian.daysSinceEpoch w.year w.month w.day :=
    Gregorian.dayNumber_eq_daysSinceEpoch h
  have hleap : w.time.leapNanos = w.fraction.nanos := if_neg (Nat.ne_of_lt w.second.isLt)
  have hseconds : (w.time.seconds : ℤ) = 3600 * w.hour + 60 * w.minute + w.second := by
    show ((3600 * w.hour.val + 60 * w.minute.val + min w.second.val 59 : ℕ) : ℤ) = _
    omega
  rw [Instant.ofDateTime, instant, startOfDay, hday, hleap, hseconds]
  rfl

/-- The date of a stamp at midnight is the start of the day. -/
lemma ofDateTime_midnight (h : w.OnCalendar) :
    Instant.ofDateTime w.date .midnight 0 = w.startOfDay := by
  have hday : w.date.dayNumber = Gregorian.daysSinceEpoch w.year w.month w.day :=
    Gregorian.dayNumber_eq_daysSinceEpoch h
  have hstart : (TimeOfDay.midnight.seconds : ℤ) = 0 := rfl
  rw [Instant.ofDateTime, startOfDay, hday, hstart, Int.add_zero, Int.sub_zero]
  rfl

end Stamp

/-- Hours and minutes behind a sign are a distance from universal time. -/
lemma Scan.offset_signed {sign : Char} (hsign : sign = '+' ∨ sign = '-') (hours : Fin 24)
    (minutes : Fin 60) :
    offset (sign :: padded 2 hours ++ ':' :: padded 2 minutes) =
      some (if sign = '+' then (3600 * hours + 60 * minutes : ℤ) else -(3600 * hours + 60 * minutes),
        []) := by
  have hhours : hours.val < tenTo 2 := Nat.lt_trans hours.isLt (by decide)
  have hminutes : minutes.val < tenTo 2 := Nat.lt_trans minutes.isLt (by decide)
  have hread : digits 2 2 (padded 2 minutes) = some (minutes.val, []) := by
    have hdigits : digits 2 2 (padded 2 minutes ++ []) = some (minutes.val, []) :=
      digits_padded (by decide) hminutes (by decide) (by decide) (by simp)
    rwa [List.append_nil] at hdigits
  have hrange : hours.val ≤ 23 ∧ minutes.val ≤ 59 :=
    ⟨Nat.le_of_lt_succ hours.isLt, Nat.le_of_lt_succ minutes.isLt⟩
  have hnumbers : ∀ {f : Nat → Nat → Scan ℤ},
      (do
        let hours ← digits 2 2
        char ':'
        let minutes ← digits 2 2
        guard (hours ≤ 23 ∧ minutes ≤ 59)
        f hours minutes : Scan ℤ) (padded 2 hours ++ ':' :: padded 2 minutes) = f hours minutes [] := by
    intro f
    rw [bind_digits_padded hhours rfl (by decide), bind_char]
    exact (bind_eq hread).trans (bind_eq (guard_eq hrange []))
  rw [offset, List.cons_append]
  obtain rfl | rfl := hsign
  · exact (bind_oneOf (by decide) _ _).trans hnumbers
  · exact (bind_oneOf (by decide) _ _).trans hnumbers

/-- The distance from universal time is read from its text. -/
lemma Zone.offset_text (zone : Zone) : Scan.offset zone.text = some (zone.seconds, []) := by
  cases zone with
  | universal => rfl
  | ahead hours minutes => exact Scan.offset_signed (.inl rfl) hours minutes
  | behind hours minutes => exact Scan.offset_signed (.inr rfl) hours minutes

/-- The text of a distance begins with neither a digit nor a point. -/
lemma Zone.head_text (zone : Zone) : ∀ c ∈ zone.text.head?, c.isDigit = false ∧ c ≠ '.' := by
  intro c hc
  cases zone <;> cases hc <;> decide

namespace Stamp

/-- In each layout a stamp denotes the instant of its date and time at its distance from universal time,
and its date alone the start of the day. Where the calendar or the clock does not have them, no text of
them is read. -/
theorem read?_layouts (w : Stamp) (zone : Zone) :
    Instant.read? (w.text 'T' zone.text) =
        (if w.OnCalendar ∧ w.OnClock then some (w.instant zone.seconds) else none) ∧
      Instant.read? (w.text 'T' []) = Instant.read? (w.text 'T' Zone.universal.text) ∧
      Instant.read? (w.text ' ' []) = Instant.read? (w.text 'T' Zone.universal.text) ∧
      Instant.read? (String.ofList w.dateText) = if w.OnCalendar then some w.startOfDay else none := by
  have hzone : ∀ zone : Zone, Instant.read? (w.text 'T' zone.text) =
      if w.OnCalendar ∧ w.OnClock then some (w.instant zone.seconds) else none := by
    intro zone
    have hread := Instant.read?_internet w.date_bounds w.date_year (w.clocked zone.head_text)
      zone.offset_text
    rw [text, dateText_eq, clockText_eq, hread]
    simp only [isValid_date, isValid_time]
    exact ite_congr rfl (fun h => by rw [w.ofDateTime_eq _ h.1]) fun _ => rfl
  have hcivil : ∀ mark, mark = 'T' ∨ mark = ' ' →
      Instant.read? (w.text mark []) = Instant.read? (w.text 'T' Zone.universal.text) := by
    intro mark hmark
    have hclocked : Scan.Clocked w.time (fun _ => w.fraction.text) [] := w.clocked (by simp)
    have hread := Instant.read?_civil w.date_bounds hmark hclocked
    rw [hzone, text, List.append_nil, dateText_eq, clockText_eq, hread]
    simp only [inRange_date, Bool.and_true, isValid_date, isValid_time]
    exact ite_congr rfl (fun h => by rw [w.ofDateTime_eq 0 h.1, Zone.seconds]) fun _ => rfl
  refine ⟨hzone zone, hcivil 'T' (.inl rfl), hcivil ' ' (.inr rfl), ?_⟩
  rw [dateText_eq, Instant.read?_date w.date_bounds]
  simp only [inRange_date, Bool.and_true, isValid_date]
  exact ite_congr rfl (fun h => by rw [w.ofDateTime_midnight h]) fun _ => rfl

example : Instant.read? "2000-02-29T00:30:00.25+01:00" = some ⟨951780600, 250000000⟩ := by decide

example : Instant.read? "1900-02-29" = none := by decide

end Stamp

end PagedListing.Time

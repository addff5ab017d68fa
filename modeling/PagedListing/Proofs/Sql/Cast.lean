import PagedListing.Proofs.Time.Layout
import PagedListing.Sql.Cast

/-!
# Bound timestamps read by the engine

A timestamp is bound as a text. For an instant in microseconds, in a year of four digits, the cast of
this text is the count of these microseconds (`Cell.ofText?_plainMicroText`): the engine reads the
numbers of the layout one after the other, and none of its looser rules applies.
-/

namespace PagedListing.Sql.Cast
open PagedListing.Number
open PagedListing.Time

variable {β : Type}

/-! ## Steps of reading -/

/-- Digits are no spaces. -/
lemma isSpace_of_isDigit {c : Char} (h : c.isDigit = true) : isSpace c = false := by
  have hrange : 48 ≤ c.toNat ∧ c.toNat ≤ 57 := Char.isDigit_iff_toNat.mp h
  have hblank : c ≠ ' ' := by
    rintro rfl
    cases h
  have htab : ¬ c ≤ '\r' := by
    intro hle
    have hle : c.toNat ≤ 13 := hle
    omega
  simp [isSpace, hblank, htab]

/-- No spaces are passed over before a padded number. -/
lemma spaces_padded (width n : Nat) (rest : List Char) :
    spaces (padded width n ++ rest) = some ((), padded width n ++ rest) := by
  obtain ⟨c, cs, e, hc⟩ := padded_eq_cons width n
  rw [spaces, e, List.cons_append, List.dropWhile_cons_of_neg (by simp [isSpace_of_isDigit hc])]

/-- A year of four digits is read before a mark. -/
lemma year_padded {n : Nat} {mark : Char} {rest : List Char} (hn : n < tenTo 4)
    (hmark : mark.isDigit = false) :
    year (padded 4 n ++ mark :: rest) = some ((n : Int), mark :: rest) := by
  obtain ⟨c, cs, e, hc⟩ := padded_eq_cons 4 n
  have hminus : minus (padded 4 n ++ mark :: rest) = some (false, padded 4 n ++ mark :: rest) := by
    rw [e, List.cons_append]
    unfold minus
    split
    · rename_i h
      cases h
      cases hc
    · rfl
  rw [year, Steps.bind_eq hminus, Scan.bind_digits_padded hn hmark (by decide)]
  rfl

/-- No mark of an era stands before a number. -/
lemma era_padded (width n : Nat) (y : Int) (c : Char) (rest : List Char) :
    era y (c :: (padded width n ++ rest)) = some (y, c :: (padded width n ++ rest)) := by
  obtain ⟨d, ds, e, hd⟩ := padded_eq_cons width n
  rw [e, List.cons_append]
  generalize ds ++ rest = tail
  unfold era
  split
  · rename_i h
    cases h
    cases hd
  · rfl

/-- A fraction of six digits is read up to the end. -/
lemma fraction_padded {micros : Nat} (h : micros < tenTo 6) :
    fraction 6 ('.' :: padded 6 micros) = some (micros * 1000, []) := by
  have hlength := length_padded (by decide) h
  have hall : (padded 6 micros).takeWhile Char.isDigit = padded 6 micros := by
    have htake : (padded 6 micros ++ []).takeWhile Char.isDigit = padded 6 micros :=
      takeWhile_padded (by simp)
    rw [List.append_nil] at htake
    exact htake
  have hkept : (padded 6 micros).take 6 = padded 6 micros :=
    List.take_of_length_le (Nat.le_of_eq hlength)
  have hdrop : (padded 6 micros).drop 6 = [] := List.drop_of_length_le (Nat.le_of_eq hlength)
  simp only [fraction, hall, hkept, natOfDigits?_padded, hlength]
  rw [hdrop]
  rfl

/-! ## Timestamps -/

variable {x : Instant}

/-- The date of a timestamp is read up to the blank after it. -/
lemma day_layout (h : x.IsPlain) (rest : List Char) :
    day (padded 4 x.date.year.toNat ++ '-' :: (padded 2 x.date.month ++ '-' ::
      (padded 2 x.date.day ++ ' ' :: (padded 2 x.timeOfDay.hour ++ rest)))) =
      some (.finite x.date.dayNumber, ' ' :: (padded 2 x.timeOfDay.hour ++ rest)) := by
  obtain ⟨⟨hyear, hmonth, hday⟩, hhour, -⟩ := Instant.layout_bounds h
  have htoNat : ((x.date.year.toNat : Nat) : Int) = x.date.year := Int.toNat_of_nonneg h.year.1
  have hvalid := Instant.isValid_date x
  have hrange : -lastDay ≤ x.date.dayNumber ∧ x.date.dayNumber ≤ lastDay := by
    have hbounds := Date.dayNumber_bounds hvalid h.year
    have hlast : lastDay = 2147483646 := rfl
    omega
  have hcalendar : calendarDay (padded 4 x.date.year.toNat ++ '-' :: (padded 2 x.date.month ++ '-' ::
      (padded 2 x.date.day ++ ' ' :: (padded 2 x.timeOfDay.hour ++ rest)))) =
      some (.finite x.date.dayNumber, ' ' :: (padded 2 x.timeOfDay.hour ++ rest)) := by
    rw [calendarDay, Steps.bind_eq (year_padded hyear rfl), htoNat, Scan.bind_oneOf (by decide),
      Scan.bind_digits_padded hmonth rfl (by decide), Scan.bind_char,
      Scan.bind_digits_padded hday rfl (by decide),
      Steps.bind_eq (era_padded _ _ _ _ _)]
    refine (Steps.bind_eq (a := ()) rfl).trans ?_
    exact Steps.bind_eq (Scan.guard_eq ⟨hvalid, hrange⟩ _)
  rw [day, Steps.bind_eq (spaces_padded _ _ _)]
  -- the calendar day is tried before the names of days
  show (calendarDay _ <|> namedDay _) = _
  rw [hcalendar]
  rfl

/-- The clock of a plain instant gives the nanoseconds of its day. -/
lemma nanosOfDay (h : x.IsPlain) :
    (3600 * x.timeOfDay.hour + 60 * x.timeOfDay.minute + x.timeOfDay.second) * nanosPerSecond +
      x.nanos / 1000 * 1000 = (x.seconds % 86400).toNat * 1000000000 + x.nanos := by
  have hmicros := h.inMicros
  rw [Instant.timeOfDay_eq h.notLeap, nanosPerSecond]
  dsimp only
  omega

/-- The time of a timestamp is read up to the end. -/
lemma timeOfTimestamp_layout (h : x.IsPlain) :
    timeOfTimestamp 6 (' ' :: (padded 2 x.timeOfDay.hour ++ ':' :: (padded 2 x.timeOfDay.minute ++
      ':' :: (padded 2 x.timeOfDay.second ++ '.' :: padded 6 (x.nanos / 1000))))) =
      some (x.seconds % 86400 * 1000000000 + x.nanos, []) := by
  obtain ⟨-, hhour, hminute, hsecond, hmicros⟩ := Instant.layout_bounds h
  obtain ⟨-, hminutes, hseconds, -⟩ := Instant.timeOfDay_bounds h.notLeap
  have hnanos : x.nanos < 1000000000 := h.notLeap
  have hclock : clock 6 (padded 2 x.timeOfDay.hour ++ ':' :: (padded 2 x.timeOfDay.minute ++
      ':' :: (padded 2 x.timeOfDay.second ++ '.' :: padded 6 (x.nanos / 1000)))) =
      some ((x.seconds % 86400).toNat * 1000000000 + x.nanos, []) := by
    rw [← nanosOfDay h, clock, Steps.bind_eq (spaces_padded _ _ _),
      Scan.bind_digits_padded hhour rfl (by decide), Scan.bind_char,
      Scan.bind_digits_padded hminute rfl (by decide), Scan.bind_char,
      Scan.bind_digits_padded hsecond rfl (by decide),
      Steps.bind_eq (Scan.guard_eq ⟨hminutes, hseconds⟩ _), Steps.bind_eq (fraction_padded hmicros)]
    rfl
  have hday : (x.seconds % 86400).toNat * 1000000000 + x.nanos ≤ Cell.nanosPerDay := by
    rw [Cell.nanosPerDay, secondsPerDay, nanosPerSecond]
    omega
  have hclockOfDay := (Steps.bind_eq (f := fun nanos => do
    guard (nanos ≤ Cell.nanosPerDay)
    return nanos) hclock).trans (Steps.bind_eq (Scan.guard_eq hday _))
  have hvalue : (((x.seconds % 86400).toNat * 1000000000 + x.nanos : Nat) : Int) - 0 * nanosPerSecond =
      x.seconds % 86400 * 1000000000 + x.nanos := by
    omega
  rw [← hvalue]
  exact Steps.bind_eq hclockOfDay

/-- The nanoseconds of a timestamp from the start of 1970. -/
lemma timestamp_layout (h : x.IsPlain) :
    (timestamp 6).whole (x.layout ' ' microFraction) =
      some (.inl (x.seconds * 1000000000 + x.nanos)) := by
  have hvalue : x.date.dayNumber * (Cell.nanosPerDay : Int) +
      (x.seconds % 86400 * 1000000000 + x.nanos) = x.seconds * 1000000000 + x.nanos := by
    rw [Instant.date, Date.dayNumber_ofDayNumber, Cell.nanosPerDay, secondsPerDay, nanosPerSecond]
    omega
  apply Scan.whole_eq
  rw [← List.append_nil (x.layout ' ' microFraction), Instant.layout_append h, List.append_nil,
    timestamp, Steps.bind_eq (day_layout h _), ← hvalue]
  exact Steps.bind_eq (timeOfTimestamp_layout h)

/-- The microseconds of a plain instant are a finite count. -/
lemma finiteCount?_micros (h : x.IsPlain) : finiteCount? x.micros = some (Int64.ofInt x.micros) := by
  have hbounds := Instant.micros_bounds h
  have hmin : Int64.minValue.toInt = -9223372036854775808 := rfl
  have hmax : Int64.maxValue.toInt = 9223372036854775807 := rfl
  rw [finiteCount?, if_pos]
  omega

end PagedListing.Sql.Cast

namespace PagedListing.Sql
open PagedListing.Time

/-- A bound timestamp is read as the count of its microseconds. -/
theorem Cell.ofText?_plainMicroText {x : Instant} (h : x.IsPlain) :
    Cell.ofText? (.timestamp .microsecond) x.plainMicroText =
      some (.timestamp .microsecond (Int64.ofInt x.micros)) := by
  have hmicros : (x.seconds * 1000000000 + x.nanos) / 1000 = x.micros := by
    rw [Instant.micros]
    omega
  have hcast : Cast.timestamp? .microsecond (x.layout ' ' microFraction) =
      some (Int64.ofInt x.micros) := by
    rw [Cast.timestamp?, if_neg (by decide), Cast.timestamp_layout h]
    show (Cast.finiteCount? ((x.seconds * 1000000000 + x.nanos) / 1000)).bind some = _
    rw [hmicros, Cast.finiteCount?_micros h, Option.bind_some]
  rw [Cell.ofText?, Instant.plainMicroText, String.toList_ofList, Cast.cell?, hcast, Option.map_some]

/-- The microseconds of a plain instant fit into 64 bits. -/
lemma toInt_micros {x : Instant} (h : x.IsPlain) : (Int64.ofInt x.micros).toInt = x.micros := by
  have hbounds := Instant.micros_bounds h
  apply Int64.toInt_ofInt_of_le
  all_goals omega

end PagedListing.Sql

import PagedListing.Proofs.Sql.Condition

/-!
# Timestamps shown in JSON

A timestamp of a column counts units from the start of 1970. Its JSON form is the text of the exact
instant wherever the calendar has it, and else the count as it stands (`Cell.form?_timestamp_exact`). The
counts whose microseconds exceed 64 bits lie far outside of the calendar, so that none of them shows as
the instant of the nearest count (`TimeUnit.ofYears_micros_iff`).
-/

namespace PagedListing.Time

/-- The microseconds from the start of 1970 that lie in the years from one to another. -/
def OfYears (first last micros : Int) : Prop :=
  (Date.mk first 1 1).dayNumber * 86400000000 ≤ micros ∧
    micros < (Date.mk (last + 1) 1 1).dayNumber * 86400000000

/-- Whether microseconds lie in some years is decided by the ends of the years. -/
instance (first last micros : Int) : Decidable (OfYears first last micros) :=
  inferInstanceAs (Decidable (_ ∧ _))

/-- The instant of microseconds has one of the years in which they lie. -/
lemma year_ofMicros_iff (first last micros : Int) :
    first ≤ (Instant.ofMicros micros).date.year ∧ (Instant.ofMicros micros).date.year ≤ last ↔
      OfYears first last micros := by
  have hday : (Instant.ofMicros micros).seconds / (secondsPerDay : Int) = micros / 86400000000 := by
    show micros / 1000000 / 86400 = micros / 86400000000
    omega
  have hlast : (Date.ofDayNumber (micros / 86400000000)).year ≤ last ↔
      ¬ last + 1 ≤ (Date.ofDayNumber (micros / 86400000000)).year := by
    omega
  rw [Instant.date, hday, hlast, Date.le_year_ofDayNumber_iff, Date.le_year_ofDayNumber_iff, OfYears]
  omega

/-- Microseconds in some years are in all spans around them. -/
lemma OfYears.mono {first last first' last' micros : Int} (hfirst : first' ≤ first)
    (hlast : last ≤ last') (h : OfYears first last micros) : OfYears first' last' micros := by
  rw [← year_ofMicros_iff] at h ⊢
  omega

/-- The calendar has just the instants of the years that dates are kept for. -/
lemma inRange_ofMicros_iff (micros : Int) :
    (Instant.ofMicros micros).date.inRange = true ↔ OfYears Date.firstYear Date.lastYear micros := by
  rw [Date.inRange, decide_eq_true_iff, year_ofMicros_iff]

/-- The ends of the calendar in microseconds, well inside of 64 bits. -/
lemma ofYears_calendar_iff (micros : Int) :
    OfYears Date.firstYear Date.lastYear micros ↔
      -8334601228800000000 ≤ micros ∧ micros < 8210266876800000000 := by
  have hfirst : (Date.mk Date.firstYear 1 1).dayNumber = -96465292 := by decide
  have hlast : (Date.mk (Date.lastYear + 1) 1 1).dayNumber = 95026237 := by decide
  rw [OfYears, hfirst, hlast]
  omega

/-- A text of a date and a time of day, which the calendar and the clock have, and the microseconds from
the start of 1970 to then. -/
structure Names (written : String) (micros : Int) (d : Date) (t : TimeOfDay) : Prop where
  onCalendar : d.isValid = true
  onClock : t.hour < 24 ∧ t.minute < 60 ∧ t.second < 60 ∧ t.nanos < nanosPerSecond
  text : written = String.ofList (d.text ++ 'T' :: t.text microFraction ++ ['Z'])
  micros : micros * 1000 = (d.dayNumber * 86400 + (3600 * t.hour + 60 * t.minute + t.second)) *
    1000000000 + t.nanos

/-- The text of an instant in microseconds names its date and its time of day. -/
lemma names_zuluMicroText (micros : Int) :
    Names (Instant.ofMicros micros).zuluMicroText micros (Instant.ofMicros micros).date
      (Instant.ofMicros micros).timeOfDay := by
  have hleap : (Instant.ofMicros micros).nanos < nanosPerSecond := by
    simp only [Instant.ofMicros, nanosPerSecond]
    omega
  obtain ⟨hhour, hminute, hsecond, hnanos⟩ := Instant.timeOfDay_bounds hleap
  refine ⟨Instant.isValid_date _, ⟨hhour, hminute, hsecond, hnanos ▸ hleap⟩, rfl, ?_⟩
  rw [Instant.date, Date.dayNumber_ofDayNumber, Instant.timeOfDay_eq hleap, secondsPerDay,
    Instant.ofMicros]
  dsimp only
  omega

end PagedListing.Time

namespace PagedListing.Sql
open PagedListing.Time

namespace TimeUnit

/-- The exact microseconds of a count of units, with the rest of nanoseconds cut off toward zero. -/
def exactMicros : TimeUnit → Int64 → Int
  | second, count => count.toInt * 1000000
  | millisecond, count => count.toInt * 1000
  | microsecond, count => count.toInt
  | nanosecond, count => count.toInt.tdiv 1000

/-- A number is saturated at the ends of 64 bits. -/
lemma toInt_saturate (n : Int) :
    (saturate n).toInt = max (-9223372036854775808) (min n 9223372036854775807) := by
  have hmin : Int64.minValue.toInt = -9223372036854775808 := rfl
  have hmax : Int64.maxValue.toInt = 9223372036854775807 := rfl
  rw [saturate, hmin, hmax]
  apply Int64.toInt_ofInt_of_le <;> omega

/-- The kept microseconds are the nearest ones of 64 bits to the exact ones. -/
lemma toInt_micros (unit : TimeUnit) (count : Int64) :
    (unit.micros count).toInt =
      max (-9223372036854775808) (min (unit.exactMicros count) 9223372036854775807) := by
  have hlow := count.le_toInt
  have hhigh := count.toInt_lt
  cases unit with
  | second | millisecond => exact toInt_saturate _
  | microsecond =>
    simp only [micros, exactMicros]
    omega
  | nanosecond =>
    have hrange : -9223372036854775808 ≤ count.toInt.tdiv 1000 ∧
        count.toInt.tdiv 1000 < 9223372036854775808 := by
      rw [Int.tdiv_eq_ediv, show Int.sign 1000 = 1 from rfl]
      split <;> omega
    rw [micros, Int64.toInt_ofInt_of_le hrange.1 hrange.2, exactMicros]
    omega

/-- The kept microseconds lie in the calendar exactly if the exact ones do. -/
lemma ofYears_micros_iff (unit : TimeUnit) (count : Int64) :
    OfYears Date.firstYear Date.lastYear (unit.micros count).toInt ↔
      OfYears Date.firstYear Date.lastYear (unit.exactMicros count) := by
  rw [toInt_micros, ofYears_calendar_iff, ofYears_calendar_iff]
  omega

/-- In the calendar the kept microseconds are the exact ones. -/
lemma toInt_micros_of_ofYears {unit : TimeUnit} {count : Int64}
    (h : OfYears Date.firstYear Date.lastYear (unit.exactMicros count)) :
    (unit.micros count).toInt = unit.exactMicros count := by
  rw [ofYears_calendar_iff] at h
  rw [toInt_micros]
  omega

end TimeUnit

namespace Cell

/-- A timestamp has the text of its instant if the calendar has it, and its count otherwise. -/
lemma form?_timestamp_eq (unit : TimeUnit) (count : Int64) :
    (Cell.timestamp unit count).form? =
      some (if OfYears Date.firstYear Date.lastYear (unit.exactMicros count)
        then .str (Instant.ofMicros (unit.exactMicros count)).zuluMicroText
        else .int count.toInt) := by
  have htext : timestampText? unit count =
      if (Instant.ofMicros (unit.micros count).toInt).date.inRange then
        some (Instant.ofMicros (unit.micros count).toInt).zuluMicroText
      else none := rfl
  by_cases h : OfYears Date.firstYear Date.lastYear (unit.exactMicros count)
  · rw [TimeUnit.toInt_micros_of_ofYears h, if_pos ((inRange_ofMicros_iff _).mpr h)] at htext
    rw [if_pos h, form?_of_timestampText? htext]
  · have hrange := mt (inRange_ofMicros_iff _).mp (mt (TimeUnit.ofYears_micros_iff unit count).mp h)
    rw [if_neg hrange] at htext
    unfold form?
    dsimp only
    rw [htext, if_neg h]

/-- A timestamp is shown as a text exactly if its exact instant lies in the calendar. The text then names
this instant, which is the one that was kept, and in the years of four digits it is read back as it. Any
other timestamp is shown as its count. -/
theorem form?_timestamp_exact (unit : TimeUnit) (count : Int64) :
    ((∃ written, (Cell.timestamp unit count).form? = some (.str written)) ↔
        OfYears Date.firstYear Date.lastYear (unit.exactMicros count)) ∧
      (∀ written, (Cell.timestamp unit count).form? = some (.str written) →
        (unit.micros count).toInt = unit.exactMicros count ∧
          ∃ d t, Names written (unit.exactMicros count) d t) ∧
      (OfYears 0 9999 (unit.exactMicros count) →
        ∃ written, (Cell.timestamp unit count).form? = some (.str written) ∧
          Instant.read? written = some (Instant.ofMicros (unit.exactMicros count))) ∧
      (¬ OfYears Date.firstYear Date.lastYear (unit.exactMicros count) →
        (Cell.timestamp unit count).form? = some (.int count.toInt)) := by
  rw [form?_timestamp_eq]
  by_cases h : OfYears Date.firstYear Date.lastYear (unit.exactMicros count)
  · rw [if_pos h]
    refine ⟨iff_of_true ⟨_, rfl⟩ h, ?_, fun hyears => ⟨_, rfl, ?_⟩, absurd h⟩
    · intro written hwritten
      rw [Option.some_inj, Json.str.injEq] at hwritten
      exact ⟨TimeUnit.toInt_micros_of_ofYears h, _, _, hwritten ▸ names_zuluMicroText _⟩
    · have hyear := (year_ofMicros_iff _ _ _).mpr hyears
      exact Instant.read?_zuluMicroText (Instant.isPlain_ofMicros hyear)
  · rw [if_neg h]
    refine ⟨iff_of_false (fun ⟨_, e⟩ => nomatch e) h, nofun, ?_, fun _ => rfl⟩
    exact fun hyears => absurd (hyears.mono (by decide) (by decide)) h

example : (Cell.timestamp .nanosecond (-1)).form? = some (.str "1970-01-01T00:00:00.000000Z") := rfl

example : (Cell.timestamp .second Int64.maxValue).form? = some (.int 9223372036854775807) := rfl

end Cell
end PagedListing.Sql

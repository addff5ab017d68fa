import Mathlib.Logic.Basic
import PagedListing.Proofs.Number.Decimal
import PagedListing.Proofs.Steps
import PagedListing.Time.Layout
import PagedListing.Time.Text

/-!
# The layouts of instants, part by part

Every step of reading takes up the front that it is meant for: digits are read up to what follows them
(`Scan.digits_append`), a date and a time of day as far as they are written (`Scan.date_text`,
`Scan.time_text`). The calendar and the clock decide whether such a text is read, so what a layout makes
of it is an equation with a condition (`Scan.internet_date`, `Scan.civil_date`).
-/

namespace PagedListing.Time
open PagedListing.Number
open PagedListing.Steps (bind_eq)
open PagedListing.Text (isBlank)

/-! ## Numbers with zeros in front -/

/-- Zeros in front of digits do not count. -/
lemma natOfDigits?_zeros (count : Nat) (cs : List Char) :
    natOfDigits? 0 (List.replicate count '0' ++ cs) = natOfDigits? 0 cs := by
  induction count with
  | zero => rfl
  | succ count ih => exact ih

/-- A padded number is read as the number. -/
lemma natOfDigits?_padded (width n : Nat) : natOfDigits? 0 (padded width n) = some n := by
  rw [padded, natOfDigits?_zeros, natOfDigits?_toDigits]

/-- A padded number consists of digits. -/
lemma isDigit_of_mem_padded {width n : Nat} {c : Char} (h : c ∈ padded width n) :
    c.isDigit = true := by
  cases List.mem_append.mp h with
  | inl hzero =>
    have e := List.eq_of_mem_replicate hzero
    subst e
    rfl
  | inr hdigit => exact isDigit_of_mem_toDigits hdigit

/-- A number that fits is padded to its width. -/
lemma length_padded {width n : Nat} (hwidth : 0 < width) (h : n < tenTo width) :
    (padded width n).length = width := by
  have hle : (Nat.toDigits 10 n).length ≤ width :=
    (Nat.length_toDigits_le_iff (by decide) hwidth).mpr h
  rw [padded, List.length_append, List.length_replicate]
  exact Nat.sub_add_cancel hle

/-- The digits of a padded number end before what follows. -/
lemma takeWhile_padded {width n : Nat} {rest : List Char}
    (hrest : ∀ c ∈ rest.head?, c.isDigit = false) :
    (padded width n ++ rest).takeWhile Char.isDigit = padded width n := by
  rw [List.takeWhile_append_of_pos fun c hc => isDigit_of_mem_padded hc]
  cases rest with
  | nil => exact List.append_nil _
  | cons c cs =>
    rw [List.takeWhile_cons_of_neg (by simp [hrest c rfl]), List.append_nil]

/-- A padded number begins with a digit. -/
lemma padded_eq_cons (width n : Nat) :
    ∃ c cs, padded width n = c :: cs ∧ c.isDigit = true := by
  cases h : padded width n with
  | nil => exact absurd (List.append_eq_nil_iff.mp h).2 Nat.toDigits_ne_nil
  | cons c cs => exact ⟨c, cs, rfl, isDigit_of_mem_padded (h ▸ List.mem_cons_self)⟩

/-! ## Steps of reading -/

namespace Scan

variable {α β : Type}

/-- A step that fails ends the reading. -/
lemma bind_eq_none {p : Scan α} {f : α → Scan β} {cs : List Char} (h : p cs = none) :
    (p >>= f) cs = none := by
  show (p cs).bind (fun result => f result.1 result.2) = none
  rw [h, Option.bind_none]

/-- A step that checks what it takes up decides whether the steps after it are taken. -/
lemma bind_ite {p : Scan α} {f : α → Scan β} {cs rest : List Char} {a : α} {c : Prop} [Decidable c]
    (h : p cs = if c then some (a, rest) else none) :
    (p >>= f) cs = if c then f a rest else none := by
  by_cases hc : c
  · rw [if_pos hc] at h ⊢
    exact bind_eq h
  · rw [if_neg hc] at h ⊢
    exact bind_eq_none h

/-- A condition that holds lets the reading go on. -/
lemma guard_eq {c : Prop} [Decidable c] (h : c) (cs : List Char) :
    (guard c : Scan Unit) cs = some ((), cs) := by
  have e : (guard c : Scan Unit) = pure () := if_pos h
  rw [e]
  rfl

/-- A condition lets the reading go on if it holds, and ends it otherwise. -/
lemma guard_ite (c : Prop) [Decidable c] (cs : List Char) :
    (guard c : Scan Unit) cs = if c then some ((), cs) else none := by
  by_cases hc : c
  · rw [guard_eq hc, if_pos hc]
  · have e : (guard c : Scan Unit) = failure := if_neg hc
    rw [e, if_neg hc]
    rfl

/-- A text is read as a whole if nothing is left of it. -/
lemma whole_eq {p : Scan α} {cs : List Char} {a : α} (h : p cs = some (a, [])) :
    p.whole cs = some a := by
  rw [whole, h]

/-- A text is not read as a whole if something is always left of it. -/
lemma whole_eq_none {p : Scan α} {cs : List Char} (h : ∀ a, p cs ≠ some (a, [])) :
    p.whole cs = none := by
  unfold whole
  split
  · rename_i a e
    exact absurd e (h a)
  · rfl

/-- A checked text is read as a whole if the check passes. -/
lemma whole_ite {p : Scan α} {cs : List Char} {a : α} {c : Prop} [Decidable c]
    (h : p cs = if c then some (a, []) else none) : p.whole cs = if c then some a else none := by
  by_cases hc : c
  · rw [if_pos hc] at h ⊢
    exact whole_eq h
  · rw [if_neg hc] at h ⊢
    refine whole_eq_none fun b => ?_
    rw [h]
    exact nofun

/-- Digits are read up to what follows them. -/
theorem digits_append {least most : Nat} {ds rest : List Char} (hds : ∀ c ∈ ds, c.isDigit = true)
    (hleast : least ≤ ds.length) (hmost : ds.length ≤ most)
    (hrest : ∀ c ∈ rest.head?, c.isDigit = false) :
    digits least most (ds ++ rest) = (natOfDigits? 0 ds).map fun n => (n, rest) := by
  have hstop : ∀ k, (rest.take k).takeWhile Char.isDigit = [] := by
    intro k
    cases rest with
    | nil => rw [List.take_nil]; rfl
    | cons c cs =>
      cases k with
      | zero => rfl
      | succ k => exact List.takeWhile_cons_of_neg (by simp [hrest c rfl])
  have htaken : ((ds ++ rest).take most).takeWhile Char.isDigit = ds := by
    rw [List.take_append, List.take_of_length_le hmost, List.takeWhile_append_of_pos hds, hstop,
      List.append_nil]
  rw [digits, htaken, if_neg (Nat.not_lt.mpr hleast), List.drop_left]

/-- A number of fixed width is read up to the mark after it. -/
theorem digits_padded {least most width n : Nat} {rest : List Char} (hwidth : 0 < width)
    (hn : n < tenTo width) (hleast : least ≤ width) (hmost : width ≤ most)
    (hrest : ∀ c ∈ rest.head?, c.isDigit = false) :
    digits least most (padded width n ++ rest) = some (n, rest) := by
  have hlength := length_padded hwidth hn
  rw [digits_append (fun c hc => isDigit_of_mem_padded hc) (by rw [hlength]; exact hleast)
    (by rw [hlength]; exact hmost) hrest, natOfDigits?_padded]
  rfl

/-- Digits end at a mark. -/
lemma head_mark {mark : Char} (hmark : mark.isDigit = false) (rest : List Char) :
    ∀ c ∈ (mark :: rest).head?, c.isDigit = false := by
  intro c hc
  cases hc
  exact hmark

/-- A number of fixed width and the mark after it are read one after the other. -/
lemma bind_digits_padded {least most width n : Nat} {mark : Char} {rest : List Char}
    {f : Nat → Scan β} (hn : n < tenTo width) (hmark : mark.isDigit = false)
    (hwidth : 0 < width ∧ least ≤ width ∧ width ≤ most) :
    (digits least most >>= f) (padded width n ++ mark :: rest) = f n (mark :: rest) := by
  apply bind_eq
  exact digits_padded hwidth.1 hn hwidth.2.1 hwidth.2.2 (head_mark hmark rest)

/-- No digits are read at a mark. -/
lemma digits_mark {least most : Nat} {mark : Char} {rest : List Char} (hleast : 0 < least)
    (hmark : mark.isDigit = false) : digits least most (mark :: rest) = none := by
  have htaken : ((mark :: rest).take most).takeWhile Char.isDigit = [] := by
    cases most with
    | zero => rfl
    | succ most => exact List.takeWhile_cons_of_neg (by simp [hmark])
  rw [digits, htaken]
  exact if_pos hleast

/-- A character is read where it stands. -/
lemma char_eq (c : Char) (cs : List Char) : char c (c :: cs) = some ((), cs) :=
  if_pos rfl

/-- A character and what follows it are read one after the other. -/
lemma bind_char (c : Char) (cs : List Char) (f : Unit → Scan β) :
    (char c >>= f) (c :: cs) = f () cs :=
  bind_eq (char_eq c cs)

/-- One of some characters and what follows it are read one after the other. -/
lemma bind_oneOf {expected : List Char} {c : Char} (h : c ∈ expected) (cs : List Char)
    (f : Char → Scan β) : (oneOf expected >>= f) (c :: cs) = f c cs :=
  bind_eq (if_pos h)

/-- No blanks are passed over before a mark. -/
lemma blanks_mark {mark : Char} (hblank : isBlank mark = false) (rest : List Char) :
    blanks (mark :: rest) = some ((), mark :: rest) := by
  rw [blanks, Text.dropBlanks_cons_of_not_blank hblank]

/-- No blanks are passed over before a padded number. -/
lemma blanks_padded (width n : Nat) (rest : List Char) :
    blanks (padded width n ++ rest) = some ((), padded width n ++ rest) := by
  obtain ⟨c, cs, e, hc⟩ := padded_eq_cons width n
  rw [e, List.cons_append]
  exact blanks_mark (isBlank_of_isDigit hc) _

/-- A number of two digits and what follows it are read one after the other. -/
lemma bind_short_padded {n : Nat} {rest : List Char} {f : Nat → Scan β} (hn : n < tenTo 2)
    (hrest : ∀ c ∈ rest.head?, c.isDigit = false) :
    (short >>= f) (padded 2 n ++ rest) = f n rest := by
  apply bind_eq
  rw [short, bind_eq (blanks_padded 2 n rest)]
  exact digits_padded (by decide) hn (by decide) (by decide) hrest

/-- No number is read at a mark. -/
lemma short_mark {mark : Char} (hmark : mark.isDigit = false) (hblank : isBlank mark = false)
    (rest : List Char) : short (mark :: rest) = none := by
  rw [short, bind_eq (blanks_mark hblank rest)]
  exact digits_mark (by decide) hmark

/-! ## Dates and times of day -/

/-- A date is read if the calendar has it in the years that dates are kept for. -/
lemma checkedDate_ite (year : Int) (month day : Nat) (cs : List Char) :
    checkedDate year month day cs =
      if (Date.mk year month day).isValid && (Date.mk year month day).inRange
      then some (⟨year, month, day⟩, cs) else none :=
  bind_ite (guard_ite _ cs)

/-- A time of day is read if the clock shows it. -/
lemma checkedTime_ite (hour minute second nanos : Nat) (cs : List Char) :
    checkedTime hour minute second nanos cs =
      if (TimeOfDay.mk hour minute second nanos).isValid
      then some (⟨hour, minute, second, nanos⟩, cs) else none :=
  bind_ite (guard_ite _ cs)

/-- A fraction of a second in one to nine digits. -/
lemma fraction_padded {count n : Nat} {rest : List Char} (hcount : 0 < count ∧ count ≤ 9)
    (hn : n < tenTo count) (hrest : ∀ c ∈ rest.head?, c.isDigit = false) :
    fraction ('.' :: (padded count n ++ rest)) = some (n * tenTo (9 - count), rest) := by
  have hlength := length_padded hcount.1 hn
  have hne : padded count n ≠ [] := by
    rw [← List.length_pos_iff, hlength]
    exact hcount.1
  have hkept : (padded count n).take 9 = padded count n :=
    List.take_of_length_le (by rw [hlength]; exact hcount.2)
  have hdrop : (padded count n ++ rest).drop (padded count n).length = rest := List.drop_left
  simp only [fraction, takeWhile_padded hrest, hkept, natOfDigits?_padded, hlength]
  rw [hlength] at hdrop
  rw [if_neg (by simpa using hne), hdrop]
  rfl

/-- Without a point there is no fraction. -/
lemma fraction_absent {cs : List Char} (h : ∀ c ∈ cs.head?, c ≠ '.') :
    fraction cs = some (0, cs) := by
  cases cs with
  | nil => rfl
  | cons c cs =>
    unfold fraction
    split
    · rename_i e
      cases e
      exact absurd rfl (h '.' rfl)
    · rfl

/-- A year is read with its sign, if it has one, and with all its digits. -/
lemma year_yearText (y : Int) {mark : Char} (hmark : mark.isDigit = false) (rest : List Char) :
    year (yearText y ++ mark :: rest) = some (y, mark :: rest) := by
  have hdigits : ∀ least most, least ≤ (padded 4 y.natAbs).length →
      (padded 4 y.natAbs).length ≤ most →
      digits least most (padded 4 y.natAbs ++ mark :: rest) = some (y.natAbs, mark :: rest) := by
    intro least most hleast hmost
    rw [digits_append (fun c hc => isDigit_of_mem_padded hc) hleast hmost (head_mark hmark rest),
      natOfDigits?_padded]
    rfl
  obtain ⟨c, cs, e, hc⟩ := padded_eq_cons 4 y.natAbs
  have hlong : 1 ≤ (padded 4 y.natAbs).length := by
    rw [e]
    exact Nat.le_add_left 1 cs.length
  have hsigned := hdigits 1 (padded 4 y.natAbs ++ mark :: rest).length hlong (by
    rw [List.length_append]
    exact Nat.le_add_right _ _)
  rw [yearText]
  split
  · rename_i hneg
    have hvalue : -(y.natAbs : Int) = y := by omega
    have hblanks : blanks ('-' :: (padded 4 y.natAbs ++ mark :: rest)) =
        some ((), '-' :: (padded 4 y.natAbs ++ mark :: rest)) := rfl
    refine (bind_eq hblanks).trans ?_
    show (digits 1 _ _).map _ = _
    rw [hsigned]
    exact congrArg (fun z => some (z, mark :: rest)) hvalue
  · split
    · rename_i hlarge
      have hvalue : (y.natAbs : Int) = y := by omega
      have hblanks : blanks ('+' :: (padded 4 y.natAbs ++ mark :: rest)) =
          some ((), '+' :: (padded 4 y.natAbs ++ mark :: rest)) := rfl
      refine (bind_eq hblanks).trans ?_
      show (digits 1 _ _).map _ = _
      rw [hsigned]
      exact congrArg (fun z => some (z, mark :: rest)) hvalue
    · rename_i hneg hlarge
      have hvalue : (y.natAbs : Int) = y := by omega
      have hlength : (padded 4 y.natAbs).length = 4 :=
        length_padded (by decide) (show y.natAbs < 10000 by omega)
      have hplain := hdigits 1 4 hlong (Nat.le_of_eq hlength)
      rw [year, bind_eq (blanks_padded 4 y.natAbs (mark :: rest))]
      rw [e, List.cons_append] at hplain ⊢
      -- a digit is no sign
      split
      · rename_i h
        cases h
        cases hc
      · rename_i h
        cases h
        cases hc
      · rw [hplain]
        exact congrArg (fun z => some (z, mark :: rest)) hvalue

/-- A date is read as far as it is written, if the calendar has it. -/
theorem date_text {d : Date} (hd : d.month < tenTo 2 ∧ d.day < tenTo 2) {rest : List Char}
    (hrest : ∀ c ∈ rest.head?, c.isDigit = false) :
    date (d.text ++ rest) = if d.isValid && d.inRange then some (d, rest) else none := by
  rw [date, Date.text]
  -- written-out proofs of these steps keep the kernel from unfolding the digits
  simp -implicitDefEqProofs only [List.append_assoc, List.cons_append]
  rw [bind_eq (year_yearText d.year rfl _), bind_char, bind_short_padded hd.1 (head_mark rfl _),
    bind_char, bind_short_padded hd.2 hrest]
  exact checkedDate_ite d.year d.month d.day rest

/-- A time of day can be written in two digits a number, and its fraction is read up to the rest. -/
structure Clocked (t : TimeOfDay) (written : Nat → List Char) (rest : List Char) : Prop where
  bounds : t.hour < tenTo 2 ∧ t.minute < tenTo 2 ∧ t.second < tenTo 2
  mark : ∀ c ∈ (written t.nanos ++ rest).head?, c.isDigit = false
  fraction : fraction (written t.nanos ++ rest) = some (t.nanos, rest)

/-- A time of day is read as far as it is written, if the clock shows it. -/
theorem time_text {t : TimeOfDay} {written : Nat → List Char} {rest : List Char}
    (h : Clocked t written rest) :
    time (t.text written ++ rest) = if t.isValid then some (t, rest) else none := by
  rw [time, TimeOfDay.text]
  simp -implicitDefEqProofs only [List.append_assoc, List.cons_append]
  rw [bind_short_padded h.bounds.1 (head_mark rfl _), bind_char,
    bind_short_padded h.bounds.2.1 (head_mark rfl _), bind_char,
    bind_short_padded h.bounds.2.2 h.mark, bind_eq h.fraction]
  exact checkedTime_ite t.hour t.minute t.second t.nanos rest

/-! ## Layouts -/

/-- What the Internet layout reads behind a date. -/
def behindDate (d : Date) : Scan Instant := do
  let _ ← oneOf ['T', 't', ' ']
  let hour ← digits 2 2
  char ':'
  let minute ← digits 2 2
  char ':'
  let second ← digits 2 2
  let t ← checkedTime hour minute second (← fraction)
  return .ofDateTime d t (← offset)

/-- A date in the internet layout is read up to what follows it. -/
lemma internet_date {d : Date} (hd : d.month < tenTo 2 ∧ d.day < tenTo 2)
    (hyear : 0 ≤ d.year ∧ d.year ≤ 9999) {rest : List Char}
    (hrest : ∀ c ∈ rest.head?, c.isDigit = false) :
    internet (d.text ++ rest) = if d.isValid then behindDate d rest else none := by
  have hwritten : yearText d.year = padded 4 d.year.toNat := by
    rw [yearText, if_neg (by omega), if_neg (by omega)]
    congr 1
    omega
  have hlong : d.year.toNat < tenTo 4 := by
    show d.year.toNat < 10000
    omega
  have hvalue : ((d.year.toNat : Nat) : Int) = d.year := Int.toNat_of_nonneg hyear.1
  have hrange : d.inRange = true := by
    rw [Date.inRange, decide_eq_true_iff, Date.firstYear, Date.lastYear]
    omega
  have hchecked : checkedDate d.year d.month d.day rest = if d.isValid then some (d, rest) else none := by
    rw [checkedDate_ite d.year d.month d.day rest]
    show (if d.isValid && d.inRange then _ else _) = _
    rw [hrange, Bool.and_true]
  rw [internet, Date.text, hwritten]
  simp -implicitDefEqProofs only [List.append_assoc, List.cons_append]
  rw [bind_digits_padded hlong rfl (by decide), bind_char,
    bind_digits_padded hd.1 rfl (by decide), bind_char]
  refine (bind_eq (digits_padded (by decide) hd.2 (by decide) (by decide) hrest)).trans ?_
  rw [hvalue]
  exact bind_ite hchecked

/-- Behind a date a mark and a time of day are read, and then the distance from universal time. -/
lemma behindDate_time {d : Date} {t : TimeOfDay} {written : Nat → List Char} {rest : List Char}
    {mark : Char} (hmark : mark ∈ ['T', 't', ' ']) (h : Clocked t written rest) :
    behindDate d (mark :: (t.text written ++ rest)) =
      if t.isValid then (offset >>= fun o => pure (.ofDateTime d t o) : Scan Instant) rest else none := by
  rw [behindDate, bind_oneOf hmark, TimeOfDay.text]
  simp -implicitDefEqProofs only [List.append_assoc, List.cons_append]
  rw [bind_digits_padded h.bounds.1 rfl (by decide), bind_char,
    bind_digits_padded h.bounds.2.1 rfl (by decide), bind_char]
  refine (bind_eq (digits_padded (by decide) h.bounds.2.2 (by decide) (by decide) h.mark)).trans ?_
  rw [bind_eq h.fraction]
  exact bind_ite (checkedTime_ite t.hour t.minute t.second t.nanos rest)

/-- A year with a sign is not in the Internet layout. -/
lemma internet_signed {d : Date} (hyear : ¬ (0 ≤ d.year ∧ d.year ≤ 9999)) (rest : List Char) :
    internet (d.text ++ rest) = none := by
  have hsign : ∃ sign cs, d.text ++ rest = sign :: cs ∧ sign.isDigit = false := by
    rw [Date.text, yearText]
    split
    · exact ⟨_, _, rfl, rfl⟩
    · rw [if_pos (by omega)]
      exact ⟨_, _, rfl, rfl⟩
  obtain ⟨sign, cs, e, hsign⟩ := hsign
  rw [e, internet]
  exact bind_eq_none (digits_mark (by decide) hsign)

section
variable {d : Date} {t : TimeOfDay} {written : Nat → List Char} {rest : List Char}

/-- Without an offset a text is not in the Internet layout. -/
lemma internet_civil (hd : d.month < tenTo 2 ∧ d.day < tenTo 2) {mark : Char}
    (hmark : mark ∈ ['T', 't', ' ']) (hdigit : mark.isDigit = false) (h : Clocked t written []) :
    internet (d.text ++ mark :: t.text written) = none := by
  by_cases hyear : 0 ≤ d.year ∧ d.year ≤ 9999
  · have htime := behindDate_time (d := d) hmark h
    have hoffset : (offset >>= fun o => pure (.ofDateTime d t o) : Scan Instant) [] = none := rfl
    rw [List.append_nil, hoffset, ite_self] at htime
    rw [internet_date hd hyear (head_mark hdigit _), htime, ite_self]
  · exact internet_signed hyear _

/-- What a layout without an offset makes of a text is settled by what stands behind the date. -/
lemma civil_date (hd : d.month < tenTo 2 ∧ d.day < tenTo 2) (separator : Scan Unit)
    (hrest : ∀ c ∈ rest.head?, c.isDigit = false) :
    civil separator (d.text ++ rest) =
      if d.isValid && d.inRange then
        (separator >>= fun _ => time >>= fun t => pure (.ofDateTime d t 0) : Scan Instant) rest
      else none :=
  bind_ite (date_text hd hrest)

/-- A date and a time of day are read with their separator between them. -/
lemma civil_separated (hd : d.month < tenTo 2 ∧ d.day < tenTo 2) {separator : Scan Unit} {mark : Char}
    (hdigit : mark.isDigit = false) (h : Clocked t written rest)
    (hseparator : separator (mark :: (t.text written ++ rest)) = some ((), t.text written ++ rest)) :
    civil separator (d.text ++ mark :: (t.text written ++ rest)) =
      if (d.isValid && d.inRange) ∧ t.isValid then some (.ofDateTime d t 0, rest) else none := by
  rw [civil_date hd separator (head_mark hdigit _), bind_eq hseparator, bind_ite (time_text h),
    ite_and]
  rfl

/-- A date alone is not read where a time of day has to follow. -/
lemma civil_unseparated (hd : d.month < tenTo 2 ∧ d.day < tenTo 2) {separator : Scan Unit}
    (hrest : ∀ c ∈ rest.head?, c.isDigit = false)
    (hseparator : (separator >>= fun _ => time) rest = none) :
    (civil separator).whole (d.text ++ rest) = none := by
  have hbehind : (separator >>= fun _ => time >>= fun t => pure (.ofDateTime d t 0) : Scan Instant)
      rest = none := by
    rw [← bind_assoc]
    exact bind_eq_none hseparator
  refine whole_eq_none fun x => ?_
  rw [civil_date hd separator hrest, hbehind, ite_self]
  exact nofun

/-- With blanks for a separator, nothing with a letter between date and time is read. -/
lemma civil_blanks_letter (hd : d.month < tenTo 2 ∧ d.day < tenTo 2) (rest : List Char) :
    (civil blanks).whole (d.text ++ 'T' :: rest) = none := by
  have htime : time ('T' :: rest) = none := bind_eq_none (short_mark (by decide) (by decide) rest)
  exact civil_unseparated hd (head_mark rfl rest) ((bind_eq (blanks_mark (by decide) rest)).trans htime)

/-- A date alone is all that is read in the last layout. -/
lemma startOfDay_mark (hd : d.month < tenTo 2 ∧ d.day < tenTo 2) {mark : Char}
    (hdigit : mark.isDigit = false) : startOfDay.whole (d.text ++ mark :: rest) = none := by
  have hday := bind_ite (f := fun d => (pure (.ofDateTime d .midnight 0) : Scan Instant))
    (date_text hd (head_mark hdigit rest))
  refine whole_eq_none fun x => ?_
  rw [startOfDay, hday]
  split
  · exact nofun
  · exact nofun

end

end Scan

/-! ## Whole texts -/

namespace Instant
open Scan

section
variable {d : Date} {t : TimeOfDay} {written : Nat → List Char}

/-- Date and time with a `T` or a blank between them are in universal time. -/
theorem read?_civil (hd : d.month < tenTo 2 ∧ d.day < tenTo 2) {mark : Char}
    (hmark : mark = 'T' ∨ mark = ' ') (h : Clocked t written []) :
    read? (String.ofList (d.text ++ mark :: t.text written)) =
      if (d.isValid && d.inRange) ∧ t.isValid then some (.ofDateTime d t 0) else none := by
  have hdigit : mark.isDigit = false := by
    obtain rfl | rfl := hmark <;> decide
  have hinternet : internet.whole (d.text ++ mark :: t.text written) = none := by
    refine whole_eq_none fun x => ?_
    rw [internet_civil hd (by obtain rfl | rfl := hmark <;> decide) hdigit h]
    exact nofun
  have hseparated : ∀ {separator : Scan Unit},
      separator (mark :: t.text written) = some ((), t.text written) →
      (civil separator).whole (d.text ++ mark :: t.text written) =
        if (d.isValid && d.inRange) ∧ t.isValid then some (.ofDateTime d t 0) else none := by
    intro separator hseparator
    rw [← List.append_nil (t.text written)] at hseparator ⊢
    exact whole_ite (civil_separated hd hdigit h hseparator)
  rw [read?, String.toList_ofList, hinternet, startOfDay_mark hd hdigit]
  obtain rfl | rfl := hmark
  · rw [hseparated (char_eq 'T' _), civil_blanks_letter hd]
    split <;> rfl
  · have hletter : (civil (char 'T')).whole (d.text ++ ' ' :: t.text written) = none :=
      civil_unseparated hd (head_mark rfl _) rfl
    have hblank : blanks (' ' :: t.text written) = some ((), t.text written) := by
      rw [TimeOfDay.text]
      simp -implicitDefEqProofs only [List.append_assoc, List.cons_append]
      exact blanks_padded 2 t.hour _
    rw [hletter, hseparated hblank]
    split <;> rfl

/-- Date and time in the Internet layout are at the distance from universal time that follows them. -/
theorem read?_internet (hd : d.month < tenTo 2 ∧ d.day < tenTo 2)
    (hyear : 0 ≤ d.year ∧ d.year ≤ 9999) {zone : List Char} (h : Clocked t written zone) {o : Int}
    (hzone : offset zone = some (o, [])) :
    read? (String.ofList (d.text ++ 'T' :: (t.text written ++ zone))) =
      if d.isValid ∧ t.isValid then some (.ofDateTime d t o) else none := by
  have hinternet : internet.whole (d.text ++ 'T' :: (t.text written ++ zone)) =
      if d.isValid ∧ t.isValid then some (.ofDateTime d t o) else none := by
    apply whole_ite
    rw [internet_date hd hyear (head_mark rfl _), behindDate_time (by decide) h, bind_eq hzone, ite_and]
    rfl
  by_cases hvalid : d.isValid = true ∧ t.isValid = true
  · rw [read?, String.toList_ofList, hinternet, if_pos hvalid]
    rfl
  · -- the layouts without an offset ask for a date and a time of day as well
    have hletter : (civil (char 'T')).whole (d.text ++ 'T' :: (t.text written ++ zone)) = none := by
      have hboth : ¬ ((d.isValid && d.inRange) = true ∧ t.isValid = true) := by
        rw [Bool.and_eq_true]
        exact fun hboth => hvalid ⟨hboth.1.1, hboth.2⟩
      refine whole_eq_none fun x => ?_
      rw [civil_separated hd rfl h (char_eq 'T' _), if_neg hboth]
      exact nofun
    rw [read?, String.toList_ofList, hinternet, if_neg hvalid, hletter, civil_blanks_letter hd,
      startOfDay_mark hd rfl]
    rfl

/-- A date alone is the start of the day in universal time. -/
theorem read?_date (hd : d.month < tenTo 2 ∧ d.day < tenTo 2) :
    read? (String.ofList d.text) =
      if d.isValid && d.inRange then some (.ofDateTime d .midnight 0) else none := by
  have hend : ∀ c ∈ ([] : List Char).head?, c.isDigit = false := fun c hc => by cases hc
  have hinternet : internet.whole (d.text ++ []) = none := by
    refine whole_eq_none fun x => ?_
    by_cases hyear : 0 ≤ d.year ∧ d.year ≤ 9999
    · have hbehind : behindDate d [] = none := rfl
      rw [internet_date hd hyear hend, hbehind, ite_self]
      exact nofun
    · rw [internet_signed hyear]
      exact nofun
  have hletter : (civil (char 'T')).whole (d.text ++ []) = none := civil_unseparated hd hend rfl
  have hblanks : (civil blanks).whole (d.text ++ []) = none := civil_unseparated hd hend rfl
  have hday := bind_ite (f := fun d => (pure (.ofDateTime d .midnight 0) : Scan Instant))
    (date_text hd hend)
  rw [read?, String.toList_ofList, ← List.append_nil d.text, hinternet, hletter, hblanks]
  exact whole_ite hday

end

end Instant

end PagedListing.Time

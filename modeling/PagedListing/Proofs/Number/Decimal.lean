import Mathlib.Tactic.Lemma
import PagedListing.Number.Integer
import PagedListing.Text.Blank

/-!
# Decimal texts read back

A text denotes an integer when it is a numeral with or without a sign (`Denotes`), and the readers read
what a text denotes (`readInt?_eq_some_iff`, `readUInt32?_eq_some_iff`). So the decimal text of a machine
integer is read as that integer: `readUInt32?_toString` for page sizes and page numbers,
`readInt64?_int64Text` for cursors.
-/

namespace PagedListing.Number
open PagedListing.Text

/-- A digit stands for its distance from zero. -/
lemma digit?_of_isDigit {c : Char} (h : c.isDigit = true) :
    digit? c = some (c.toNat - '0'.toNat) :=
  if_pos h

/-- Digits denote what the core library reads in them. -/
lemma natOfDigits?_of_digits {cs : List Char} (seen : Nat) (h : ∀ c ∈ cs, c.isDigit = true) :
    natOfDigits? seen cs = some (Nat.ofDigitChars 10 cs seen) := by
  induction cs generalizing seen with
  | nil => rfl
  | cons c cs ih =>
    have hc := digit?_of_isDigit (h c List.mem_cons_self)
    have hcs := fun d hd => h d (List.mem_cons_of_mem c hd)
    rw [natOfDigits?, hc, Nat.ofDigitChars_cons]
    exact ih _ hcs

/-- The digits of a number are digits. -/
lemma isDigit_of_mem_toDigits {n : Nat} {c : Char} (h : c ∈ Nat.toDigits 10 n) :
    c.isDigit = true :=
  Nat.isDigit_of_mem_toDigits (by decide) (by decide) h

/-- A number is read from its digits. -/
lemma natOfDigits?_toDigits (n : Nat) : natOfDigits? 0 (Nat.toDigits 10 n) = some n := by
  rw [natOfDigits?_of_digits 0 fun c hc => isDigit_of_mem_toDigits hc, Nat.ofDigitChars_ten_toDigits]

/-! ## The integers that texts denote -/

/-- A text of digits, at least one. -/
structure Numeral (cs : List Char) : Prop where
  nonempty : cs ≠ []
  digits : ∀ c ∈ cs, c.isDigit = true

/-- The value of a text of digits. -/
def numeralValue (cs : List Char) : Nat :=
  Nat.ofDigitChars 10 cs 0

/-- A text denotes an integer: a numeral without a sign or behind one. -/
inductive Denotes : List Char → Int → Prop
  | plain {cs : List Char} (h : Numeral cs) : Denotes cs (numeralValue cs)
  | plus {cs : List Char} (h : Numeral cs) : Denotes ('+' :: cs) (numeralValue cs)
  | minus {cs : List Char} (h : Numeral cs) : Denotes ('-' :: cs) (-(numeralValue cs : Int))

/-- A numeral does not begin with anything but a digit. -/
lemma Numeral.head_ne {c d : Char} {cs : List Char} (h : Numeral (c :: cs))
    (hd : d.isDigit = false) : c ≠ d := by
  rintro rfl
  have hc := h.digits c List.mem_cons_self
  rw [hd] at hc
  cases hc

/-- A text denotes one integer at most. -/
theorem Denotes.unique {cs : List Char} {x y : Int} (hx : Denotes cs x) (hy : Denotes cs y) :
    x = y := by
  cases hx with
  | plain h =>
    cases hy with
    | plain => rfl
    | plus => exact absurd rfl (h.head_ne (by decide))
    | minus => exact absurd rfl (h.head_ne (by decide))
  | plus =>
    cases hy with
    | plain h => exact absurd rfl (h.head_ne (by decide))
    | plus => rfl
  | minus =>
    cases hy with
    | plain h => exact absurd rfl (h.head_ne (by decide))
    | minus => rfl

/-- The digits of a number are a numeral. -/
lemma numeral_toDigits (n : Nat) : Numeral (Nat.toDigits 10 n) :=
  ⟨Nat.toDigits_ne_nil, fun _ hc => isDigit_of_mem_toDigits hc⟩

/-- The numeral of a number has the number as its value. -/
lemma numeralValue_toDigits (n : Nat) : numeralValue (Nat.toDigits 10 n) = n :=
  Nat.ofDigitChars_ten_toDigits

/-- The digits of a number denote it. -/
lemma denotes_toDigits (n : Nat) : Denotes (Nat.toDigits 10 n) n := by
  have h := Denotes.plain (numeral_toDigits n)
  rwa [numeralValue_toDigits] at h

/-- Digits are read behind a number as they are evaluated behind it, and nothing but digits is read. -/
lemma natOfDigits?_eq_some_iff {cs : List Char} {seen n : Nat} :
    natOfDigits? seen cs = some n ↔
      (∀ c ∈ cs, c.isDigit = true) ∧ Nat.ofDigitChars 10 cs seen = n := by
  by_cases hdigits : ∀ c ∈ cs, c.isDigit = true
  · rw [natOfDigits?_of_digits seen hdigits, Option.some_inj, and_iff_right hdigits]
  · refine ⟨fun h => absurd ?_ hdigits, fun h => absurd h.1 hdigits⟩
    clear hdigits
    induction cs generalizing seen with
    | nil => exact List.forall_mem_nil _
    | cons c cs ih =>
      obtain ⟨d, hd, hrest⟩ := Option.bind_eq_some_iff.mp h
      exact List.forall_mem_cons.mpr ⟨(Option.ite_none_right_eq_some.mp hd).1, ih hrest⟩

/-- A natural number is read from the numerals of its value, and from nothing else. -/
lemma readNat?_eq_some_iff {cs : List Char} {n : Nat} :
    readNat? cs = some n ↔ Numeral cs ∧ numeralValue cs = n := by
  cases cs with
  | nil => exact ⟨nofun, fun h => absurd rfl h.1.nonempty⟩
  | cons c cs =>
    rw [readNat?, natOfDigits?_eq_some_iff]
    exact ⟨fun h => ⟨⟨List.cons_ne_nil _ _, h.1⟩, h.2⟩, fun h => ⟨h.1.digits, h.2⟩⟩

/-- As an integer, a natural number is read from the numerals of its value. -/
lemma readNat?_cast_iff {cs : List Char} {z : Int} :
    ((do return ((← readNat? cs) : Int)) : Option Int) = some z ↔
      Numeral cs ∧ (numeralValue cs : Int) = z := by
  refine Option.bind_eq_some_iff.trans ⟨?_, ?_⟩
  · rintro ⟨n, hn, ⟨⟩⟩
    obtain ⟨h, rfl⟩ := readNat?_eq_some_iff.mp hn
    exact ⟨h, rfl⟩
  · rintro ⟨h, rfl⟩
    exact ⟨_, readNat?_eq_some_iff.mpr ⟨h, rfl⟩, rfl⟩

/-- What is read is the integer that the text denotes. -/
lemma readInt?_eq_some_iff {cs : List Char} {z : Int} : readInt? cs = some z ↔ Denotes cs z := by
  unfold readInt?
  split
  · rw [Option.map_eq_some_iff]
    constructor
    · rintro ⟨m, hm, rfl⟩
      obtain ⟨h, rfl⟩ := readNat?_cast_iff.mp hm
      exact .minus h
    · intro h
      cases h with
      | plain h => exact absurd rfl (h.head_ne (by decide))
      | minus h => exact ⟨_, readNat?_cast_iff.mpr ⟨h, rfl⟩, rfl⟩
  · rw [Option.map_eq_some_iff]
    constructor
    · rintro ⟨m, hm, rfl⟩
      obtain ⟨h, rfl⟩ := readNat?_cast_iff.mp hm
      exact .plus h
    · intro h
      cases h with
      | plain h => exact absurd rfl (h.head_ne (by decide))
      | plus h => exact ⟨_, readNat?_cast_iff.mpr ⟨h, rfl⟩, rfl⟩
  · rename_i hminus hplus
    rw [Option.map_eq_some_iff]
    constructor
    · rintro ⟨m, hm, rfl⟩
      obtain ⟨h, rfl⟩ := readNat?_cast_iff.mp hm
      exact .plain h
    · intro h
      cases h with
      | plain h => exact ⟨_, readNat?_cast_iff.mpr ⟨h, rfl⟩, rfl⟩
      | plus => exact absurd rfl (hplus _)
      | minus => exact absurd rfl (hminus _)

/-- Below a limit a natural number is read from the numerals of its value. -/
lemma readNat?_below_iff {limit n : Nat} {cs : List Char} :
    ((readNat? cs).bind fun m => if m < limit then some m else none) = some n ↔
      Numeral cs ∧ numeralValue cs = n ∧ n < limit := by
  rw [Option.bind_eq_some_iff]
  constructor
  · rintro ⟨m, hm, h⟩
    obtain ⟨hlt, ⟨⟩⟩ := Option.ite_none_right_eq_some.mp h
    obtain ⟨hnumeral, hvalue⟩ := readNat?_eq_some_iff.mp hm
    exact ⟨hnumeral, hvalue, hlt⟩
  · rintro ⟨hnumeral, hvalue, hlt⟩
    exact ⟨n, readNat?_eq_some_iff.mpr ⟨hnumeral, hvalue⟩, if_pos hlt⟩

/-- What is read is the integer that the text denotes, if there is no minus sign and the integer lies
below the limit. -/
lemma readBelow?_eq_some_iff {limit n : Nat} {cs : List Char} :
    readBelow? limit cs = some n ↔ Denotes cs n ∧ cs.head? ≠ some '-' ∧ n < limit := by
  unfold readBelow?
  split
  · rename_i rest
    refine readNat?_below_iff.trans ⟨?_, ?_⟩
    · rintro ⟨hnumeral, rfl, hlt⟩
      exact ⟨.plus hnumeral, by simp, hlt⟩
    · rintro ⟨hdenotes, -, hlt⟩
      cases hdenotes with
      | plain h => exact absurd rfl (h.head_ne (by decide))
      | plus h => exact ⟨h, rfl, hlt⟩
  · rename_i hplus
    refine readNat?_below_iff.trans ⟨?_, ?_⟩
    · rintro ⟨hnumeral, rfl, hlt⟩
      refine ⟨.plain hnumeral, fun hminus => ?_, hlt⟩
      obtain ⟨rest, rfl⟩ := List.head?_eq_some_iff.mp hminus
      exact absurd rfl (hnumeral.head_ne (by decide))
    · rintro ⟨hdenotes, hminus, hlt⟩
      generalize hz : (n : Int) = z at hdenotes
      cases hdenotes with
      | plain h => exact ⟨h, by omega, hlt⟩
      | plus => exact absurd rfl (hplus _)
      | minus => exact absurd rfl hminus

/-- An unsigned number is read from what denotes it without a minus sign. -/
lemma readUInt32?_eq_some_iff {cs : List Char} {n : UInt32} :
    readUInt32? cs = some n ↔ Denotes cs n.toNat ∧ cs.head? ≠ some '-' := by
  have hlt : n.toNat < UInt32.size := n.toNat_lt
  rw [readUInt32?, Option.map_eq_some_iff]
  constructor
  · rintro ⟨m, hm, rfl⟩
    obtain ⟨hdenotes, hminus, hm⟩ := readBelow?_eq_some_iff.mp hm
    rw [UInt32.toNat_ofNat_of_lt' hm]
    exact ⟨hdenotes, hminus⟩
  · rintro ⟨hdenotes, hminus⟩
    exact ⟨n.toNat, readBelow?_eq_some_iff.mpr ⟨hdenotes, hminus, hlt⟩, UInt32.ofNat_toNat⟩

/-- A text that denotes a positive integer is read if the integer has 32 bits. -/
lemma readUInt32?_of_denotes {cs : List Char} {n : Nat} (h : Denotes cs n) (hpos : 0 < n) :
    readUInt32? cs = if n < UInt32.size then some (.ofNat n) else none := by
  split
  · rename_i hlt
    refine readUInt32?_eq_some_iff.mpr ⟨?_, fun hminus => ?_⟩
    · rwa [UInt32.toNat_ofNat_of_lt' hlt]
    · obtain ⟨rest, rfl⟩ := List.head?_eq_some_iff.mp hminus
      generalize hz : (n : Int) = z at h
      cases h with
      | plain h => exact absurd rfl (h.head_ne (by decide))
      | minus => omega
  · rename_i hge
    cases hread : readUInt32? cs with
    | none => rfl
    | some m =>
      have hsame : (m.toNat : Int) = n := (readUInt32?_eq_some_iff.mp hread).1.unique h
      have hm : m.toNat < UInt32.size := m.toNat_lt
      omega

/-! ## Decimal texts -/

/-- The decimal text of an unsigned integer of 32 bits is read as the integer. -/
theorem readUInt32?_toString (n : UInt32) : readUInt32? (toString n).toList = some n := by
  have htext : (toString n).toList = Nat.toDigits 10 n.toNat := Nat.toList_repr
  rw [htext]
  refine readUInt32?_eq_some_iff.mpr ⟨denotes_toDigits n.toNat, fun hminus => ?_⟩
  have hdigit := isDigit_of_mem_toDigits (List.mem_of_mem_head? hminus)
  cases hdigit

/-- A number of 64 bits is found again from its integer. -/
lemma int64?_toInt (n : Int64) : int64? n.toInt = some n := by
  have hbounds : Int64.minValue.toInt ≤ n.toInt ∧ n.toInt ≤ Int64.maxValue.toInt :=
    ⟨n.minValue_le_toInt, n.toInt_le⟩
  rw [int64?, if_pos hbounds, Int64.ofInt_toInt]

/-- A non-negative integer is written by its digits. -/
lemma toList_toString_ofNat (m : Nat) : (toString (Int.ofNat m)).toList = Nat.toDigits 10 m :=
  Nat.toList_repr

/-- A negative integer is written by a minus sign and the digits of its amount. -/
lemma toList_toString_negSucc (m : Nat) :
    (toString (Int.negSucc m)).toList = '-' :: Nat.toDigits 10 (m + 1) := by
  show ("-" ++ Nat.repr (m + 1)).toList = _
  rw [String.toList_append, Nat.toList_repr]
  rfl

/-- The decimal text of an integer denotes it. -/
lemma denotes_toString (n : Int) : Denotes (toString n).toList n := by
  cases n with
  | ofNat m =>
    rw [toList_toString_ofNat]
    exact denotes_toDigits m
  | negSucc m =>
    rw [toList_toString_negSucc]
    have h := Denotes.minus (numeral_toDigits (m + 1))
    rwa [numeralValue_toDigits] at h

/-- The decimal text of an integer of 64 bits is read as the integer. -/
theorem readInt64?_int64Text (n : Int64) : readInt64? (int64Text n).toList = some n := by
  rw [readInt64?, int64Text, readInt?_eq_some_iff.mpr (denotes_toString _), Option.bind_some,
    int64?_toInt]

/-! ## No blanks around -/

/-- Nothing is stripped from a text without blanks. -/
lemma stripBlanks_of_not_blank {cs : List Char} (h : ∀ c ∈ cs, isBlank c = false) :
    stripBlanks cs = cs := by
  have drop : ∀ {ds : List Char}, (∀ c ∈ ds, isBlank c = false) → dropBlanks ds = ds := by
    intro ds hds
    cases ds with
    | nil => rfl
    | cons d ds => exact dropBlanks_cons_of_not_blank (hds d List.mem_cons_self)
  have hreverse : ∀ c ∈ cs.reverse, isBlank c = false := fun c hc => h c (List.mem_reverse.mp hc)
  rw [stripBlanks, drop h, drop hreverse, List.reverse_reverse]

/-- Digits are not blank. -/
lemma isBlank_of_isDigit {c : Char} (h : c.isDigit = true) : isBlank c = false := by
  have hrange : 48 ≤ c.toNat ∧ c.toNat ≤ 57 := Char.isDigit_iff_toNat.mp h
  simp only [isBlank, Bool.or_eq_false_iff, Bool.and_eq_false_iff, decide_eq_false_iff_not,
    beq_eq_false_iff_ne]
  omega

/-- The text of a number consists of digits and minus signs. -/
lemma mem_int64Text_cases {n : Int64} {c : Char} (h : c ∈ (int64Text n).toList) :
    c = '-' ∨ c.isDigit = true := by
  rw [int64Text] at h
  cases hn : n.toInt with
  | ofNat m =>
    rw [hn, toList_toString_ofNat] at h
    exact .inr (isDigit_of_mem_toDigits h)
  | negSucc m =>
    rw [hn, toList_toString_negSucc] at h
    exact (List.mem_cons.mp h).imp id isDigit_of_mem_toDigits

/-- The text of a number has no blanks. -/
lemma isBlank_of_mem_int64Text {n : Int64} {c : Char} (h : c ∈ (int64Text n).toList) :
    isBlank c = false := by
  cases mem_int64Text_cases h with
  | inl e => subst e; decide
  | inr hdigit => exact isBlank_of_isDigit hdigit

/-- Trimming leaves the text of a signed number as it is. -/
lemma trim_int64Text (n : Int64) : trim (int64Text n) = int64Text n := by
  rw [trim, stripBlanks_of_not_blank fun c hc => isBlank_of_mem_int64Text hc, String.ofList_toList]

/-- Trimming leaves the text of a natural number as it is. -/
lemma trim_toString_nat (n : Nat) : trim (toString n) = toString n := by
  have hdigits : ∀ c ∈ (toString n).toList, isBlank c = false := by
    intro c hc
    have hmem : c ∈ Nat.toDigits 10 n := Nat.toList_repr (n := n) ▸ hc
    exact isBlank_of_isDigit (isDigit_of_mem_toDigits hmem)
  rw [trim, stripBlanks_of_not_blank hdigits, String.ofList_toList]

/-- Trimming leaves the text of an unsigned number as it is. -/
lemma trim_toString_uint32 (n : UInt32) : trim (toString n) = toString n :=
  trim_toString_nat n.toNat

end PagedListing.Number

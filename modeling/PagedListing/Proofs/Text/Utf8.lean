import Mathlib.Tactic.Lemma
import PagedListing.Text.Utf8

/-!
# Reading UTF-8 back

The bytes of characters are read as these characters (`utf8Decode_utf8Encode`). One character is
settled first (`readLeading_utf8EncodeChar`), by the number of its bytes: the bounds for the first
continuation byte hold because no character is written longer than needed and none is a surrogate.
Texts compare as their bytes do (`utf8Encode_lt`).
-/

namespace PagedListing.Text
open String (utf8EncodeChar)

/-- A number below 256 is the number of its byte. -/
lemma toNat_byte {n : Nat} (h : n < 256) : (UInt8.ofNat n).toNat = n := by
  rw [UInt8.toNat_ofNat', Nat.mod_eq_of_lt h]

/-- A continuation byte in its range adds six bits to the value. -/
lemma readContinuation_succ {count n : Nat} {low high : UInt8} (value : Nat) (rest : List UInt8)
    (hlow : low.toNat ≤ n % 0x40 + 0x80) (hhigh : n % 0x40 + 0x80 ≤ high.toNat) :
    readContinuation (count + 1) low high value (UInt8.ofNat (n % 0x40 + 0x80) :: rest) =
      readContinuation count 0x80 0xBF (value * 64 + n % 64) rest := by
  have hbyte : (UInt8.ofNat (n % 0x40 + 0x80)).toNat = n % 0x40 + 0x80 := toNat_byte (by omega)
  have hvalue : (n % 0x40 + 0x80) % 64 = n % 64 := by omega
  rw [readContinuation, if_pos, hbyte, hvalue]
  rw [UInt8.le_iff_toNat_le, UInt8.le_iff_toNat_le, hbyte]
  exact ⟨hlow, hhigh⟩

/-- The second and every later continuation byte is taken. -/
lemma readContinuation_next {count n : Nat} (value : Nat) (rest : List UInt8) :
    readContinuation (count + 1) 0x80 0xBF value (UInt8.ofNat (n % 0x40 + 0x80) :: rest) =
      readContinuation count 0x80 0xBF (value * 64 + n % 64) rest :=
  readContinuation_succ value rest (Nat.le_add_left _ _)
    (by show n % 0x40 + 0x80 ≤ 0xBF; omega)

/-- What a leading byte asks for, by its number. -/
lemma readLeading_ofNat {n : Nat} (h : n < 256) (rest : List UInt8) :
    readLeading (UInt8.ofNat n) rest =
      if n < 0x80 then (some n, rest)
      else if n < 0xC2 then (none, rest)
      else if n < 0xE0 then readContinuation 1 0x80 0xBF (n % 32) rest
      else if n = 0xE0 then readContinuation 2 0xA0 0xBF 0 rest
      else if n = 0xED then readContinuation 2 0x80 0x9F 13 rest
      else if n < 0xF0 then readContinuation 2 0x80 0xBF (n % 16) rest
      else if n = 0xF0 then readContinuation 3 0x90 0xBF 0 rest
      else if n < 0xF4 then readContinuation 3 0x80 0xBF (n % 8) rest
      else if n = 0xF4 then readContinuation 3 0x80 0x8F 4 rest
      else (none, rest) := by
  simp only [readLeading, UInt8.lt_iff_toNat_lt, ← UInt8.toNat_inj, toNat_byte h,
    UInt8.reduceToNat]

/-- Two bytes are read as the value that they were written for. -/
lemma readLeading_two {v : Nat} (hlow : 0x7F < v) (hhigh : v ≤ 0x7FF) (rest : List UInt8) :
    readLeading (UInt8.ofNat (v / 64 % 0x20 + 0xC0)) (UInt8.ofNat (v % 0x40 + 0x80) :: rest) =
      (some v, rest) := by
  have hvalue : (v / 64 % 0x20 + 0xC0) % 32 * 64 + v % 64 = v := by omega
  rw [readLeading_ofNat (by omega), if_neg (by omega), if_neg (by omega), if_pos (by omega),
    readContinuation_next, hvalue, readContinuation]

/-- A character of three bytes is read from them, unless it were a surrogate. -/
lemma readLeading_three {v : Nat} (hlow : 0x7FF < v) (hhigh : v ≤ 0xFFFF)
    (hscalar : v < 0xD800 ∨ 0xDFFF < v) (rest : List UInt8) :
    readLeading (UInt8.ofNat (v / 4096 % 0x10 + 0xE0))
      (UInt8.ofNat (v / 64 % 0x40 + 0x80) :: UInt8.ofNat (v % 0x40 + 0x80) :: rest) =
      (some v, rest) := by
  rw [readLeading_ofNat (by omega), if_neg (by omega), if_neg (by omega), if_neg (by omega)]
  -- the first leading byte wants a greater byte behind it, the one for surrogates a smaller one
  by_cases hfirst : v / 4096 % 0x10 + 0xE0 = 0xE0
  · have hvalue : (0 * 64 + v / 64 % 64) * 64 + v % 64 = v := by omega
    have hbound : (0xA0 : UInt8).toNat ≤ v / 64 % 0x40 + 0x80 := by
      show 0xA0 ≤ _
      omega
    rw [if_pos hfirst, readContinuation_succ _ _ hbound (by show _ ≤ 0xBF; omega),
      readContinuation_next, hvalue, readContinuation]
  rw [if_neg hfirst]
  by_cases hlast : v / 4096 % 0x10 + 0xE0 = 0xED
  · have hvalue : (13 * 64 + v / 64 % 64) * 64 + v % 64 = v := by omega
    have hbound : v / 64 % 0x40 + 0x80 ≤ (0x9F : UInt8).toNat := by
      show _ ≤ 0x9F
      omega
    rw [if_pos hlast, readContinuation_succ _ _ (by show 0x80 ≤ _; omega) hbound,
      readContinuation_next, hvalue, readContinuation]
  · have hvalue : ((v / 4096 % 0x10 + 0xE0) % 16 * 64 + v / 64 % 64) * 64 + v % 64 = v := by omega
    rw [if_neg hlast, if_pos (by omega), readContinuation_next, readContinuation_next, hvalue,
      readContinuation]

/-- Four bytes are read as the value that they were written for. -/
lemma readLeading_four {v : Nat} (hlow : 0xFFFF < v) (hhigh : v < 0x110000) (rest : List UInt8) :
    readLeading (UInt8.ofNat (v / 262144 % 0x08 + 0xF0))
      (UInt8.ofNat (v / 4096 % 0x40 + 0x80) :: UInt8.ofNat (v / 64 % 0x40 + 0x80) ::
        UInt8.ofNat (v % 0x40 + 0x80) :: rest) = (some v, rest) := by
  rw [readLeading_ofNat (by omega), if_neg (by omega), if_neg (by omega), if_neg (by omega),
    if_neg (by omega), if_neg (by omega), if_neg (by omega)]
  -- the first leading byte wants a greater byte behind it, the last one a smaller one
  by_cases hfirst : v / 262144 % 0x08 + 0xF0 = 0xF0
  · have hvalue : ((0 * 64 + v / 4096 % 64) * 64 + v / 64 % 64) * 64 + v % 64 = v := by omega
    have hbound : (0x90 : UInt8).toNat ≤ v / 4096 % 0x40 + 0x80 := by
      show 0x90 ≤ _
      omega
    rw [if_pos hfirst, readContinuation_succ _ _ hbound (by show _ ≤ 0xBF; omega),
      readContinuation_next, readContinuation_next, hvalue, readContinuation]
  rw [if_neg hfirst]
  by_cases hlast : v / 262144 % 0x08 + 0xF0 = 0xF4
  · have hvalue : ((4 * 64 + v / 4096 % 64) * 64 + v / 64 % 64) * 64 + v % 64 = v := by omega
    have hbound : v / 4096 % 0x40 + 0x80 ≤ (0x8F : UInt8).toNat := by
      show _ ≤ 0x8F
      omega
    rw [if_neg (by omega), if_pos hlast, readContinuation_succ _ _ (by show 0x80 ≤ _; omega) hbound,
      readContinuation_next, readContinuation_next, hvalue, readContinuation]
  · have hvalue : (((v / 262144 % 0x08 + 0xF0) % 8 * 64 + v / 4096 % 64) * 64 + v / 64 % 64) * 64 +
        v % 64 = v := by omega
    rw [if_pos (by omega), readContinuation_next, readContinuation_next, readContinuation_next,
      hvalue, readContinuation]

/-- The bytes of a character are a leading byte and what it asks for. -/
lemma readLeading_utf8EncodeChar (c : Char) :
    ∃ b tail, utf8EncodeChar c = b :: tail ∧
      ∀ rest, readLeading b (tail ++ rest) = (some c.toNat, rest) := by
  have hvalid : c.val.toNat < 0xD800 ∨ (0xDFFF < c.val.toNat ∧ c.val.toNat < 0x110000) := c.valid
  rw [utf8EncodeChar]
  split
  · refine ⟨_, _, rfl, fun rest => ?_⟩
    rw [readLeading_ofNat (by omega), if_pos (by omega)]
    rfl
  split
  · exact ⟨_, _, rfl, readLeading_two (by omega) (by omega)⟩
  split
  · exact ⟨_, _, rfl, readLeading_three (by omega) (by omega) (by omega)⟩
  · exact ⟨_, _, rfl, readLeading_four (by omega) (by omega)⟩

/-- The bytes of characters are read as these characters. -/
theorem utf8Decode_utf8Encode (cs : List Char) : utf8Decode (utf8Encode cs) = cs := by
  induction cs with
  | nil => rw [utf8Encode, List.flatMap_nil, utf8Decode]
  | cons c cs ih =>
    obtain ⟨b, tail, hchar, hread⟩ := readLeading_utf8EncodeChar c
    rw [utf8Encode, List.flatMap_cons, hchar, List.cons_append, utf8Decode, hread]
    show Char.ofNat c.toNat :: utf8Decode (utf8Encode cs) = c :: cs
    rw [ih, Char.ofNat_toNat]

/-- A byte of ASCII among the bytes of a character is that character. -/
lemma toNat_of_mem_utf8EncodeChar {c : Char} {b : UInt8} (h : b ∈ utf8EncodeChar c)
    (hascii : b.toNat < 0x80) : c.toNat = b.toNat := by
  -- every byte of a longer sequence has its upper bit set
  have hupper : ∀ n : Nat, b = UInt8.ofNat n → 0x80 ≤ n → n < 256 → False := by
    intro n e hlow hhigh
    rw [e, toNat_byte hhigh] at hascii
    omega
  rw [utf8EncodeChar] at h
  split at h
  · have e := List.mem_singleton.mp h
    rw [e, toNat_byte (by omega)]
    rfl
  split at h
  · simp only [List.mem_cons, List.not_mem_nil, or_false] at h
    rcases h with e | e
    · exact (hupper _ e (by omega) (by omega)).elim
    · exact (hupper _ e (by omega) (by omega)).elim
  split at h
  · simp only [List.mem_cons, List.not_mem_nil, or_false] at h
    rcases h with e | e | e
    · exact (hupper _ e (by omega) (by omega)).elim
    · exact (hupper _ e (by omega) (by omega)).elim
    · exact (hupper _ e (by omega) (by omega)).elim
  · simp only [List.mem_cons, List.not_mem_nil, or_false] at h
    rcases h with e | e | e | e
    · exact (hupper _ e (by omega) (by omega)).elim
    · exact (hupper _ e (by omega) (by omega)).elim
    · exact (hupper _ e (by omega) (by omega)).elim
    · exact (hupper _ e (by omega) (by omega)).elim

/-- A byte of ASCII in a text comes from its character. -/
lemma ofNat_mem_of_mem_utf8Encode {cs : List Char} {b : UInt8} (h : b ∈ utf8Encode cs)
    (hascii : b.toNat < 0x80) : Char.ofNat b.toNat ∈ cs := by
  obtain ⟨c, hmem, hb⟩ := List.mem_flatMap.mp h
  rw [← toNat_of_mem_utf8EncodeChar hb hascii, Char.ofNat_toNat]
  exact hmem

/-- A text of ASCII has one byte for each character. -/
lemma utf8Encode_of_ascii {cs : List Char} (h : ∀ c ∈ cs, c.toNat < 0x80) :
    utf8Encode cs = cs.map fun c => UInt8.ofNat c.toNat := by
  induction cs with
  | nil => rfl
  | cons c cs ih =>
    have hc : c.val.toNat ≤ 0x7F := Nat.le_of_lt_succ (h c List.mem_cons_self)
    rw [utf8Encode, List.flatMap_cons, utf8EncodeChar, if_pos hc, List.map_cons,
      ← ih fun d hd => h d (List.mem_cons_of_mem c hd)]
    rfl

/-- Letters and digits are characters of ASCII. -/
lemma toNat_lt_of_isAlphanum {c : Char} (h : c.isAlphanum = true) : c.toNat < 0x80 := by
  have h : ((decide (c.val ≥ 'A'.val ∧ c.val ≤ 'Z'.val) ||
      (decide (c.val ≥ 'a'.val) && decide (c.val ≤ 'z'.val))) ||
      (decide (c.val ≥ '0'.val) && decide (c.val ≤ '9'.val))) = true := h
  simp only [ge_iff_le, Bool.or_eq_true, Bool.and_eq_true, decide_eq_true_eq,
    UInt32.le_iff_toNat_le, Char.toNat_val, Char.reduceToNat] at h
  omega

/-- The bytes of a smaller character come before those of a greater one, whatever follows them. -/
lemma utf8EncodeChar_lt {c d : Char} (h : c < d) (bs bs' : List UInt8) :
    utf8EncodeChar c ++ bs < utf8EncodeChar d ++ bs' := by
  have hlt : c.val.toNat < d.val.toNat := UInt32.lt_iff_toNat_lt.mp h
  have hvalid : d.val.toNat < 0x110000 := by
    obtain h | h := d.valid
    · exact Nat.lt_trans h (by decide)
    · exact h.2
  unfold utf8EncodeChar
  generalize c.val.toNat = m at hlt
  generalize d.val.toNat = n at hlt hvalid
  generalize hrest : (bs < bs') = rest
  have hleading : m / 262144 % 8 = m / 262144 ∧ n / 262144 % 8 = n / 262144 := by omega
  -- of four bytes the first two tell the numbers apart, or they lie in one block of 4096
  have hblock : m / 262144 < n / 262144 ∨ m / 262144 = n / 262144 ∧
      (m / 4096 % 64 < n / 4096 % 64 ∨ m / 4096 = n / 4096) := by omega
  dsimp only
  repeat' split
  all_goals
    simp (disch := omega) only [List.cons_append, List.nil_append, List.cons_lt_cons_iff,
      UInt8.lt_iff_toNat_lt, ← UInt8.toNat_inj, toNat_byte, hrest]
    omega

/-- Characters are in the order of their bytes. -/
theorem utf8Encode_lt {cs ds : List Char} (h : cs < ds) : utf8Encode cs < utf8Encode ds := by
  induction ds generalizing cs with
  | nil => exact absurd h (List.not_lt_nil cs)
  | cons d ds ih =>
    rw [utf8Encode, utf8Encode, List.flatMap_cons]
    cases cs with
    | nil =>
      obtain ⟨b, tail, hchar, -⟩ := readLeading_utf8EncodeChar d
      rw [hchar]
      exact List.nil_lt_cons _ _
    | cons c cs =>
      rw [List.flatMap_cons]
      cases List.cons_lt_cons_iff.mp h with
      | inl hlt => exact utf8EncodeChar_lt hlt _ _
      | inr heq =>
        obtain ⟨rfl, hlt⟩ := heq
        exact List.append_left_lt (ih hlt)

end PagedListing.Text

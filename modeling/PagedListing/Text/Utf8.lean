/-!
# UTF-8

Characters as bytes, and back. Bytes that no character begins with, and sequences that break off,
are read as replacement characters: each longest run that could begin a character gives one.
-/

namespace PagedListing.Text

/-- The bytes of some characters. -/
def utf8Encode (cs : List Char) : List UInt8 :=
  cs.flatMap String.utf8EncodeChar

/-- What stands in the place of bytes that are no character. -/
def replacement : Char := '\uFFFD'

/-- Read `count` continuation bytes, the first within the given bounds, into a number. The rest
follows the last byte that was taken. -/
def readContinuation : Nat → UInt8 → UInt8 → Nat → List UInt8 → Option Nat × List UInt8
  | 0, _, _, value, bytes => (some value, bytes)
  | _ + 1, _, _, _, [] => (none, [])
  | count + 1, low, high, value, b :: rest =>
    if low ≤ b ∧ b ≤ high then
      readContinuation count 0x80 0xBF (value * 64 + b.toNat % 64) rest
    else (none, b :: rest)

/-- Reading continuation bytes leaves no more than there was. -/
theorem readContinuation_length (count : Nat) (low high : UInt8) (value : Nat)
    (bytes : List UInt8) :
    (readContinuation count low high value bytes).2.length ≤ bytes.length := by
  induction count generalizing low high value bytes with
  | zero => simp [readContinuation]
  | succ count ih =>
    cases bytes with
    | nil => simp [readContinuation]
    | cons b rest =>
      rw [readContinuation]
      split
      · exact Nat.le_succ_of_le (ih _ _ _ rest)
      · exact Nat.le_refl _

/-- The character that a leading byte begins, and the bytes after it. -/
def readLeading (b : UInt8) (rest : List UInt8) : Option Nat × List UInt8 :=
  if b < 0x80 then (some b.toNat, rest)
  else if b < 0xC2 then (none, rest)
  else if b < 0xE0 then readContinuation 1 0x80 0xBF (b.toNat % 32) rest
  else if b = 0xE0 then readContinuation 2 0xA0 0xBF 0 rest
  else if b = 0xED then readContinuation 2 0x80 0x9F 13 rest
  else if b < 0xF0 then readContinuation 2 0x80 0xBF (b.toNat % 16) rest
  else if b = 0xF0 then readContinuation 3 0x90 0xBF 0 rest
  else if b < 0xF4 then readContinuation 3 0x80 0xBF (b.toNat % 8) rest
  else if b = 0xF4 then readContinuation 3 0x80 0x8F 4 rest
  else (none, rest)

/-- Reading the character of a leading byte leaves no more than there was. -/
theorem readLeading_length (b : UInt8) (rest : List UInt8) :
    (readLeading b rest).2.length ≤ rest.length := by
  unfold readLeading
  repeat' split
  all_goals first
    | exact readContinuation_length _ _ _ _ _
    | exact Nat.le_refl _

/-- The characters of some bytes, with replacements. -/
def utf8Decode : List UInt8 → List Char
  | [] => []
  | b :: rest =>
    let step := readLeading b rest
    (step.1.elim replacement Char.ofNat) :: utf8Decode step.2
  termination_by bytes => bytes.length
  decreasing_by
    exact Nat.lt_succ_of_le (readLeading_length b rest)

end PagedListing.Text

import PagedListing.Number.Integer

/-!
# Punycode

A label beyond ASCII as a text of ASCII: first its ASCII characters, then, after a hyphen if there
are any, where the other characters go, in ascending order of code points. The places are written as
numbers of varying length whose digits have thresholds that adapt to the numbers before.
-/

namespace PagedListing.Web.Domain.Punycode

/-- The value of a digit, letters first. -/
def digitValue? (c : Char) : Option Nat :=
  if 'a' ≤ c ∧ c ≤ 'z' then some (c.toNat - 'a'.toNat)
  else if 'A' ≤ c ∧ c ≤ 'Z' then some (c.toNat - 'A'.toNat)
  else if '0' ≤ c ∧ c ≤ '9' then some (c.toNat - '0'.toNat + 26)
  else none

/-- The digit of a value. -/
def digitOf (n : Nat) : Char :=
  if n < 26 then Char.ofNat ('a'.toNat + n) else Char.ofNat ('0'.toNat + (n - 26))

/-- The threshold of the digit at a position. -/
def threshold (position bias : Nat) : Nat :=
  if position ≤ bias then 1 else min (position - bias) 26

/-- Scale a distance down to the bias, which is counted along. -/
def scaleDown (delta bias : Nat) : Nat × Nat :=
  if h : 455 < delta then scaleDown (delta / 35) (bias + 36) else (delta, bias)
  termination_by delta
  decreasing_by
    exact Nat.div_lt_self (by omega) (by omega)

/-- The bias after a distance, given how many characters have been placed. -/
def adapt (delta count : Nat) (isFirst : Bool) : Nat :=
  let delta := if isFirst then delta / 700 else delta / 2
  let (delta, bias) := scaleDown (delta + delta / count) 0
  bias + 36 * delta / (delta + 38)

/-- A number in digits of varying threshold. -/
def writeNumber (n position bias : Nat) : List Char :=
  let t := threshold position bias
  if h : n < t then [digitOf n]
  else digitOf (t + (n - t) % (36 - t)) ::
    writeNumber ((n - t) / (36 - t)) (position + 36) bias
  termination_by n
  decreasing_by
    have ht : 1 ≤ threshold position bias ∧ threshold position bias ≤ 26 := by
      unfold threshold
      split <;> omega
    have hlt : (n - threshold position bias) / (36 - threshold position bias) ≤
        n - threshold position bias := Nat.div_le_self _ _
    omega

/-- How far writing has come: the code point and place reached, the bias and the count of placed
characters, and what has been written, in reverse pieces. -/
structure Writer where
  delta : Nat
  bias : Nat
  placed : Nat
  isFirst : Bool
  pieces : List (List Char)

/-- Pass one character of the label while the characters `point` are placed. -/
def Writer.pass (point : Nat) (w : Writer) (n : Nat) : Writer :=
  if n < point then { w with delta := w.delta + 1 }
  else if n = point then
    { delta := 0
      bias := adapt w.delta (w.placed + 1) w.isFirst
      placed := w.placed + 1
      isFirst := false
      pieces := writeNumber w.delta 36 w.bias :: w.pieces }
  else w

/-- Place all characters of the label with the given code points, in ascending order. -/
def placeAll (label : List Nat) : List Nat → Nat → Writer → Writer
  | [], _, w => w
  | point :: points, next, w =>
    let w := { w with delta := w.delta + (point - next) * (w.placed + 1) }
    let w := label.foldl (Writer.pass point) w
    placeAll label points (point + 1) { w with delta := w.delta + 1 }

/-- The text of a label. -/
def encode (label : List Char) : List Char :=
  let basic := label.filter (·.toNat < 0x80)
  let points := ((label.map Char.toNat).filter (0x80 ≤ ·)).mergeSort.eraseDups
  let w := placeAll (label.map Char.toNat) points 0x80 ⟨0, 72, basic.length, true, []⟩
  (if basic.isEmpty then [] else basic ++ ['-']) ++ w.pieces.reverse.flatten

/-- How far reading has come: the label so far, the code point and the place reached, the bias, and
the number at hand with the weight and the position of its next digit. -/
structure Reading where
  label : List Nat
  point : Nat
  place : Nat
  bias : Nat
  isFirst : Bool
  number : Nat
  weight : Nat
  position : Nat

/-- The state after a whole number has been read: one more character is placed. -/
def Reading.place? (r : Reading) : Option Reading :=
  let count := r.label.length + 1
  let total := r.place + r.number
  let point := r.point + total / count
  let place := total % count
  if point < 0xD800 ∨ (0xE000 ≤ point ∧ point < 0x110000) then
    some
      { label := r.label.take place ++ point :: r.label.drop place
        point := point
        place := place + 1
        bias := adapt r.number count r.isFirst
        isFirst := false
        number := 0
        weight := 1
        position := 36 }
  else none

/-- Read the digits that are left. -/
def Reading.finish? (r : Reading) : List Char → Option (List Nat)
  | [] => if r.position = 36 then some r.label else none
  | c :: cs => do
    let digit ← digitValue? c
    let t := threshold r.position r.bias
    let r := { r with number := r.number + digit * r.weight }
    if digit < t then
      let r ← r.place?
      r.finish? cs
    else
      let r := { r with weight := r.weight * (36 - t), position := r.position + 36 }
      r.finish? cs

/-- The label of a text. -/
def decode? (text : List Char) : Option (List Char) :=
  let tail := text.reverse.takeWhile (· ≠ '-')
  let basic := (text.reverse.dropWhile (· ≠ '-')).drop 1
  let r : Reading := ⟨basic.reverse.map Char.toNat, 0x80, 0, 72, true, 0, 1, 36⟩
  (r.finish? tail.reverse).map fun label => label.map Char.ofNat

end PagedListing.Web.Domain.Punycode

import PagedListing.Number.Integer
import PagedListing.Number.Power
import PagedListing.Text.Pieces

/-!
# Internet addresses

Addresses of versions 4 and 6 in the place of a host name. A version 4 address has one to four
numbers, decimal, octal after a zero or hexadecimal after `0x`, of which the last fills the bytes
that are left. A version 6 address is written with its longest run of zero pieces, the first of the
longest, shortened to two colons.
-/

namespace PagedListing.Web

open PagedListing.Number (natOfDigits? twoTo)

/-- An address of version 4. -/
structure Ipv4 where
  value : UInt32
  deriving DecidableEq, Inhabited

/-- An address of version 6, by its eight pieces. -/
structure Ipv6 where
  pieces : List UInt16
  deriving DecidableEq, Inhabited

/-- The value of a digit in a base of up to sixteen. -/
def baseDigit? (base : Nat) (c : Char) : Option Nat :=
  let value :=
    if c.isDigit then c.toNat - '0'.toNat
    else if 'a' ≤ c ∧ c ≤ 'f' then c.toNat - 'a'.toNat + 10
    else if 'A' ≤ c ∧ c ≤ 'F' then c.toNat - 'A'.toNat + 10
    else base
  if value < base then some value else none

/-- The number that digits denote in a base. -/
def natInBase? (base : Nat) (cs : List Char) : Option Nat :=
  cs.foldlM (fun n c => (baseDigit? base c).map (n * base + ·)) 0

namespace Ipv4

/-- A number of an address. -/
def number? : List Char → Option Nat
  | [] => none
  | '0' :: 'x' :: cs => natInBase? 16 cs
  | '0' :: 'X' :: cs => natInBase? 16 cs
  | '0' :: c :: cs => natInBase? 8 (c :: cs)
  | cs => natInBase? 10 cs

/-- Whether a name has to be read as an address, because its last part is a number. -/
def isMeant (name : List Char) : Bool :=
  let isNumber (cs : List Char) : Bool :=
    (!cs.isEmpty && cs.all Char.isDigit) || (number? cs).isSome
  match (Text.pieces '.' name).reverse with
  | [] :: last :: _ => isNumber last
  | last :: _ => isNumber last
  | [] => false

/-- The parts of an address, without an empty part at the end. -/
def parts (name : List Char) : List (List Char) :=
  match (Text.pieces '.' name).reverse with
  | [] :: rest => rest.reverse
  | all => all.reverse

/-- The address that a name denotes. -/
def read? (name : List Char) : Option Ipv4 := do
  let numbers ← (parts name).mapM number?
  guard (numbers.length ≤ 4)
  match numbers.reverse with
  | [] => none
  | last :: bytes =>
    guard (last < twoTo (8 * (4 - bytes.length)) ∧ bytes.all (· < 256))
    let front := bytes.reverse.foldl (fun n b => n * 256 + b) 0
    return ⟨UInt32.ofNat (front * twoTo (8 * (4 - bytes.length)) + last)⟩

/-- The address as four decimal numbers. -/
def text (a : Ipv4) : List Char :=
  let n := a.value.toNat
  Text.joinWith ['.'] ([n / twoTo 24, n / twoTo 16 % 256, n / twoTo 8 % 256, n % 256].map (Nat.toDigits 10))

end Ipv4

namespace Ipv6

/-- The pieces read so far, and how many of them stand before the shortened run. -/
structure Pieces where
  list : List Nat
  before : Option Nat

/-- A decimal number below 256 without zeros in front. -/
def byte? (cs : List Char) : Option Nat :=
  match cs with
  | [] => none
  | '0' :: _ :: _ => none
  | cs => do
    let n ← natOfDigits? 0 cs
    if n < 256 then some n else none

/-- The two last pieces, written as an address of version 4. -/
def lastPieces? (cs : List Char) : Option (List Nat) :=
  match (Text.pieces '.' cs).mapM byte? with
  | some [a, b, c, d] => some [a * 256 + b, c * 256 + d]
  | _ => none

/-- Read the rest of an address after the pieces read so far, with as much fuel as characters. -/
def readPieces? : Nat → Pieces → List Char → Option Pieces
  | _, seen, [] => some seen
  | 0, _, _ => none
  | fuel + 1, seen, cs =>
    if 8 ≤ seen.list.length then none
    else match cs with
    | ':' :: rest =>
      if seen.before.isSome then none
      else readPieces? fuel ⟨seen.list ++ [0], some (seen.list.length + 1)⟩ rest
    | _ =>
      let digits := (cs.take 4).takeWhile fun c => (baseDigit? 16 c).isSome
      match natInBase? 16 digits, cs.drop digits.length with
      | some value, [] => some ⟨seen.list ++ [value], seen.before⟩
      | some value, ':' :: next :: rest =>
        if digits.isEmpty then none
        else readPieces? fuel ⟨seen.list ++ [value], seen.before⟩ (next :: rest)
      | some _, '.' :: _ =>
        if digits.isEmpty ∨ 6 < seen.list.length then none
        else (lastPieces? cs).map fun last => ⟨seen.list ++ last, seen.before⟩
      | _, _ => none

/-- The address that a text between brackets denotes. -/
def read? (cs : List Char) : Option Ipv6 := do
  let pieces ← match cs with
    | ':' :: ':' :: rest => readPieces? rest.length ⟨[0], some 1⟩ rest
    | ':' :: _ => none
    | _ => readPieces? cs.length ⟨[], none⟩ cs
  match pieces.before with
  | none => if pieces.list.length = 8 then some ⟨pieces.list.map UInt16.ofNat⟩ else none
  | some n =>
    let missing := List.replicate (8 - pieces.list.length) 0
    return ⟨(pieces.list.take n ++ missing ++ pieces.list.drop n).map UInt16.ofNat⟩

/-- The length of the run of zeros at the front. -/
def zeroRun (pieces : List UInt16) : Nat :=
  (pieces.takeWhile (· == 0)).length

/-- The first of the longest runs of zeros, by its place and its length. -/
def longestRun : List UInt16 → Nat × Nat
  | [] => (0, 0)
  | p :: ps =>
    let (place, length) := longestRun ps
    let here := zeroRun (p :: ps)
    if length ≤ here then (0, here) else (place + 1, length)

/-- Pieces in hexadecimal with colons between them. -/
def piecesText (pieces : List UInt16) : List Char :=
  Text.joinWith [':'] (pieces.map fun p => Nat.toDigits 16 p.toNat)

/-- The address in brackets. -/
def text (a : Ipv6) : List Char :=
  let (place, length) := longestRun a.pieces
  let body :=
    if length < 2 then piecesText a.pieces
    else piecesText (a.pieces.take place) ++ ':' :: ':' :: piecesText (a.pieces.drop (place + length))
  '[' :: body ++ [']']

end Ipv6

end PagedListing.Web

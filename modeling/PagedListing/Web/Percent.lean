import PagedListing.Text.Utf8

/-!
# Percent encoding

A byte is written as a percent sign and two hexadecimal digits. Reading takes every such triple as
its byte and all other bytes as they are.
-/

namespace PagedListing.Web

/-- A hexadecimal digit in upper case. -/
def hexUpper (n : Nat) : Char :=
  (Nat.digitChar n).toUpper

/-- A byte as a percent sign and two digits. -/
def percentEncode (b : UInt8) : List Char :=
  ['%', hexUpper (b.toNat / 16), hexUpper (b.toNat % 16)]

/-- The value of a byte that is a hexadecimal digit. -/
def hexValue? (b : UInt8) : Option Nat :=
  let n := b.toNat
  if 0x30 ≤ n ∧ n ≤ 0x39 then some (n - 0x30)
  else if 0x41 ≤ n ∧ n ≤ 0x46 then some (n - 0x41 + 10)
  else if 0x61 ≤ n ∧ n ≤ 0x66 then some (n - 0x61 + 10)
  else none

/-- The bytes with every written byte read. -/
def percentDecode : List UInt8 → List UInt8
  | [] => []
  | b :: high :: low :: rest =>
    if b = 0x25 then
      match hexValue? high, hexValue? low with
      | some h, some l => UInt8.ofNat (h * 16 + l) :: percentDecode rest
      | _, _ => b :: percentDecode (high :: low :: rest)
    else b :: percentDecode (high :: low :: rest)
  | b :: rest => b :: percentDecode rest

/-- Write the characters of a text of which some bytes have to be encoded. -/
def encodeWith (escaped : UInt8 → Bool) (cs : List Char) : List Char :=
  (Text.utf8Encode cs).flatMap fun b =>
    if escaped b then percentEncode b else [Char.ofNat b.toNat]

end PagedListing.Web

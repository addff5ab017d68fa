import PagedListing.Web.Percent

/-!
# Form encoding

Pairs of texts written as `name=value` with ampersands between them. A blank is written as a plus
sign; letters, digits and `*-._` stand for themselves; every other byte is percent-encoded. Reading
passes over empty pieces, and a piece without an equals sign is a name with an empty value.
-/

namespace PagedListing.Web.Form

open PagedListing.Text (utf8Encode utf8Decode)

/-- A byte that stands for itself. -/
def isPlain (b : UInt8) : Bool :=
  let n := b.toNat
  (0x30 ≤ n && n ≤ 0x39) || (0x41 ≤ n && n ≤ 0x5A) || (0x61 ≤ n && n ≤ 0x7A) ||
    n == 0x2A || n == 0x2D || n == 0x2E || n == 0x5F

/-- A byte as it is written. -/
def encodeByte (b : UInt8) : List Char :=
  if isPlain b then [Char.ofNat b.toNat]
  else if b = 0x20 then ['+']
  else percentEncode b

/-- A text as it is written. -/
def encode (s : String) : List Char :=
  (utf8Encode s.toList).flatMap encodeByte

/-- A pair as it is written. -/
def encodePair (pair : String × String) : List Char :=
  encode pair.1 ++ '=' :: encode pair.2

/-- Further pairs written after a query. -/
def appendPairs (query : List Char) (pairs : List (String × String)) : List Char :=
  pairs.foldl (fun q pair => (if q.isEmpty then [] else q ++ ['&']) ++ encodePair pair) query

/-- A plus sign stands for a blank. -/
def plusToBlank (b : UInt8) : UInt8 :=
  if b = 0x2B then 0x20 else b

/-- The text that written bytes denote. -/
def decode (bytes : List UInt8) : String :=
  String.ofList (utf8Decode (percentDecode (bytes.map plusToBlank)))

/-- The parts of a list before and after its first separator. -/
def cut (separator : UInt8) : List UInt8 → List UInt8 × List UInt8
  | [] => ([], [])
  | b :: rest =>
    if b = separator then ([], rest)
    else
      let (front, back) := cut separator rest
      (b :: front, back)

/-- The pieces of a list between separators. -/
def splitAt (separator : UInt8) : List UInt8 → List (List UInt8)
  | [] => [[]]
  | b :: rest =>
    if b = separator then [] :: splitAt separator rest
    else match splitAt separator rest with
      | [] => [[b]]
      | piece :: pieces => (b :: piece) :: pieces

/-- The pair that a piece denotes. -/
def decodePair (piece : List UInt8) : String × String :=
  let (name, value) := cut 0x3D piece
  (decode name, decode value)

/-- The pairs of a written query. -/
def read (query : String) : List (String × String) :=
  ((splitAt 0x26 (utf8Encode query.toList)).filter (!·.isEmpty)).map decodePair

end PagedListing.Web.Form

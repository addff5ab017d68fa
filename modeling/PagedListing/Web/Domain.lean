import PagedListing.Text.Composed
import PagedListing.Text.Pieces
import PagedListing.Web.Domain.Label
import PagedListing.Web.Domain.Mapping
import PagedListing.Web.Domain.Punycode

/-!
# Domain names

The ASCII form of a domain name: characters are mapped, the name is composed and cut into labels at
full stops, labels that are written in punycode are read, every label is checked, and labels beyond
ASCII are written in punycode. Hyphens may stand anywhere and labels may have any length.
-/

namespace PagedListing.Web.Domain

open PagedListing.Text (composedForm pieces joinWith)

/-- The ASCII characters that a domain name may not have. -/
def isForbidden (c : Char) : Bool :=
  c.toNat ≤ 0x20 || c.toNat == 0x7F || "%#/:<>?@[\\]^|".toList.contains c

/-- Whether all characters are of ASCII. -/
def isAscii (cs : List Char) : Bool :=
  cs.all (·.toNat < 0x80)

/-- The characters with each of them mapped, unless one is refused. -/
def mapChars? : List Char → Option (List Char)
  | [] => some []
  | c :: cs => do
    let rest ← mapChars? cs
    match fate c with
    | .keep => return c :: rest
    | .replace characters => return characters ++ rest
    | .drop => return rest
    | .refuse => none

/-- Whether mapping leaves a character as it is. -/
def isKept (c : Char) : Bool :=
  match fate c with
  | .keep => true
  | _ => false

/-- How labels in punycode begin. -/
def aceMark : List Char := "xn--".toList

/-- A label that is written in punycode, read: it needs characters beyond ASCII, all of them kept by
the mapping, in composed form. -/
def readAce? (text : List Char) : Option (List Char) := do
  guard (isAscii text ∧ text.length ≤ 2000)
  let label ← Punycode.decode? text
  guard (!isAscii label && label.all isKept && composedForm label = label)
  return label

/-- The label that a part of a mapped name denotes. -/
def readLabel? (part : List Char) : Option (List Char) :=
  if aceMark.isPrefixOf part then readAce? (part.drop aceMark.length) else some part

/-- Whether a label satisfies the rules that do not depend on the other labels. -/
def isLabel (label : List Char) : Bool :=
  !label.any isForbidden && !label.contains '.' && !startsWithMark label && joinersFit [] label

/-- A label in ASCII; one beyond ASCII may have a thousand characters at most. -/
def writeLabel? (label : List Char) : Option (List Char) :=
  if isAscii label then some label
  else if label.length ≤ 1000 then some (aceMark ++ Punycode.encode label)
  else none

/-- The ASCII form of a domain name. -/
def toAscii? (name : List Char) : Option (List Char) := do
  let mapped ← mapChars? name
  let labels ← (pieces '.' (composedForm mapped)).mapM readLabel?
  guard (labels.all isLabel)
  guard (!(labels.any hasRightToLeft) || labels.all keepsDirection)
  return joinWith ['.'] (← labels.mapM writeLabel?)

end PagedListing.Web.Domain

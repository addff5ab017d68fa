import PagedListing.Number.Power
import PagedListing.Yaml.Scalar

/-!
# Tokens of YAML

A text is a series of tokens: directives, marks of documents, the beginnings and ends of collections,
the signs in them, the names of anchors, tags and scalars. The beginning of a block collection has no
sign of its own in the text; it follows from the columns.
-/

namespace PagedListing.Yaml

/-- A token. -/
inductive Token where
  | version (major minor : Nat)
  | tagHandle (name stem : String)
  | documentStart
  | documentEnd
  | blockSequence
  | blockMapping
  | blockEnd
  | flowSequence
  | flowSequenceEnd
  | flowMapping
  | flowMappingEnd
  | entry
  | comma
  | key
  | value
  | anchor (name : String)
  | reference (name : String)
  | tag (handle suffix : String)
  | scalar (text : String) (style : ScalarStyle)
  deriving DecidableEq, Inhabited

namespace Token

/-! ## Anchors -/

/-- The name after the sign of an anchor or a reference. -/
def readName (p : Cursor) : Except String (String × Cursor) :=
  let (name, p) := p.skip.takeWhile isWordChar
  if !name.isEmpty && (p.endsWord || p.rest.head?.any ("?:,]\x7d%@\x60".toList.contains ·)) then
    .ok (String.ofList name, p)
  else .error "did not find expected alphabetic or numeric character"

/-! ## Tags -/

/-- Whether a character may stand in a tag; brackets and commas only between angle brackets. -/
def isTagChar (verbatim : Bool) (c : Char) : Bool :=
  isWordChar c || ";/?:@&=+$.!~*'()%".toList.contains c || (verbatim && ",[]".toList.contains c)

/-- How many bytes a character has whose first byte is given. -/
def leadWidth (byte : Nat) : Nat :=
  if byte < 0x80 then 1
  else if byte < 0xC0 then 0
  else if byte < 0xE0 then 2
  else if byte < 0xF0 then 3
  else if byte < 0xF8 then 4
  else 0

/-- The byte that is written at a position as a percent sign and two digits. -/
def escapedByte? (p : Cursor) : Option Nat :=
  match p.rest with
  | '%' :: a :: b :: _ => do return 16 * (← hexValue? a) + (← hexValue? b)
  | _ => none

/-- Further bytes of an escaped character, six bits each. -/
def escapedTail : Nat → Nat → Cursor → Except String (Nat × Cursor)
  | 0, n, p => .ok (n, p)
  | count + 1, n, p =>
    match escapedByte? p with
    | some byte =>
      if byte / 64 = 2 then escapedTail count (64 * n + byte % 64) (p.skipMany 3)
      else .error "found an incorrect trailing UTF-8 octet"
    | none => .error "did not find URI escaped octet"

/-- A character that is written as its escaped bytes. -/
def readEscaped (p : Cursor) : Except String (Char × Cursor) :=
  match escapedByte? p with
  | none => .error "did not find URI escaped octet"
  | some byte =>
    match leadWidth byte with
    | 0 => .error "found an incorrect leading UTF-8 octet"
    | width + 1 => do
      let lead := if width = 0 then byte else byte % Number.twoTo (6 - width)
      let (n, p) ← escapedTail width lead (p.skipMany 3)
      return (Char.ofNat n, p)

/-- The characters of a tag and the position after them. -/
def readTagText (verbatim : Bool) : Nat → List Char → Cursor → Except String (List Char × Cursor)
  | 0, text, p => .ok (text, p)
  | fuel + 1, text, p =>
    if p.at? '%' then do
      let (c, p) ← readEscaped p
      readTagText verbatim fuel (text ++ [c]) p
    else if p.rest.head?.any (isTagChar verbatim) then
      readTagText verbatim fuel (text ++ p.rest.take 1) p.skip
    else .ok (text, p)

/-- The characters of a tag or of the stem of a handle, of which there has to be one. -/
def readTagPart (verbatim : Bool) (p : Cursor) : Except String (List Char × Cursor) := do
  let (text, p) ← readTagText verbatim p.rest.length [] p
  if text.isEmpty then throw "did not find expected tag URI"
  return (text, p)

/-- A handle: an exclamation mark, or a word between two of them. A directive may not name a word
without the second one. -/
def readHandle (inDirective : Bool) (p : Cursor) : Except String (List Char × Cursor) :=
  if !p.at? '!' then .error "did not find expected '!'"
  else
    let (name, p) := p.skip.takeWhile isWordChar
    if p.at? '!' then .ok ('!' :: name ++ ['!'], p.skip)
    else if inDirective && !name.isEmpty then .error "did not find expected '!'"
    else .ok ('!' :: name, p)

/-- A tag as its handle and what follows. A verbatim tag and a single mark have no handle. -/
def readTag (inFlow : Bool) (p : Cursor) : Except String (Token × Cursor) := do
  let (handle, suffix, p) ← parts
  if !p.endsWord && !(inFlow && p.at? ',') then throw "did not find expected whitespace or line break"
  return (.tag (String.ofList handle) (String.ofList suffix), p)
where
  parts : Except String (List Char × List Char × Cursor) := do
    if p.at? '<' 1 then
      let (suffix, p) ← readTagPart true (p.skipMany 2)
      if !p.at? '>' then throw "did not find the expected '>'"
      return ([], suffix, p.skip)
    else
      let (handle, p) ← readHandle false p
      if 1 < handle.length && handle.getLast? = some '!' then
        let (suffix, p) ← readTagPart false p
        return (handle, suffix, p)
      else
        let (suffix, p) ← readTagText false p.rest.length (handle.drop 1) p
        return if suffix.isEmpty then ([], ['!'], p) else (['!'], suffix, p)

/-! ## Directives -/

/-- A number of at most nine digits in the version of a directive. -/
def readVersionNumber (p : Cursor) : Except String (Nat × Cursor) :=
  let (digits, p) := p.takeWhile Char.isDigit
  if digits.isEmpty then .error "did not find expected version number"
  else if 9 < digits.length then .error "found extremely long version number"
  else .ok (digits.foldl (fun n c => 10 * n + (c.toNat - '0'.toNat)) 0, p)

/-- What follows the name of a directive. -/
def readDirectiveValue (name : List Char) (p : Cursor) : Except String (Token × Cursor) := do
  let p := (p.takeWhile isGap).2
  if name = "YAML".toList then
    let (major, p) ← readVersionNumber p
    if !p.at? '.' then throw "did not find expected digit or '.' character"
    let (minor, p) ← readVersionNumber p.skip
    return (.version major minor, p)
  else if name = "TAG".toList then
    let (handle, p) ← readHandle true p
    if !p.atGap then throw "did not find expected whitespace"
    let (stem, p) ← readTagPart true (p.takeWhile isGap).2
    if !p.endsWord then throw "did not find expected whitespace or line break"
    return (.tagHandle (String.ofList handle) (String.ofList stem), p)
  else throw "found unknown directive name"

/-- A directive, which takes the rest of its line. -/
def readDirective (p : Cursor) : Except String (Token × Cursor) := do
  let (name, p) := p.skip.takeWhile isWordChar
  if name.isEmpty then throw "could not find expected directive name"
  if !p.endsWord then throw "found unexpected non-alphabetical character"
  let (token, p) ← readDirectiveValue name p
  let p := p.skipComment
  if !p.isEnd && !p.atBreak then throw "did not find expected comment or line break"
  return (token, p.skipBreak)

end Token

end PagedListing.Yaml

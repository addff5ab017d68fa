/-!
# Positions in a YAML text

The rest of a text with its line, its column and how many characters lie before it. A line ends at a
line feed, a carriage return or both, and at the separators of Unicode.
-/

namespace PagedListing.Yaml

/-- A position in a text. -/
structure Cursor where
  rest : List Char
  line : Nat := 0
  column : Nat := 0
  index : Nat := 0

/-- Whether a character ends a line. -/
def isBreak (c : Char) : Bool :=
  c = '\n' || c = '\r' || c = '\u0085' || c = '\u2028' || c = '\u2029'

/-- Whether a character is a blank or a tab. -/
def isGap (c : Char) : Bool :=
  c = ' ' || c = '\t'

/-- Whether a character may stand in the name of an anchor or a handle. -/
def isWordChar (c : Char) : Bool :=
  c.isAlphanum || c = '_' || c = '-'

namespace Cursor

/-- The character at a distance. -/
def peek? (p : Cursor) (distance : Nat := 0) : Option Char :=
  p.rest[distance]?

/-- Whether a given character stands at a distance. -/
def at? (p : Cursor) (c : Char) (distance : Nat := 0) : Bool :=
  p.rest[distance]? == some c

/-- Whether the text ends here. -/
def isEnd (p : Cursor) : Bool :=
  p.rest.isEmpty

/-- Whether a line ends here. -/
def atBreak (p : Cursor) : Bool :=
  p.rest.head?.any isBreak

/-- Whether a blank or a tab stands here. -/
def atGap (p : Cursor) : Bool :=
  p.rest.head?.any isGap

/-- Whether a word ends at a distance: a gap, the end of a line or of the text. -/
def endsWord (p : Cursor) (distance : Nat := 0) : Bool :=
  match p.rest[distance]? with
  | none => true
  | some c => isGap c || isBreak c

/-- The position after the next character of the line. -/
def skip (p : Cursor) : Cursor :=
  ⟨p.rest.drop 1, p.line, p.column + 1, p.index + 1⟩

/-- The position after some characters of the line. -/
def skipMany (p : Cursor) (count : Nat) : Cursor :=
  ⟨p.rest.drop count, p.line, p.column + count, p.index + count⟩

/-- The end of a line as it is kept in a text, and the position after it. -/
def takeBreak (p : Cursor) : List Char × Cursor :=
  match p.rest with
  | '\r' :: '\n' :: rest => (['\n'], ⟨rest, p.line + 1, 0, p.index + 2⟩)
  | c :: rest =>
    let kept := if c = '\u2028' ∨ c = '\u2029' then [c] else ['\n']
    (kept, ⟨rest, p.line + 1, 0, p.index + 1⟩)
  | [] => ([], p)

/-- The position after the end of the line. -/
def skipBreak (p : Cursor) : Cursor :=
  p.takeBreak.2

/-- The characters while they have a property, and the position after them. -/
def takeWhile (p : Cursor) (keep : Char → Bool) : List Char × Cursor :=
  let taken := p.rest.takeWhile keep
  (taken, p.skipMany taken.length)

/-- The position after gaps and a comment. -/
def skipComment (p : Cursor) : Cursor :=
  let p := (p.takeWhile isGap).2
  if p.at? '#' then (p.takeWhile (!isBreak ·)).2 else p

/-- Whether the marker of a document stands at the start of the line. -/
def atMarker (p : Cursor) (c : Char) : Bool :=
  p.column == 0 && [c, c, c].isPrefixOf p.rest && p.endsWord 3

/-- Whether a marker that begins or ends a document stands at the start of the line. -/
def atDocumentMarker (p : Cursor) : Bool :=
  p.atMarker '-' || p.atMarker '.'

end Cursor

end PagedListing.Yaml

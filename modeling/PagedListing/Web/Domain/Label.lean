import PagedListing.Web.Domain.Classes

/-!
# Rules for labels

What a label of a domain name has to satisfy beside the choice of its characters: it does not begin
with a combining mark, the joiners stand only where they join, and in a domain with characters
written from the right every label keeps to one direction.
-/

namespace PagedListing.Web.Domain

/-- The joiner that keeps characters apart. -/
def nonJoiner : Char := '\u200C'

/-- The joiner that ties characters together. -/
def joiner : Char := '\u200D'

/-- The first joining class that is not passed over. -/
def firstJoining (cs : List Char) : Joining :=
  match cs.dropWhile (joining · = .transparent) with
  | [] => .none
  | c :: _ => joining c

/-- Whether the last character before is a virama; the characters before are in reverse. -/
def followsVirama : List Char → Bool
  | [] => false
  | c :: _ => isVirama c

/-- Whether letters that would join stand on both sides; those before are in reverse. -/
def standsBetween (before rest : List Char) : Bool :=
  (firstJoining before = .left || firstJoining before = .dual) &&
    (firstJoining rest = .right || firstJoining rest = .dual)

/-- Whether every joiner stands after a virama, or, to keep apart, between letters that would join.
The characters before are in reverse. -/
def joinersFit : List Char → List Char → Bool
  | _, [] => true
  | before, c :: rest =>
    let fits :=
      if c = nonJoiner then followsVirama before || standsBetween before rest
      else if c = joiner then followsVirama before
      else true
    fits && joinersFit (c :: before) rest

/-- Whether a label has a character that makes a domain one with two directions. -/
def hasRightToLeft (label : List Char) : Bool :=
  label.any fun c => 0x80 ≤ c.toNat &&
    (bidi c = .rightToLeft || bidi c = .arabicLetter || bidi c = .arabicNumber)

/-- The class of the last character that has a width of its own. -/
def lastSpacing (classes : List Bidi) : Option Bidi :=
  (classes.reverse.dropWhile (· = .nonspacing)).head?

/-- The classes that may stand in a label of either direction. -/
def isWeak (b : Bidi) : Bool :=
  b = .europeanNumber || b = .europeanSeparator || b = .commonSeparator ||
    b = .europeanTerminator || b = .neutral || b = .boundaryNeutral || b = .nonspacing

/-- Whether a label keeps to the direction of its first character. -/
def keepsDirection (label : List Char) : Bool :=
  let classes := label.map bidi
  match classes with
  | [] => true
  | .leftToRight :: _ =>
    classes.all (fun b => b = .leftToRight || isWeak b) &&
      (lastSpacing classes = some .leftToRight || lastSpacing classes = some .europeanNumber)
  | first :: _ =>
    (first = .rightToLeft || first = .arabicLetter) &&
      classes.all (fun b =>
        b = .rightToLeft || b = .arabicLetter || b = .arabicNumber || isWeak b) &&
      (lastSpacing classes = some .rightToLeft || lastSpacing classes = some .arabicLetter ||
        lastSpacing classes = some .europeanNumber || lastSpacing classes = some .arabicNumber) &&
      !(classes.contains .europeanNumber && classes.contains .arabicNumber)

/-- Whether a label begins with a combining mark. -/
def startsWithMark : List Char → Bool
  | [] => false
  | c :: _ => 0x80 ≤ c.toNat && isMark c

end PagedListing.Web.Domain

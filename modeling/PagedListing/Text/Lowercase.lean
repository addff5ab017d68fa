import PagedListing.Text.LetterCase
import PagedListing.Text.Pieces

/-!
# Lower case

The lower-case form of a text by the full mapping of Unicode. Two characters are special: the
dotted capital I becomes two characters, and the capital sigma becomes a final sigma at the end of a
word, that is after a cased character and not before one, characters without bearing on case passed
over.
-/

namespace PagedListing.Text

/-- Whether the first character that bears on case is cased. -/
def startsCased (cs : List Char) : Bool :=
  match cs.dropWhile isCaseIgnorable with
  | [] => false
  | c :: _ => isCased c

/-- The lower-case form of the rest of a text, given the characters before it in reverse. -/
def lowerFrom : List Char → List Char → List Char
  | _, [] => []
  | before, c :: rest =>
    let here :=
      if c = 'Σ' then
        if startsCased before && !startsCased rest then ['ς'] else ['σ']
      else if c = 'İ' then ['i', '\u0307']
      else [lowerChar c]
    here ++ lowerFrom (c :: before) rest

/-- The lower-case form of a text. -/
def lowercase (s : String) : String :=
  String.ofList (lowerFrom [] s.toList)

/-- The first text stands in the second when the case of letters is set aside. -/
def containsIgnoringCase (text needle : String) : Bool :=
  contains (lowercase text) (lowercase needle)

end PagedListing.Text

/-!
# Patterns

Patterns of the `LIKE` operator: a percent sign stands for any characters, an underscore for one, and
a backslash takes the next character for itself.
-/

namespace PagedListing.Sql.Like

/-- A part of a pattern. -/
inductive Part where
  | any
  | one
  | literal (c : Char)
  deriving DecidableEq, Inhabited

/-- A character with a backslash in front if it would not stand for itself. -/
def escapeChar (c : Char) : List Char :=
  if c = '\\' ∨ c = '%' ∨ c = '_' then ['\\', c] else [c]

/-- The characters of a text as they stand for themselves in a pattern. -/
def escape (cs : List Char) : List Char :=
  cs.flatMap escapeChar

/-- The pattern of the texts in which a text stands. -/
def containing (needle : String) : String :=
  String.ofList ('%' :: escape needle.toList ++ ['%'])

/-- The parts of a pattern. -/
def parts : List Char → List Part
  | [] => []
  | '\\' :: c :: cs => .literal c :: parts cs
  | '%' :: cs => .any :: parts cs
  | '_' :: cs => .one :: parts cs
  | c :: cs => .literal c :: parts cs

/-- Whether some end of a list has a property. -/
def someSuffix (p : List Char → Bool) : List Char → Bool
  | [] => p []
  | c :: cs => p (c :: cs) || someSuffix p cs

/-- Whether characters match the parts of a pattern. -/
def matchParts : List Part → List Char → Bool
  | [], cs => cs.isEmpty
  | .any :: ps, cs => someSuffix (matchParts ps) cs
  | .one :: _, [] => false
  | .one :: ps, _ :: cs => matchParts ps cs
  | .literal _ :: _, [] => false
  | .literal d :: ps, c :: cs => c = d && matchParts ps cs

/-- Whether a text matches a pattern; the case of ASCII letters may be set aside. -/
def isMatch (pattern text : String) (ignoreCase : Bool) : Bool :=
  let fold (c : Char) : Char := if ignoreCase then c.toLower else c
  matchParts (parts (pattern.toList.map fold)) (text.toList.map fold)

end PagedListing.Sql.Like

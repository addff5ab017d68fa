/-!
# Blanks

The characters with the Unicode property `White_Space`, and trimming by them. Trimming works on
lists of characters; `Text.trim` is the same on strings.
-/

namespace PagedListing.Text

/-- A character is blank when it has the Unicode property `White_Space`. -/
def isBlank (c : Char) : Bool :=
  let n := c.toNat
  (0x09 ≤ n && n ≤ 0x0D) || n == 0x20 || n == 0x85 || n == 0xA0 || n == 0x1680 ||
    (0x2000 ≤ n && n ≤ 0x200A) || n == 0x2028 || n == 0x2029 || n == 0x202F || n == 0x205F ||
    n == 0x3000

/-- The characters without leading blanks. -/
def dropBlanks (cs : List Char) : List Char :=
  cs.dropWhile isBlank

/-- The characters without leading and trailing blanks. -/
def stripBlanks (cs : List Char) : List Char :=
  (dropBlanks (dropBlanks cs).reverse).reverse

/-- The text without leading and trailing blanks. -/
def trim (s : String) : String :=
  String.ofList (stripBlanks s.toList)

/-- Nothing blank is left at the front. -/
theorem dropBlanks_cons_of_not_blank {c : Char} {cs : List Char} (h : isBlank c = false) :
    dropBlanks (c :: cs) = c :: cs := by
  simp [dropBlanks, h]

end PagedListing.Text

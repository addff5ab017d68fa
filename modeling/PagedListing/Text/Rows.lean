import PagedListing.Text.LetterCase

/-!
# Tables in text

Tables of numbers, written in a text: the rows are separated by commas, the hexadecimal numbers of a
row by blanks. A line break counts as a blank.
-/

namespace PagedListing.Text

/-- What has been read of a table: the rows and the numbers of the current row, both in reverse, and
the number at hand. -/
structure TableState where
  rows : List (List Nat)
  row : List Nat
  number : Option Nat

namespace TableState

/-- The state with the number at hand put into its row. -/
def endNumber (s : TableState) : TableState :=
  match s.number with
  | some n => ⟨s.rows, n :: s.row, none⟩
  | none => s

/-- The state with the current row put among the rows. -/
def endRow (s : TableState) : TableState :=
  let s := s.endNumber
  ⟨s.row.reverse :: s.rows, [], none⟩

/-- The state after one more character. -/
def step (s : TableState) (c : Char) : TableState :=
  if c = ',' then s.endRow
  else if c = ' ' ∨ c = '\n' then s.endNumber
  else
    let value := if c.isDigit then c.toNat - '0'.toNat else c.toNat - 'a'.toNat + 10
    ⟨s.rows, s.row, some (16 * s.number.getD 0 + value)⟩

end TableState

/-- The rows of a table. -/
def numberRows (table : String) : List (List Nat) :=
  (table.foldl TableState.step ⟨[], [], none⟩).endRow.rows.reverse

/-- The ranges of a table whose rows hold the first and the last number of a range, or one number. -/
def ranges (table : String) : List (Nat × Nat) :=
  (numberRows table).filterMap fun
    | [only] => some (only, only)
    | [first, last] => some (first, last)
    | _ => none

end PagedListing.Text

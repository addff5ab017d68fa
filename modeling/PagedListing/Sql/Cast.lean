import PagedListing.Sql.Cast.Interval
import PagedListing.Sql.ColumnType

/-!
# Casts

The cell of a column type that a text denotes. In a text for bytes a backslash and an `x` stand before
two hexadecimal digits, and every other character is one byte of ASCII. The items of a list stand
between brackets and commas; an item may be in quotes, and the word for a missing one stands without.
-/

namespace PagedListing.Sql.Cast

/-- A boolean: a word in any case or its first letter, or a digit. -/
def boolean? (s : String) : Option Bool :=
  let lower := String.ofList (s.toList.map Char.toLower)
  if ["true", "t", "1", "yes", "y"].contains lower then some true
  else if ["false", "f", "0", "no", "n"].contains lower then some false
  else none

/-- Bytes. -/
def bytes? : List Char → Option (List UInt8)
  | [] => some []
  | '\\' :: 'x' :: a :: b :: cs => do
    let byte := 16 * (← digitOf? 16 a) + (← digitOf? 16 b)
    return UInt8.ofNat byte :: (← bytes? cs)
  | c :: cs => do
    if c = '\\' ∨ 0x7F < c.toNat then none
    else return UInt8.ofNat c.toNat :: (← bytes? cs)

/-- The items of a list after its opening bracket: the depth of open brackets, the open quote and the
item read so far, from its end. White space alone may follow the closing bracket. -/
def listItems (depth : Nat) (quote : Option Char) (seen : List Char) :
    List Char → Option (List (List Char))
  | [] => none
  | c :: cs =>
    match quote with
    | some q => listItems depth (if c = q then none else some q) (c :: seen) cs
    | none =>
      if c = '\'' ∨ c = '"' then listItems depth (some c) (c :: seen) cs
      else if c = '[' then listItems (depth + 1) none (c :: seen) cs
      else if c = ',' ∧ depth = 0 then
        (listItems 0 none [] cs).map ((strip seen.reverse) :: ·)
      else if c = ']' then
        match depth with
        | 0 => if cs.all isSpace then some [strip seen.reverse] else none
        | depth + 1 => listItems depth none (c :: seen) cs
      else listItems depth none (c :: seen) cs

/-- The items of a list in a text. -/
def list? (cs : List Char) : Option (List (List Char)) :=
  match cs.dropWhile isSpace with
  | '[' :: cs => do
    let items ← listItems 0 none [] cs
    return if items = [[]] then [] else items
  | _ => none

/-- An item without the quotes around it. -/
def unquoted : List Char → List Char
  | c :: cs =>
    if (c = '\'' ∨ c = '"') ∧ cs.getLast? = some c then cs.dropLast else c :: cs
  | [] => []

/-- The cell of a type that a text denotes. -/
def cell? : ColumnType → List Char → Option Cell
  | .boolean, cs => (boolean? (String.ofList cs)).map .boolean
  | .integer kind, cs => (integer? kind cs).map (.integer kind)
  | .float kind, cs => (float? kind cs).map (.float kind)
  | .text, cs => some (.text (String.ofList cs))
  | .blob, cs => (bytes? cs).map .blob
  | .timestamp unit, cs => (timestamp? unit cs).map (.timestamp unit)
  | .date, cs => (date? cs).map .date
  | .time, cs => (time? cs).map .time
  | .interval, cs => interval? cs
  | .list item, cs => do
    let items ← list? cs
    return .list (← items.mapM fun s =>
      if s.map Char.toUpper = "NULL".toList then some .null else cell? item (unquoted s))

end PagedListing.Sql.Cast

namespace PagedListing.Sql

/-- The cell of a column type that a text denotes, if it can be cast. -/
def Cell.ofText? (type : ColumnType) (s : String) : Option Cell :=
  Cast.cell? type s.toList

end PagedListing.Sql

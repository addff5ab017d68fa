import PagedListing.Json.Printer
import PagedListing.Number.Decimal
import PagedListing.Schema
import PagedListing.Text.Blank
import PagedListing.Time.Layout
import PagedListing.Time.Text

/-!
# Operands

A filter compares a field with operands of the field's type. Integers compare exactly with integers
and as doubles with other numbers, texts by code points, false before true, and timestamps as
instants. A value of another kind does not compare.
-/

namespace PagedListing

open PagedListing.Number (Double readInt64? readDouble? int64Text)
open PagedListing.Time (Instant)

/-- A typed value that a field is compared with. -/
inductive Operand where
  | integer (n : Int64)
  | float (x : Double)
  | text (s : String)
  | boolean (b : Bool)
  | timestamp (t : Instant)
  deriving DecidableEq, Inhabited

namespace Operand

/-- The type of an operand. -/
def type : Operand → FieldType
  | integer _ => .integer
  | float _ => .float
  | text _ => .text
  | boolean _ => .boolean
  | timestamp _ => .timestamp

/-- A boolean word, in any case. -/
def readBool? (s : String) : Option Bool :=
  let word := String.ofList (s.toList.map Char.toLower)
  if word = "true" ∨ word = "1" then some true
  else if word = "false" ∨ word = "0" then some false
  else none

/-- The operand of a type that a text denotes; blanks around it count for texts only. -/
def read? (type : FieldType) (raw : String) : Option Operand :=
  match type with
  | .integer => (readInt64? (Text.trim raw).toList).map integer
  | .float => (readDouble? (Text.trim raw).toList).map float
  | .text => some (text raw)
  | .boolean => (readBool? (Text.trim raw)).map boolean
  | .timestamp => (Instant.read? (Text.trim raw)).map timestamp

/-- The operand for a field that a text denotes. -/
def read (field : String) (type : FieldType) (raw : String) : Except Error Operand :=
  match read? type raw with
  | some v => .ok v
  | none => .error (.invalidValue field raw type.name)

/-- How a record value compares with an operand, if it does. -/
def compare? (value : Json) : Operand → Option Ordering
  | integer expected =>
    match value.asInt64? with
    | some actual => some (compare actual.toInt expected.toInt)
    | none => value.asDouble?.bind (·.compare? (.ofInt expected.toInt))
  | float expected => value.asDouble?.bind (·.compare? expected)
  | text expected => value.asString?.map (compare · expected)
  | boolean expected => value.asBool?.map (compare · expected)
  | timestamp expected => (value.asString?.bind Instant.read?).map (compare · expected)

/-- The text of an operand. -/
def literal : Operand → String
  | integer n => int64Text n
  | float x => x.text
  | text s => s
  | boolean b => if b then "true" else "false"
  | timestamp t => t.text

/-- The JSON form of an operand. -/
def toJson : Operand → Json
  | integer n => .int n.toInt
  | float x => .float x
  | text s => .str s
  | boolean b => .bool b
  | timestamp t => .str t.zuluText

end Operand

end PagedListing

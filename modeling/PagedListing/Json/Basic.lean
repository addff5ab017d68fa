import PagedListing.Number.Binary
import PagedListing.Number.Integer

/-!
# JSON values

Numbers are integers or doubles, as they are written; an object is a list of members, of which the
last one with a name counts.
-/

namespace PagedListing

open PagedListing.Number (Double int64?)

/-- A JSON value. -/
inductive Json where
  | null
  | bool (b : Bool)
  | int (n : Int)
  | float (x : Double)
  | str (s : String)
  | arr (items : List Json)
  | obj (members : List (String × Json))
  deriving Inhabited

/-- The members of an object. -/
abbrev Members := List (String × Json)

namespace Json

/-- Whether the value is null. -/
def isNull : Json → Bool
  | null => true
  | _ => false

/-- The value as an integer of 64 bits; a number written with a point is none. -/
def asInt64? : Json → Option Int64
  | int n => int64? n
  | _ => none

/-- The value as a double. -/
def asDouble? : Json → Option Double
  | int n => some (.ofInt n)
  | float x => some x
  | _ => none

/-- The value as a text. -/
def asString? : Json → Option String
  | str s => some s
  | _ => none

/-- The value as a boolean. -/
def asBool? : Json → Option Bool
  | bool b => some b
  | _ => none

/-- The members of an object; any other value has none. -/
def members : Json → Members
  | obj ms => ms
  | _ => []

end Json

namespace Members

/-- The value of the last member with a name, null if there is none. -/
def value (ms : Members) (name : String) : Json :=
  match ms.reverse.find? (·.1 = name) with
  | some (_, v) => v
  | none => .null

end Members

end PagedListing

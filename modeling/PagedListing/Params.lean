import PagedListing.Error
import PagedListing.Json.Basic
import PagedListing.Number.Shortest
import PagedListing.OrderedMap
import PagedListing.Web.Form

/-!
# Request parameters

The parameters of a request are texts under distinct names, in the order of their first appearance.
They are read from a query string or given as texts and numbers.
-/

namespace PagedListing

open PagedListing.Number (Double int64Text)

/-- A parameter value as a caller gives it. -/
inductive ParamValue where
  | text (s : String)
  | integer (n : Int64)
  | float (x : Double)
  deriving DecidableEq, Inhabited

namespace ParamValue

/-- The value as it would stand in a query string. -/
def literal : ParamValue → String
  | text s => s
  | integer n => int64Text n
  | float x => x.text

/-- The JSON form of a value. -/
def toJson : ParamValue → Json
  | text s => .str s
  | integer n => .int n.toInt
  | float x => .float x

/-- The value that a JSON text or number denotes; an integer beyond 64 bits is a float. -/
def ofJson (v : Json) : Except Error ParamValue :=
  match v with
  | .str s => .ok (text s)
  | v =>
    match v.asInt64?, v.asDouble? with
    | some n, _ => .ok (integer n)
    | none, some x => .ok (float x)
    | none, none => .error (.json "data did not match any variant of untagged enum ParamValue")

end ParamValue

/-- The parameters of a request. -/
abbrev Params := OrderedMap String

namespace Params

/-- The parameter that holds the page number. -/
def page : String := "page"

/-- The parameter that holds the page size. -/
def take : String := "take"

/-- The parameters with the literal of a value set under a name. -/
def put (params : Params) (name : String) (value : ParamValue) : Params :=
  params.insert name value.literal

/-- The parameters of given values. -/
def ofValues (values : List (String × ParamValue)) : Params :=
  values.foldl (fun params entry => params.put entry.1 entry.2) .empty

/-- The parameters of a query string, with or without its question mark. -/
def ofQueryString (query : String) : Params :=
  let pairs := match query.toList with
    | '?' :: rest => Web.Form.read (String.ofList rest)
    | _ => Web.Form.read query
  OrderedMap.ofList pairs

end Params

end PagedListing

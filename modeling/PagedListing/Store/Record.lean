import PagedListing.Json.Basic
import PagedListing.Store.Basic

/-!
# Records

What stores hold: a number by which a cursor walks, and a form in JSON, which may fail to be written.
-/

namespace PagedListing

/-- A record: its number, and its JSON form, unless writing it fails. -/
structure Record where
  id : Int64
  form : Except String Json

namespace Record

/-- The record of a JSON form. -/
def ofJson (id : Int64) (form : Json) : Record := ⟨id, .ok form⟩

/-- The JSON form of a record, null where there is none. -/
def toJson (r : Record) : Json :=
  match r.form with
  | .ok v => v
  | .error _ => .null

end Record

end PagedListing

import PagedListing.Json.Basic
import PagedListing.Paging.Link
import PagedListing.Query.Compose
import PagedListing.Store.Basic

/-!
# Pages

A request with a page number is answered by that page and the number of matching records. Any other
request is answered by the first records behind its cursor and a link to the next ones; where no
record is left there is no link. The configuration, the request and the overrides are checked before
the store is asked.
-/

namespace PagedListing

/-- An answer to a request for records `ρ`. -/
inductive Page (ρ : Type) where
  /-- The records of a counted page, and the number of all that match. -/
  | offset (records : List ρ) (total : Nat)
  /-- The next records of a walk, the number of the last one, how many records they are, and the link
  that leads on. -/
  | cursor (records : List ρ) (after : Option Int64) (count : Nat) (next : Option String)
  deriving DecidableEq, Inhabited

namespace Page

variable {ρ : Type}

/-- The records of a page. -/
def records : Page ρ → List ρ
  | offset records _ => records
  | cursor records _ _ _ => records

/-- The link that leads on from a page. -/
def next? : Page ρ → Option String
  | offset _ _ => none
  | cursor _ _ _ next => next

/-- The JSON form of a page, given that of a record. -/
def toJson (recordJson : ρ → Json) : Page ρ → Json
  | offset records total =>
    .obj [("data", .arr (records.map recordJson)), ("total", .int total)]
  | cursor records after count next =>
    .obj
      [("data", .arr (records.map recordJson)),
       ("cursor", .obj [("after", (after.map fun n => Json.int n.toInt).getD .null)]),
       ("count", .int count),
       ("next", (next.map Json.str).getD .null)]

end Page

section

variable {σ ρ : Type} [Store σ ρ]

/-- The counted page that a query asks for. -/
def offsetPage (query : PageQuery) : Answer σ (Page ρ) := do
  let (records, total) ← Store.findAndCount query.findOptions
  return .offset records total

/-- The next records of the walk that a query asks for. -/
def cursorPage (config : Config) (path : String) (params : Params) (query : PageQuery) :
    Answer σ (Page ρ) := do
  let records ← Store.find (σ := σ) { query.findOptions with skip := none }
  match records.getLast? with
  | none => return .cursor [] none 0 none
  | some last =>
    let lastId := Store.id σ last
    let next ← Answer.lift (nextLink config path (echo params query) (cursorKey config query) lastId)
    return .cursor records (some lastId) records.length (some next)

/-- The query that a request and the overrides make together, all of them checked. -/
def checkedQuery (schema : Schema) (config : Config) (params : Params) (overrides : Overrides) :
    Except Error PageQuery := do
  config.validate
  let query ← compose params schema config
  overrides.check schema
  return query.override overrides

/-- The page that a request asks for, under overrides. -/
def paginate (config : Config) (path : String) (overrides : Overrides) (params : Params) :
    Answer σ (Page ρ) := fun store =>
  match checkedQuery (Store.schema store) config params overrides with
  | .error e => (.error e, store)
  | .ok query =>
    match query.page with
    | some _ => offsetPage query store
    | none => cursorPage config path params query store

end

end PagedListing

import PagedListing.Number.Integer
import PagedListing.Paging.Echo

/-!
# Links to the next page

A link leads to the listing on the origin of the configuration, with the echoed parameters and then
the cursor in its query. The cursor keeps to the records behind the last one, in the direction of the
field that the configuration names.
-/

namespace PagedListing

/-- The cursor that leads on from a page of a query. -/
def cursorKey (config : Config) (query : PageQuery) : String :=
  if query.order.get? config.cursorOrderField = some .ascending then cursorAfter else cursorBefore

/-- The address of a listing, before any parameter. -/
def listingAddress (config : Config) (path : String) : String :=
  config.origin ++ "/" ++ String.ofList (path.toList.dropWhile (· = '/'))

/-- The link that repeats some parameters and leads on from a record. -/
def nextLink (config : Config) (path : String) (echoed : List (String × String)) (cursor : String)
    (lastId : Int64) : Except Error String :=
  match Web.Url.read (listingAddress config path) with
  | .error problem => .error (.url problem)
  | .ok url => .ok (url.appendPairs (echoed ++ [(cursor, Number.int64Text lastId)])).text

/-- The parameters of the request that a link makes. -/
def paramsOfLink (link : String) : Params :=
  Params.ofQueryString (Web.Url.queryOf link)

end PagedListing

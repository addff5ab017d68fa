import PagedListing.Query.Basic

/-!
# Echoed parameters

The parameters of a request that a link to the next page repeats: all but the cursors, the page
number and empty values. The page size is added if the request left it to the default.
-/

namespace PagedListing

/-- The parameter by which a cursor walks an ascending listing. -/
def cursorAfter : String := "where__id__more_than"

/-- The parameter by which a cursor walks a descending listing. -/
def cursorBefore : String := "where__id__less_than"

/-- Whether a parameter is a cursor. -/
def isCursor (name : String) : Bool :=
  name = cursorAfter || name = cursorBefore

/-- Whether a parameter is repeated. -/
def isEchoed (param : String × String) : Bool :=
  param.2 ≠ "" && !isCursor param.1 && param.1 ≠ Params.page

/-- Whether a request names a page size. -/
def namesTake (params : Params) : Bool :=
  (params.get? Params.take).any (· ≠ "")

/-- The parameters that a link repeats for a request and its query. -/
def echo (params : Params) (query : PageQuery) : List (String × String) :=
  params.entries.filter isEchoed ++
    (if namesTake params then [] else [(Params.take, toString query.take)])

end PagedListing

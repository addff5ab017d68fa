import PagedListing.Config
import PagedListing.Direction
import PagedListing.Filter.Directive
import PagedListing.Params
import PagedListing.Schema

/-!
# Queries

A query is what a request asks for: filters, an ordering, a page size and, if pages are counted, the
number of the page. A server may put its own filters, ordering and page size over those of the
request. A store executes find options.
-/

namespace PagedListing

/-- What a store executes: filters, an ordering, a limit and an offset. -/
structure FindOptions where
  filters : FilterSet := .empty
  order : OrderSpec := .empty
  take : Option UInt32 := none
  skip : Option UInt64 := none
  deriving DecidableEq, Inhabited

/-- A query for a page of a listing. -/
structure PageQuery where
  /-- The number of the page from one on; without it a cursor walks the listing. -/
  page : Option UInt32
  take : UInt32
  /-- The number of records to pass over, if pages are counted. -/
  skip : Option UInt64
  filters : FilterSet
  order : OrderSpec
  deriving DecidableEq, Inhabited

/-- What a server puts over a request. -/
structure Overrides where
  filters : FilterSet := .empty
  order : Option OrderSpec := none
  take : Option UInt32 := none
  deriving DecidableEq, Inhabited

/-- The number of records on the pages before a page; there are none before the first. -/
def skipBefore (page take : UInt32) : UInt64 :=
  take.toUInt64 * (if page = 0 then 0 else page - 1).toUInt64

namespace PageQuery

/-- The find options of a query. -/
def findOptions (q : PageQuery) : FindOptions :=
  ⟨q.filters, q.order, some q.take, q.skip⟩

/-- The query under overrides: a predicate replaces that on its field, an ordering and a page size
replace those of the request, and for a new page size the records to pass over are counted anew. -/
def override (q : PageQuery) (o : Overrides) : PageQuery :=
  { q with
    filters := q.filters.insertAll o.filters
    order := o.order.getD q.order
    take := o.take.getD q.take
    skip := match o.take with
      | some take => q.page.map (skipBefore · take)
      | none => q.skip }

end PageQuery

/-- The fields that filters and an ordering name, filters first. -/
def namedFields (filters : FilterSet) (order : OrderSpec) : List String :=
  filters.names ++ order.names

/-- Overrides may name declared fields only. -/
def Overrides.check (o : Overrides) (schema : Schema) : Except Error Unit :=
  schema.checkFields (namedFields o.filters (o.order.getD .empty))

end PagedListing

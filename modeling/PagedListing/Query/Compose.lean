import PagedListing.Query.Basic

/-!
# Composing queries

A query is composed from the parameters of a request in their order: the first parameter that is a
bad directive fails. Of the filters on one field the last one counts. Then the page size and the page
number are read; the page size is bounded by the configuration.
-/

namespace PagedListing

open PagedListing.Number (readUInt32?)

/-- The filters and the ordering composed so far. -/
structure Draft where
  filters : FilterSet
  order : OrderSpec
  deriving DecidableEq, Inhabited

namespace Draft

/-- The draft before any parameter. -/
def empty : Draft := ⟨.empty, .empty⟩

/-- The draft after one more parameter. -/
def add (schema : Schema) (draft : Draft) (param : String × String) : Except Error Draft := do
  match ← Directive.ofKey param.1 with
  | none => return draft
  | some directive =>
    let type ← schema.fieldType directive.field
    match directive with
    | .filter field operator =>
      let operator := operator.getD (.compare .equal)
      let predicate ← operator.build field type param.2
      return { draft with filters := draft.filters.insert field predicate }
    | .order field =>
      let direction ← Direction.read field param.2
      return { draft with order := draft.order.insert field direction }

end Draft

/-- The page size that a request asks for, bounded, or the default. -/
def readTake (params : Params) (config : Config) : Except Error UInt32 :=
  match params.get? Params.take with
  | none => .ok config.defaultTake
  | some raw =>
    match readUInt32? (Text.trim raw).toList with
    | none =>
      .error (.invalidParameter Params.take ("'" ++ raw ++ "' is not a positive integer"))
    | some take =>
      if take = 0 then .error (.invalidParameter Params.take "must be greater than 0")
      else match config.maxTake with
        | some bound => .ok (if bound < take then bound else take)
        | none => .ok take

/-- The page number that a request asks for; no number, an empty one and zero ask for none. -/
def readPage (params : Params) : Except Error (Option UInt32) :=
  match params.get? Params.page with
  | none => .ok none
  | some raw =>
    let word := Text.trim raw
    if word = "" then .ok none
    else match readUInt32? word.toList with
      | none =>
        .error (.invalidParameter Params.page ("'" ++ word ++ "' is not a non-negative integer"))
      | some page => .ok (if page = 0 then none else some page)

/-- The query that the parameters of a request ask for. -/
def compose (params : Params) (schema : Schema) (config : Config) : Except Error PageQuery := do
  let draft ← params.entries.foldlM (Draft.add schema) .empty
  let take ← readTake params config
  let page ← readPage params
  return { page, take
           skip := page.map (skipBefore · take)
           filters := draft.filters
           order := draft.order }

end PagedListing

import PagedListing.Paging.Page

/-!
# Walks

A walk answers a request and then the request of each link that leads on, under the same overrides,
until a page has no link.
-/

namespace PagedListing

variable {σ ρ : Type} [Store σ ρ]

/-- The first pages of a walk, at most as many as given. -/
def walk (config : Config) (path : String) (overrides : Overrides) :
    Nat → Params → Answer σ (List (Page ρ))
  | 0, _ => return []
  | n + 1, params => do
    let page ← paginate config path overrides params
    match page.next? with
    | none => return [page]
    | some link => return page :: (← walk config path overrides n (paramsOfLink link))

end PagedListing

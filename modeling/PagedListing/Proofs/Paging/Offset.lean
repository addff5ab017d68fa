import Mathlib.Data.List.Basic
import PagedListing.Proofs.Config
import PagedListing.Proofs.Paging.Page
import PagedListing.Proofs.Query.Compose

/-!
# Counted pages

The counted pages of a request are the consecutive parts of one listing, all of the page size but the
last one (`MemoryStore.paginate_pages`): put together they are the listing (`flatMap_pagePart`), and
the number of records before a page is computed without overflow (`skipBefore_toNat`).
-/

namespace PagedListing

/-- A word that is not zero is at least one. -/
lemma one_le_of_ne_zero {n : UInt32} (h : n ≠ 0) : 1 ≤ n :=
  UInt32.le_iff_toNat_le.mpr (UInt32.lt_iff_toNat_lt.mp (UInt32.pos_iff_ne_zero.mpr h))

/-- The number of records before a page fits into 64 bits. -/
theorem skipBefore_toNat (page take : UInt32) :
    (skipBefore page take).toNat = take.toNat * (page.toNat - 1) := by
  have htake := take.toNat_lt_size
  have hpage := page.toNat_lt_size
  have hbefore : (if page = 0 then 0 else page - 1).toNat = page.toNat - 1 := by
    split
    · rename_i hzero
      rw [hzero]
      rfl
    · rename_i hpos
      exact UInt32.toNat_sub_of_le page 1 (one_le_of_ne_zero hpos)
  have hle : take.toNat * (page.toNat - 1) ≤ (UInt32.size - 1) * (UInt32.size - 1) :=
    Nat.mul_le_mul (by omega) (by omega)
  have hlt : take.toNat * (page.toNat - 1) < UInt64.size :=
    Nat.lt_of_le_of_lt hle (by decide)
  rw [skipBefore, UInt64.toNat_mul, UInt32.toNat_toUInt64, UInt32.toNat_toUInt64, hbefore]
  exact Nat.mod_eq_of_lt hlt

/-- The window of a query for a page is that page of a list. -/
lemma window_counted {α : Type} {query : PageQuery} {page : UInt32} (list : List α)
    (hskip : query.skip = some (skipBefore page query.take)) (hpos : page ≠ 0) :
    window query.findOptions list = pagePart list query.take.toNat page.toNat := by
  have hpos : 0 < page.toNat := by
    rw [Nat.pos_iff_ne_zero]
    exact fun e => hpos (UInt32.toNat_inj.mp e)
  rw [pagePart_eq_take_drop list _ hpos, ← skipBefore_toNat]
  simp only [window, PageQuery.findOptions, hskip, Option.getD_some]

namespace MemoryStore

variable {config : Config} {path : String} {overrides : Overrides} {params : Params}

/-- The parameters that ask for a page. -/
def withPage (params : Params) (page : UInt32) : Params :=
  params.insert Params.page (toString page)

/-- The records that a request for a page is answered with. -/
def shown (config : Config) (path : String) (overrides : Overrides) (params : Params)
    (store : MemoryStore) (page : UInt32) : List Record :=
  match (paginate config path overrides (withPage params page) store).1 with
  | .ok answer => answer.records
  | .error _ => []

/-- A request is answered on every page by that part of its listing. -/
lemma paginate_withPage {store : MemoryStore} {query : PageQuery} {page : UInt32}
    (hforms : ∀ r ∈ store.records, r.HasForm)
    (hquery : checkedQuery store.schema config params overrides = .ok query)
    (habsent : params.get? Params.page = none) (hpos : page ≠ 0) :
    paginate config path overrides (withPage params page) store =
      (.ok (.offset (pagePart (store.listing query) query.take.toNat page.toNat)
        (store.listing query).length), store.counted) := by
  obtain ⟨hconfig, hcheck, composed, hcompose, rfl⟩ := checkedQuery_eq_ok_iff.mp hquery
  have hquery : checkedQuery store.schema config (withPage params page) overrides =
      .ok ((composed.override overrides).atPage page) :=
    checkedQuery_eq_ok_iff.mpr ⟨hconfig, hcheck, _, compose_insert_page hcompose habsent hpos,
      (composed.override_atPage page overrides).symm⟩
  rw [paginate_counted hforms hquery rfl, window_counted _ rfl hpos]
  rfl

/-- The counted pages of a request partition its listing: every page tells the length of the listing
and shows its part of it, computed without overflow; put together the pages are the listing, and
those behind its end are empty. -/
theorem paginate_pages (path : String) {store : MemoryStore} {query : PageQuery}
    {found : List Record} (hforms : ∀ r ∈ store.records, r.HasForm)
    (hquery : checkedQuery store.schema config params overrides = .ok query)
    (habsent : params.get? Params.page = none)
    (hfind : (Store.find { filters := query.filters, order := query.order } store).1 = .ok found) :
    (∀ page : UInt32, page ≠ 0 →
      (paginate config path overrides (withPage params page) store).1 =
        .ok (.offset
          (found.extract ((page.toNat - 1) * query.take.toNat)
            (min (page.toNat * query.take.toNat) found.length))
          found.length) ∧
      (skipBefore page query.take).toNat = query.take.toNat * (page.toNat - 1)) ∧
    (∀ pages < UInt32.size,
      (List.range pages).flatMap (fun i =>
        shown config path overrides params store (.ofNat (i + 1))) =
          found.take (pages * query.take.toNat) ∧
      (found.length ≤ pages * query.take.toNat →
        (List.range pages).flatMap (fun i =>
          shown config path overrides params store (.ofNat (i + 1))) = found)) ∧
    (∀ page : UInt32, page ≠ 0 → found.length ≤ (page.toNat - 1) * query.take.toNat →
      (paginate config path overrides (withPage params page) store).1 =
        .ok (.offset [] found.length)) := by
  have hfound : store.listing query = found := by
    rw [find_eq hforms] at hfind
    cases hfind
    rfl
  have hpage : ∀ page : UInt32, page ≠ 0 →
      (paginate config path overrides (withPage params page) store).1 =
        .ok (.offset (pagePart found query.take.toNat page.toNat) found.length) := by
    intro page hpos
    rw [paginate_withPage hforms hquery habsent hpos, hfound]
  have hconcat : ∀ pages < UInt32.size, (List.range pages).flatMap (fun i =>
      shown config path overrides params store (.ofNat (i + 1))) =
        found.take (pages * query.take.toNat) := by
    intro pages hpages
    rw [← flatMap_pagePart]
    refine List.flatMap_congr fun i hi => ?_
    -- the numbers of the pages stay below the bound, so that none is taken for zero
    have hlt : i + 1 < UInt32.size := by
      have hi := List.mem_range.mp hi
      omega
    have hnat : (UInt32.ofNat (i + 1)).toNat = i + 1 := UInt32.toNat_ofNat_of_lt' hlt
    have hpos : UInt32.ofNat (i + 1) ≠ 0 := by
      intro e
      rw [e] at hnat
      cases hnat
    rw [shown, hpage _ hpos, hnat]
    rfl
  refine ⟨?_, ?_, ?_⟩
  · intro page hpos
    exact ⟨hpage page hpos, skipBefore_toNat _ _⟩
  · intro pages hpages
    refine ⟨hconcat pages hpages, fun hall => ?_⟩
    rw [hconcat pages hpages, List.take_of_length_le hall]
  · intro page hpos hend
    rw [hpage page hpos, pagePart_of_length_le hend]

/-- A note with a number. -/
def note (id : Int64) : Record :=
  .ofJson id (.obj [("id", .int id.toInt)])

/-- A store of three notes. -/
def notes : MemoryStore :=
  ⟨⟨"note", [⟨"id", .integer⟩]⟩, [note 1, note 2, note 3], 0⟩

/-- The second page of three notes, two on a page, shows the third one. -/
theorem paginate_pages_notes :
    (paginate {} "notes" {} (withPage (.ofList [("take", "2")]) 2) notes).1 =
      .ok (.offset [note 3] 3) := by
  have hforms : ∀ r ∈ notes.records, r.HasForm := by
    simp [notes, note, Record.HasForm, Record.ofJson]
  have hquery : checkedQuery notes.schema {} (.ofList [("take", "2")]) {} =
      .ok ⟨none, 2, none, .empty, .empty⟩ :=
    checkedQuery_eq_ok_iff.mpr ⟨Config.validate_default, rfl, _, rfl, rfl⟩
  have hsorted : [note 1, note 2, note 3].Pairwise fun a b =>
      rowLe notes.schema .empty a b = true := by decide
  have hfind : (Store.find { filters := .empty, order := .empty } notes).1 =
      .ok [note 1, note 2, note 3] := by
    rw [find_eq hforms]
    exact congrArg Except.ok (List.mergeSort_of_pairwise hsorted)
  exact ((paginate_pages "notes" hforms hquery rfl hfind).1 2 (by decide)).1

end MemoryStore

end PagedListing

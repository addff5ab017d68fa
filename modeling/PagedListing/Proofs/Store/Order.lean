import Mathlib.Data.String.Basic
import PagedListing.Proofs.Sorting
import PagedListing.Proofs.Store.Memory

/-!
# The order of listings

A store in memory answers with the matching records, sorted and cut to the window. The order of two
records is said field by field in `InOrder`: the first field of the ordering that tells them apart puts
a missing value last in both directions. The listing holds each matching record as often as it is
stored, no record in it stands before one that it should follow, and records that tie stay in the order
of their insertion (`MemoryStore.find_sorted`).
-/

namespace PagedListing
open PagedListing.Sorting
open PagedListing.Steps
open PagedListing.Time (Instant)

variable {schema : Schema}

/-! ## Comparisons seen from the other side -/

/-- Instants compare in reverse when they change places. -/
lemma compareInstants_swap (s t : Option Instant) :
    compareInstants t s = (compareInstants s t).swap := by
  cases s with
  | none =>
    cases t with
    | none => rfl
    | some t => rfl
  | some s =>
    cases t with
    | none => rfl
    | some t =>
      show Instant.cmp t s = (Instant.cmp s t).swap
      rw [Instant.cmp, Instant.cmp, Ordering.swap_then, ← Std.OrientedOrd.eq_swap,
        ← Std.OrientedOrd.eq_swap]

/-- Floating-point numbers compare in reverse when they change places. -/
lemma Number.Double.compare?_swap (x y : Number.Double) :
    y.compare? x = (x.compare? y).map Ordering.swap := by
  unfold Number.Double.compare?
  cases x.signedUnits? with
  | none => cases y.signedUnits? <;> rfl
  | some m =>
    cases y.signedUnits? with
    | none => rfl
    | some n => exact congrArg some Std.OrientedOrd.eq_swap

/-- Numbers compare in reverse when they change places. -/
lemma compareNumbers?_swap (a b : Json) :
    compareNumbers? b a = (compareNumbers? a b).map Ordering.swap := by
  unfold compareNumbers?
  have hdoubles : (do (← b.asDouble?).compare? (← a.asDouble?)) =
      (do (← a.asDouble?).compare? (← b.asDouble?)).map Ordering.swap := by
    cases a.asDouble? with
    | none => cases b.asDouble? <;> rfl
    | some x =>
      cases b.asDouble? with
      | none => rfl
      | some y => exact x.compare?_swap y
  cases a.asInt64? with
  | none => cases b.asInt64? <;> exact hdoubles
  | some m =>
    cases b.asInt64? with
    | none => exact hdoubles
    | some n => exact congrArg some Std.OrientedOrd.eq_swap

/-- Values of a type compare in reverse when they change places. -/
lemma compareValues_swap (type : Option FieldType) (a b : Json) :
    compareValues type b a = (compareValues type a b).swap := by
  have hnumbers : (compareNumbers? b a).getD .eq = ((compareNumbers? a b).getD .eq).swap := by
    rw [compareNumbers?_swap]
    cases compareNumbers? a b <;> rfl
  unfold compareValues
  split
  · exact compareInstants_swap _ _
  · cases a <;> cases b <;> first | exact Std.OrientedOrd.eq_swap | exact hnumbers

/-- A direction reverses what is reversed. -/
lemma Direction.apply_swap (d : Direction) (o : Ordering) : d.apply o.swap = (d.apply o).swap := by
  cases d <;> rfl

/-- Fields compare in reverse when the rows change places. -/
lemma compareField_swap (entry : String × Direction) (a b : Members) :
    compareField schema entry b a = (compareField schema entry a b).swap := by
  unfold compareField
  dsimp only
  cases (a.value entry.1).isNull with
  | true => cases (b.value entry.1).isNull <;> rfl
  | false =>
    cases (b.value entry.1).isNull with
    | true => rfl
    | false =>
      dsimp only
      rw [compareValues_swap, Direction.apply_swap]

/-- Two objects compare the other way round when they change places. -/
lemma compareRows_swap (order : List (String × Direction)) (a b : Members) :
    compareRows schema order b a = (compareRows schema order a b).swap := by
  induction order with
  | nil => rfl
  | cons entry order ih => rw [compareRows, compareRows, Ordering.swap_then, compareField_swap, ih]

/-! ## The order field by field -/

/-- How the values of a field compare in two objects, where both have one. -/
def compareAt (schema : Schema) (field : String) (a b : Members) : Ordering :=
  compareValues ((schema.field? field).map (·.type)) (a.value field) (b.value field)

/-- A field does not tell two objects apart. -/
def Ties (schema : Schema) (field : String) (a b : Members) : Prop :=
  (a.value field).isNull = (b.value field).isNull ∧
    ((a.value field).isNull = false → compareAt schema field a b = .eq)

/-- By a field one object may stand before another: a missing value comes last in both directions. -/
def MayPrecede (schema : Schema) (entry : String × Direction) (a b : Members) : Prop :=
  ((a.value entry.1).isNull = true → (b.value entry.1).isNull = true) ∧
    ((a.value entry.1).isNull = false → (b.value entry.1).isNull = false →
      entry.2.apply (compareAt schema entry.1 a b) ≠ .gt)

/-- One object may stand before another: the first field that tells them apart lets it. -/
def InOrder (schema : Schema) (order : List (String × Direction)) (a b : Members) : Prop :=
  ∀ front entry back, order = front ++ entry :: back →
    (∀ before ∈ front, Ties schema before.1 a b) → MayPrecede schema entry a b

/-- A direction leaves ties as they are. -/
lemma Direction.apply_eq_eq_iff {d : Direction} {o : Ordering} : d.apply o = .eq ↔ o = .eq := by
  cases d with
  | ascending => exact Iff.rfl
  | descending => exact Ordering.swap_eq_eq

/-- Two rows are alike in a field if they tie in it. -/
lemma compareField_eq_eq_iff {entry : String × Direction} {a b : Members} :
    compareField schema entry a b = .eq ↔ Ties schema entry.1 a b := by
  cases ha : (a.value entry.1).isNull <;> cases hb : (b.value entry.1).isNull <;>
    simp [compareField, Ties, compareAt, ha, hb, Direction.apply_eq_eq_iff]

/-- A row comes no later by a field if it may precede the other. -/
lemma compareField_ne_gt_iff {entry : String × Direction} {a b : Members} :
    compareField schema entry a b ≠ .gt ↔ MayPrecede schema entry a b := by
  cases ha : (a.value entry.1).isNull <;> cases hb : (b.value entry.1).isNull <;>
    simp [compareField, MayPrecede, compareAt, ha, hb]

/-- Rows are in order if the first field puts them so, and the other fields where it ties. -/
lemma inOrder_cons_iff {entry : String × Direction} {order : List (String × Direction)}
    {a b : Members} :
    InOrder schema (entry :: order) a b ↔
      MayPrecede schema entry a b ∧ (Ties schema entry.1 a b → InOrder schema order a b) := by
  constructor
  · intro h
    refine ⟨h [] entry order rfl nofun, fun hties front deciding back horder hfront => ?_⟩
    refine h (entry :: front) deciding back (congrArg (entry :: ·) horder) fun before hbefore => ?_
    cases hbefore with
    | head => exact hties
    | tail _ hbefore => exact hfront before hbefore
  · rintro ⟨hentry, hrest⟩ front deciding back horder hfront
    cases front with
    | nil =>
      cases horder
      exact hentry
    | cons first front =>
      cases horder
      refine hrest (hfront entry List.mem_cons_self) front deciding back rfl fun before hbefore => ?_
      exact hfront before (List.mem_cons_of_mem entry hbefore)

/-- The comparison of objects goes by the first field that tells them apart. -/
lemma compareRows_ne_gt_iff {order : List (String × Direction)} {a b : Members} :
    compareRows schema order a b ≠ .gt ↔ InOrder schema order a b := by
  induction order with
  | nil =>
    refine ⟨fun _ front entry back horder => ?_, fun _ => nofun⟩
    cases (List.append_eq_nil_iff.mp horder.symm).2
  | cons entry order ih =>
    rw [inOrder_cons_iff, ← ih, ← compareField_eq_eq_iff, ← compareField_ne_gt_iff, compareRows, ne_eq,
      Ordering.then_eq_gt, not_or, not_and]

/-- A row comes no later than another if it does not compare as greater. -/
lemma rowLe_iff {order : OrderSpec} {a b : Record} :
    rowLe schema order a b = true ↔ compareRows schema order.entries a.members b.members ≠ .gt := by
  rw [rowLe, bne_iff_ne]

/-! ## The listing -/

/-- A window passes over some rows and takes some of the others. -/
lemma window_eq {α : Type} (options : FindOptions) (rows : List α) :
    window options rows = (rows.drop (options.skip.elim 0 UInt64.toNat)).take
      (options.take.elim rows.length UInt32.toNat) := by
  have hdrop : rows.drop (options.skip.getD 0).toNat =
      rows.drop (options.skip.elim 0 UInt64.toNat) := by
    cases options.skip <;> rfl
  rw [window, hdrop]
  cases options.take with
  | none =>
    refine (List.take_of_length_le ?_).symm
    rw [List.length_drop]
    exact Nat.sub_le _ _
  | some take => rfl

/-- Whether an ordering does not tell two records apart. -/
def rowTies (schema : Schema) (order : OrderSpec) (a b : Record) : Bool :=
  compareRows schema order.entries a.members b.members == .eq

/-- Rows that tie with one row come no later than each other. -/
lemma rowLe_of_rowTies {order : OrderSpec} {records : List Record}
    (h : PreorderOn (rowLe schema order) records) {r a b : Record} (hr : r ∈ records)
    (ha : a ∈ records) (hb : b ∈ records) (hra : rowTies schema order r a = true)
    (hrb : rowTies schema order r b = true) : rowLe schema order a b = true := by
  rw [rowTies, beq_iff_eq] at hra hrb
  refine h.trans a ha r hr b hb (rowLe_iff.mpr ?_) (rowLe_iff.mpr ?_)
  · rw [compareRows_swap, hra]
    decide
  · rw [hrb]
    decide

/-- A store in memory answers with a stable sort of the matching records: each stands before those that
it may precede, and records that tie come in the order of their insertion. A limit and an offset cut it.
-/
theorem MemoryStore.find_sorted {store : MemoryStore} (hform : ∀ r ∈ store.records, r.HasForm)
    (options : FindOptions)
    (hpreorder : PreorderOn (rowLe store.schema options.order) store.records) :
    ∃ found,
      Store.find { options with take := none, skip := none } store = (.ok found, store.counted) ∧
      found.Perm (store.records.filter options.filters.admits) ∧
      (found.Pairwise fun a b =>
        compareRows store.schema options.order.entries a.members b.members ≠ .gt ∧
          InOrder store.schema options.order.entries a.members b.members) ∧
      (∀ r ∈ store.records, found.filter (rowTies store.schema options.order r) =
        (store.records.filter options.filters.admits).filter
          (rowTies store.schema options.order r)) ∧
      ∀ (take : Option UInt32) (skip : Option UInt64),
        Store.find { options with take, skip } store =
          (.ok ((found.drop (skip.elim 0 UInt64.toNat)).take
            (take.elim found.length UInt32.toNat)), store.counted) := by
  have hfound : PreorderOn (rowLe store.schema options.order)
      (store.records.filter options.filters.admits) :=
    hpreorder.subset List.filter_sublist.subset
  refine ⟨PagedListing.listing store.schema options.filters options.order store.records,
    find_eq hform _, List.mergeSort_perm _ _, ?_, fun r hr => ?_, fun take skip => ?_⟩
  · refine (pairwise_mergeSort hfound).imp fun hle => ?_
    exact ⟨rowLe_iff.mp hle, compareRows_ne_gt_iff.mp (rowLe_iff.mp hle)⟩
  · refine filter_mergeSort_of_ties hfound fun a ha b hb hra hrb => ?_
    exact rowLe_of_rowTies hpreorder hr (List.mem_filter.mp ha).1 (List.mem_filter.mp hb).1 hra hrb
  · rw [find_eq hform, window_eq]

/-- People of some ages, one of them without an age and one that is no object. -/
def people : MemoryStore where
  schema := ⟨"people", [⟨"id", .integer⟩, ⟨"age", .integer⟩]⟩
  records := [.ofJson 1 (.obj [("id", .int 1), ("age", .int 30)]), .ofJson 2 (.obj [("id", .int 2)]),
    .ofJson 3 (.str "nobody"), .ofJson 4 (.obj [("id", .int 4), ("age", .int 30)]),
    .ofJson 5 (.obj [("id", .int 5), ("age", .int 40)])]

/-- All with a number, from the oldest one on. -/
def byAge : FindOptions where
  filters := .ofList [("id", .compare .more (.integer 0))]
  order := .ofList [("age", .descending)]

/-- The oldest one comes first, two of one age as they were stored, and the one without an age last; the
one that is no object has no number. The window of two behind the first cuts the same listing. -/
theorem find_sorted_people :
    (∀ r ∈ people.records, r.HasForm) ∧
      PreorderOn (rowLe people.schema byAge.order) people.records ∧
      ∃ found, Store.find byAge people = (.ok found, people.counted) ∧
        found.map Record.id = [5, 1, 4, 2] ∧
        (found.Pairwise fun a b => InOrder people.schema byAge.order.entries a.members b.members) ∧
        Store.find { byAge with take := some 2, skip := some 1 } people =
          (.ok ((found.drop 1).take 2), people.counted) := by
  have hform : ∀ r ∈ people.records, r.HasForm := by
    intro r hr
    simp only [people, List.mem_cons, List.not_mem_nil, or_false] at hr
    obtain rfl | rfl | rfl | rfl | rfl := hr <;> exact ⟨_, rfl⟩
  have hpreorder : PreorderOn (rowLe people.schema byAge.order) people.records :=
    ⟨by decide +kernel, by decide +kernel⟩
  obtain ⟨found, hfind, -, hsorted, -, hwindow⟩ := MemoryStore.find_sorted hform byAge hpreorder
  refine ⟨hform, hpreorder, found, hfind, ?_, hsorted.imp And.right, hwindow (some 2) (some 1)⟩
  have hmatching : people.records.filter byAge.filters.admits =
      [.ofJson 1 (.obj [("id", .int 1), ("age", .int 30)]), .ofJson 2 (.obj [("id", .int 2)]),
        .ofJson 4 (.obj [("id", .int 4), ("age", .int 30)]),
        .ofJson 5 (.obj [("id", .int 5), ("age", .int 40)])] := rfl
  have hids : (listing people.schema byAge.filters byAge.order people.records).map Record.id =
      [5, 1, 4, 2] := by
    rw [listing, hmatching]
    simp +decide [List.mergeSort, List.MergeSort.Internal.splitInTwo]
  cases congrArg Prod.fst (hfind.symm.trans (MemoryStore.find_eq hform byAge))
  exact hids

end PagedListing

import Mathlib.Data.Set.Defs
import PagedListing.Proofs.Number.Decimal
import PagedListing.Proofs.Store.Order

/-!
# The comparison of rows is a preorder

Values of one type compare transitively (`FieldType.Holds.compareValues_trans`), timestamps that cannot be
read forming a class of their own. A missing value comes last in both directions, and so a field compares
transitively where each row has no value or one of the type of the field (`MayPrecede.trans`). An ordering
puts fields one behind the other, of any number and in any directions: the comparison of rows is a total
preorder, as sorting asks (`compareRows_preorder`).
-/

namespace PagedListing
open PagedListing.Sorting
open PagedListing.Time (Instant)

variable {schema : Schema}

/-! ## Values of one type -/

/-- A value of a type in a row: for a timestamp any text, whether it can be read or not, and for a float
any number with a point. -/
inductive FieldType.Holds : FieldType → Json → Prop
  | integer (n : Int64) : Holds .integer (.int n.toInt)
  | float {x : Number.Double} (h : x ≠ .nan) : Holds .float (.float x)
  | text (s : String) : Holds .text (.str s)
  | boolean (b : Bool) : Holds .boolean (.bool b)
  | timestamp (s : String) : Holds .timestamp (.str s)

/-- Instants compare transitively. -/
instance Time.Instant.transOrd : Std.TransOrd Instant :=
  inferInstanceAs (Std.TransCmp (compareLex (compareOn Instant.seconds) (compareOn Instant.nanos)))

/-- Optional instants compare as options do. -/
lemma compareInstants_eq (s t : Option Instant) : compareInstants s t = compare s t := by
  cases s with
  | none => cases t <;> rfl
  | some s => cases t <;> rfl

/-- Integers compare as they are. -/
lemma compareValues_integer (m n : Int64) :
    compareValues (some .integer) (.int m.toInt) (.int n.toInt) = compare m.toInt n.toInt := by
  show (compareNumbers? _ _).getD .eq = _
  simp only [compareNumbers?, Json.asInt64?, Number.int64?_toInt, Option.getD_some]

/-- A defined number has its place among the integers. -/
lemma Number.Double.exists_signedUnits {x : Number.Double} (h : x ≠ .nan) :
    ∃ m, x.signedUnits? = some m := by
  cases x with
  | nan => exact absurd rfl h
  | infinite negative => exact ⟨_, rfl⟩
  | finite negative units => exact ⟨_, rfl⟩

/-- Floating-point numbers compare as their units do. -/
lemma compareValues_float {x y : Number.Double} {m n : Int} (hx : x.signedUnits? = some m)
    (hy : y.signedUnits? = some n) :
    compareValues (some .float) (.float x) (.float y) = compare m n := by
  show (x.compare? y).getD .eq = _
  rw [Number.Double.compare?, hx, hy]
  rfl

/-- Values of a type compare transitively. -/
lemma FieldType.Holds.compareValues_trans {type : FieldType} {u v w : Json} (hu : type.Holds u)
    (hv : type.Holds v) (hw : type.Holds w) (huv : (compareValues (some type) u v).isLE)
    (hvw : (compareValues (some type) v w).isLE) : (compareValues (some type) u w).isLE := by
  cases hu with
  | integer m =>
    cases hv with
    | integer n =>
      cases hw with
      | integer k =>
        rw [compareValues_integer] at huv hvw ⊢
        exact Std.TransOrd.isLE_trans huv hvw
  | float hx =>
    cases hv with
    | float hy =>
      cases hw with
      | float hz =>
        obtain ⟨m, hm⟩ := Number.Double.exists_signedUnits hx
        obtain ⟨n, hn⟩ := Number.Double.exists_signedUnits hy
        obtain ⟨k, hk⟩ := Number.Double.exists_signedUnits hz
        rw [compareValues_float hm hn] at huv
        rw [compareValues_float hn hk] at hvw
        rw [compareValues_float hm hk]
        exact Std.TransOrd.isLE_trans huv hvw
  | text s =>
    cases hv with
    | text t =>
      cases hw with
      | text r => exact Std.TransOrd.isLE_trans (α := String) huv hvw
  | boolean a =>
    cases hv with
    | boolean b =>
      cases hw with
      | boolean c => exact Std.TransOrd.isLE_trans (α := Bool) huv hvw
  | timestamp s =>
    cases hv with
    | timestamp t =>
      cases hw with
      | timestamp r =>
        -- a text that cannot be read compares as no instant, which comes first
        have hread : ∀ p q : String, compareValues (some .timestamp) (.str p) (.str q) =
            compare (Instant.read? p) (Instant.read? q) := fun p q => compareInstants_eq _ _
        rw [hread] at huv hvw ⊢
        exact Std.TransOrd.isLE_trans huv hvw

/-! ## One field -/

/-- A row has in a field no value, or one of the type that a schema declares for the field. -/
def Members.Suits (schema : Schema) (field : String) (row : Members) : Prop :=
  (row.value field).isNull = true ∨
    ∃ type, (schema.field? field).map (·.type) = some type ∧ type.Holds (row.value field)

/-- On the values of a type the comparison is a transitive one. -/
lemma transCmp_compareValues (type : FieldType) :
    Std.TransCmp fun u v : { v : Json // type.Holds v } => compareValues (some type) u.1 v.1 where
  eq_swap := compareValues_swap _ _ _
  isLE_trans := by
    intro u v w huv hvw
    exact u.2.compareValues_trans v.2 w.2 huv hvw

/-- A comparison may be seen in either direction. -/
lemma Direction.transCmp_apply {α : Type} {cmp : α → α → Ordering} (h : Std.TransCmp cmp)
    (d : Direction) : Std.TransCmp fun a b => d.apply (cmp a b) := by
  cases d with
  | ascending => exact h
  | descending =>
    have hswap : (fun a b => descending.apply (cmp a b)) = fun a b => cmp b a := by
      funext a b
      exact h.eq_swap.symm
    rw [hswap]
    exact Std.TransCmp.opposite

/-- Rows that suit a field may precede one another transitively. -/
lemma MayPrecede.trans {entry : String × Direction} {a b c : Members} (ha : a.Suits schema entry.1)
    (hb : b.Suits schema entry.1) (hc : c.Suits schema entry.1) (hab : MayPrecede schema entry a b)
    (hbc : MayPrecede schema entry b c) : MayPrecede schema entry a c := by
  refine ⟨fun hnull => hbc.1 (hab.1 hnull), fun hnullA hnullC => ?_⟩
  have hnullB : (b.value entry.1).isNull = false := by
    rw [← Bool.not_eq_true]
    intro hnull
    rw [hbc.1 hnull] at hnullC
    cases hnullC
  have htyped : ∀ {row : Members}, row.Suits schema entry.1 → (row.value entry.1).isNull = false →
      ∃ type, (schema.field? entry.1).map (·.type) = some type ∧ type.Holds (row.value entry.1) := by
    intro row hrow hnull
    refine hrow.resolve_left ?_
    rw [hnull]
    exact Bool.false_ne_true
  obtain ⟨type, htype, hholdsA⟩ := htyped ha hnullA
  obtain ⟨typeB, htypeB, hholdsB⟩ := htyped hb hnullB
  obtain ⟨typeC, htypeC, hholdsC⟩ := htyped hc hnullC
  cases Option.some.inj (htype.symm.trans htypeB)
  cases Option.some.inj (htype.symm.trans htypeC)
  have hcmp : ∀ x y, compareAt schema entry.1 x y =
      compareValues (some type) (x.value entry.1) (y.value entry.1) := by
    intro x y
    rw [compareAt, htype]
  have hleft := hab.2 hnullA hnullB
  have hright := hbc.2 hnullB hnullC
  rw [hcmp, ne_eq, ← Ordering.isLE_iff_ne_gt] at hleft hright ⊢
  exact (entry.2.transCmp_apply (transCmp_compareValues type)).isLE_trans
    (a := ⟨_, hholdsA⟩) (b := ⟨_, hholdsB⟩) (c := ⟨_, hholdsC⟩) hleft hright

/-! ## Any ordering -/

section
variable {α : Type} {row : α → Members}

/-- On rows that suit a field the comparison by it is a transitive one. -/
lemma transCmp_compareField {entry : String × Direction} (h : ∀ a, (row a).Suits schema entry.1) :
    Std.TransCmp fun a b => compareField schema entry (row a) (row b) where
  eq_swap := compareField_swap _ _ _
  isLE_trans := by
    intro a b c hab hbc
    rw [Ordering.isLE_iff_ne_gt, ← ne_eq, compareField_ne_gt_iff] at hab hbc ⊢
    exact hab.trans (h a) (h b) (h c) hbc

/-- On rows that suit the fields of an ordering the comparison by it is a transitive one. -/
theorem transCmp_compareRows {order : List (String × Direction)}
    (h : ∀ entry ∈ order, ∀ a, (row a).Suits schema entry.1) :
    Std.TransCmp fun a b => compareRows schema order (row a) (row b) := by
  induction order with
  | nil => exact { eq_swap := rfl, isLE_trans := fun _ _ => rfl }
  | cons entry order ih =>
    have hfirst := transCmp_compareField (h entry List.mem_cons_self)
    have hrest := ih fun later hlater => h later (List.mem_cons_of_mem entry hlater)
    exact inferInstanceAs (Std.TransCmp (compareLex
      (fun a b => compareField schema entry (row a) (row b))
      fun a b => compareRows schema order (row a) (row b)))

end

/-- A row is equal to itself under every ordering. -/
lemma compareRows_self (order : List (String × Direction)) (a : Members) :
    compareRows schema order a a = .eq := by
  have hself : ∀ o : Ordering, o = o.swap → o = .eq := by decide
  exact hself _ (compareRows_swap order a a)

/-- Rows whose ordered fields have no value or one of their type compare as a total preorder, and so a
store in memory can sort its records. -/
theorem compareRows_preorder {order : OrderSpec} {rows : Set Members}
    (h : ∀ row ∈ rows, ∀ field ∈ order.names, row.Suits schema field) :
    (∀ a ∈ rows, compareRows schema order.entries a a = .eq) ∧
    (∀ a ∈ rows, ∀ b ∈ rows,
      compareRows schema order.entries b a = (compareRows schema order.entries a b).swap) ∧
    (∀ a ∈ rows, ∀ b ∈ rows, ∀ c ∈ rows, (compareRows schema order.entries a b).isLE →
      (compareRows schema order.entries b c).isLE → (compareRows schema order.entries a c).isLE) ∧
    (Std.TransCmp fun a b : rows => compareRows schema order.entries a.1 b.1) ∧
    ∀ (store : MemoryStore) (options : FindOptions), store.schema = schema → options.order = order →
      (∀ r ∈ store.records, r.HasForm ∧ r.members ∈ rows) →
      PreorderOn (rowLe schema order) store.records ∧
      ∃ found, Store.find options store = (.ok found, store.counted) ∧ found.Pairwise fun a b =>
        (compareRows schema order.entries a.members b.members).isLE := by
  have htrans : Std.TransCmp fun a b : rows => compareRows schema order.entries a.1 b.1 := by
    refine transCmp_compareRows fun entry hentry a => ?_
    exact h a.1 a.2 entry.1 (List.mem_map_of_mem hentry)
  refine ⟨fun a _ => compareRows_self order.entries a, fun a _ b _ =>
    compareRows_swap order.entries a b, fun a ha b hb c hc =>
      htrans.isLE_trans (a := ⟨a, ha⟩) (b := ⟨b, hb⟩) (c := ⟨c, hc⟩), htrans, ?_⟩
  rintro store options rfl rfl hrecords
  have hle : ∀ a b, rowLe store.schema options.order a b = true ↔
      (compareRows store.schema options.order.entries a.members b.members).isLE := by
    intro a b
    rw [rowLe_iff, ne_eq, Ordering.isLE_iff_ne_gt]
  have hpreorder : PreorderOn (rowLe store.schema options.order) store.records := by
    constructor
    · intro a ha b hb c hc hab hbc
      rw [hle] at hab hbc ⊢
      exact htrans.isLE_trans (a := ⟨_, (hrecords a ha).2⟩) (b := ⟨_, (hrecords b hb).2⟩)
        (c := ⟨_, (hrecords c hc).2⟩) hab hbc
    · intro a _ b _
      rw [Bool.or_eq_true, hle, hle, compareRows_swap]
      cases compareRows store.schema options.order.entries b.members a.members <;> decide
  refine ⟨hpreorder, _, MemoryStore.find_eq (fun r hr => (hrecords r hr).1) options, ?_⟩
  have hsorted := pairwise_mergeSort (hpreorder.subset
    (List.filter_sublist (p := options.filters.admits)).subset)
  refine (hsorted.imp fun hab => (hle _ _).mp hab).sublist ?_
  exact window_sublist options (listing store.schema options.filters options.order store.records)

/-- Readings of a level at some times: one time cannot be read, and one reading has no time. -/
def readings : MemoryStore where
  schema := ⟨"readings", [⟨"id", .integer⟩, ⟨"at", .timestamp⟩, ⟨"level", .float⟩]⟩
  records := [.ofJson 1 (.obj [("id", .int 1), ("level", .float (.ofInt 5))]),
    .ofJson 2 (.obj [("id", .int 2), ("at", .str "noon"), ("level", .float (.ofInt (-5)))]),
    .ofJson 3 (.obj [("id", .int 3), ("at", .str "2024-03-01"), ("level", .null)])]

/-- All, from the latest time on and at one time by the level. -/
def latestLowest : FindOptions where
  order := .ofList [("at", .descending), ("level", .ascending)]

/-- From the latest time on a time that cannot be read stands behind one that can, and a missing one behind
both. -/
theorem compareRows_preorder_readings :
    (∀ r ∈ readings.records, r.HasForm ∧ ∀ field ∈ latestLowest.order.names,
      r.members.Suits readings.schema field) ∧
    PreorderOn (rowLe readings.schema latestLowest.order) readings.records ∧
    ∃ found, Store.find latestLowest readings = (.ok found, readings.counted) ∧
      (found.Pairwise fun a b =>
        (compareRows readings.schema latestLowest.order.entries a.members b.members).isLE) ∧
      found.map Record.id = [3, 2, 1] := by
  have hrecords : ∀ r ∈ readings.records, r.HasForm ∧ ∀ field ∈ latestLowest.order.names,
      r.members.Suits readings.schema field := by
    have hnames : latestLowest.order.names = ["at", "level"] := rfl
    intro r hr
    rw [hnames, List.forall_mem_cons, List.forall_mem_singleton]
    simp only [readings, List.mem_cons, List.not_mem_nil, or_false] at hr
    obtain rfl | rfl | rfl := hr
    · exact ⟨⟨_, rfl⟩, .inl rfl, .inr ⟨_, rfl, .float (by decide +kernel)⟩⟩
    · exact ⟨⟨_, rfl⟩, .inr ⟨_, rfl, .timestamp "noon"⟩, .inr ⟨_, rfl, .float (by decide +kernel)⟩⟩
    · exact ⟨⟨_, rfl⟩, .inr ⟨_, rfl, .timestamp "2024-03-01"⟩, .inl rfl⟩
  have hrows : ∀ row ∈ { row | ∃ r ∈ readings.records, r.members = row },
      ∀ field ∈ latestLowest.order.names, row.Suits readings.schema field := by
    rintro row ⟨r, hr, rfl⟩
    exact (hrecords r hr).2
  obtain ⟨-, -, -, -, hstore⟩ := compareRows_preorder hrows
  obtain ⟨hpreorder, found, hfind, hsorted⟩ :=
    hstore readings latestLowest rfl rfl fun r hr => ⟨(hrecords r hr).1, r, hr, rfl⟩
  refine ⟨hrecords, hpreorder, found, hfind, hsorted, ?_⟩
  cases congrArg Prod.fst (hfind.symm.trans (MemoryStore.find_eq (fun r hr => (hrecords r hr).1) _))
  show (listing _ _ _ _).map Record.id = _
  rw [listing]
  simp +decide [readings, List.mergeSort, List.MergeSort.Internal.splitInTwo]

end PagedListing

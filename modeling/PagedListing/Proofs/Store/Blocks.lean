import PagedListing.Proofs.Filter.Scale
import PagedListing.Proofs.Store.Order

/-!
# Filters and sorted listings

Sorting and filtering compare the values of a field by two functions of their own, which agree with the
order of the type (`FieldType.ValueAt.compareValues`, `FieldType.ValueAt.compare_operand`). So in a
listing ordered by a field the records of which a relation holds stand together: the greater ones at the
end of an ascending listing and at the front of a descending one, those between two operands anywhere,
and behind all of them the records without a value (`MemoryStore.find_blocks`).
-/

namespace PagedListing
open PagedListing.Sorting
open PagedListing.Time (Instant)
open FieldType (ValueAt OperandAt)

/-! ## Parts of a sorted list -/

section
variable {α : Type} {p : α → Bool} {l : List α}

/-- A property that each element passes on to those before it cuts a list in two. -/
lemma filter_append_filter_not (h : l.Pairwise fun a b => p b = true → p a = true) :
    l.filter p ++ l.filter (fun a => !p a) = l := by
  induction l with
  | nil => rfl
  | cons a l ih =>
    obtain ⟨hhead, htail⟩ := List.pairwise_cons.mp h
    cases ha : p a with
    | true =>
      rw [List.filter_cons_of_pos ha, List.filter_cons_of_neg (by simp [ha]), List.cons_append, ih htail]
    | false =>
      have hnone : ∀ b ∈ l, p b = false := by
        intro b hb
        refine Bool.eq_false_iff.mpr fun hpb => ?_
        rw [hhead b hb hpb] at ha
        cases ha
      rw [List.filter_eq_nil_iff.mpr, List.filter_eq_self.mpr, List.nil_append]
      · exact List.forall_mem_cons.mpr ⟨by simp [ha], fun b hb => by simp [hnone b hb]⟩
      · exact List.forall_mem_cons.mpr ⟨by simp [ha], fun b hb => by simp [hnone b hb]⟩

/-- So does a property that each element passes on to those behind it. -/
lemma filter_not_append_filter (h : l.Pairwise fun a b => p a = true → p b = true) :
    l.filter (fun a => !p a) ++ l.filter p = l := by
  have hnot : l.Pairwise fun a b => (!p b) = true → (!p a) = true := by
    refine h.imp fun hab => ?_
    rw [Bool.not_eq_true', Bool.not_eq_true', ← Bool.not_eq_true, ← Bool.not_eq_true]
    exact mt hab
  simpa only [Bool.not_not] using filter_append_filter_not hnot

/-- What each element passes on to those before it is kept at the front. -/
lemma filter_isPrefix (h : l.Pairwise fun a b => p b = true → p a = true) : l.filter p <+: l :=
  ⟨_, filter_append_filter_not h⟩

/-- What each element passes on to those behind it is kept at the end. -/
lemma filter_isSuffix (h : l.Pairwise fun a b => p a = true → p b = true) : l.filter p <:+ l :=
  ⟨_, filter_not_append_filter h⟩

end

namespace Direction

variable {α : Type} {rises : α → α → Prop} {p q : α → Bool} {l : List α}

/-- The relation in which elements stand one after the other in a direction. -/
def Toward (d : Direction) (rises : α → α → Prop) (a b : α) : Prop :=
  match d with
  | ascending => rises a b
  | descending => rises b a

/-- The great elements stand at the end of a list in ascending order, and at the front of a list in
descending order. -/
def AtTop (d : Direction) (block l : List α) : Prop :=
  match d with
  | ascending => block <:+ l
  | descending => block <+: l

/-- The small elements stand at the front of a list in ascending order, and at the end of a list in
descending order. -/
def AtBottom (d : Direction) (block l : List α) : Prop :=
  match d with
  | ascending => block <+: l
  | descending => block <:+ l

variable {d : Direction}

/-- A block at the top is in one piece. -/
lemma AtTop.isInfix {block : List α} (h : d.AtTop block l) : block <:+: l := by
  cases d with
  | ascending => exact List.IsSuffix.isInfix h
  | descending => exact List.IsPrefix.isInfix h

/-- A block at the bottom is in one piece. -/
lemma AtBottom.isInfix {block : List α} (h : d.AtBottom block l) : block <:+: l := by
  cases d with
  | ascending => exact List.IsPrefix.isInfix h
  | descending => exact List.IsSuffix.isInfix h

/-- What greater elements keep stands at the top. -/
lemma atTop_filter (h : l.Pairwise (d.Toward rises))
    (hup : ∀ a ∈ l, ∀ b ∈ l, rises a b → p a = true → p b = true) : d.AtTop (l.filter p) l := by
  cases d with
  | ascending => exact filter_isSuffix (h.imp_of_mem fun ha hb hab => hup _ ha _ hb hab)
  | descending => exact filter_isPrefix (h.imp_of_mem fun ha hb hab => hup _ hb _ ha hab)

/-- What smaller elements keep stands at the bottom. -/
lemma atBottom_filter (h : l.Pairwise (d.Toward rises))
    (hdown : ∀ a ∈ l, ∀ b ∈ l, rises a b → p b = true → p a = true) : d.AtBottom (l.filter p) l := by
  cases d with
  | ascending => exact filter_isPrefix (h.imp_of_mem fun ha hb hab => hdown _ ha _ hb hab)
  | descending => exact filter_isSuffix (h.imp_of_mem fun ha hb hab => hdown _ hb _ ha hab)

/-- What is kept both by greater elements and by smaller ones stands together. -/
lemma filter_isInfix (h : l.Pairwise (d.Toward rises))
    (hup : ∀ a ∈ l, ∀ b ∈ l, rises a b → p a = true → p b = true)
    (hdown : ∀ a ∈ l, ∀ b ∈ l, rises a b → q b = true → q a = true) :
    l.filter (fun a => p a && q a) <:+: l := by
  have hsub : l.filter p ⊆ l := List.filter_sublist.subset
  have hbottom : d.AtBottom ((l.filter p).filter q) (l.filter p) :=
    atBottom_filter (h.sublist List.filter_sublist) fun a ha b hb => hdown a (hsub ha) b (hsub hb)
  have hboth : (l.filter p).filter q = l.filter fun a => p a && q a := by
    rw [List.filter_filter]
    exact List.filter_congr fun a _ => Bool.and_comm (q a) (p a)
  exact hboth ▸ hbottom.isInfix.trans (atTop_filter h hup).isInfix

/-- Values may stand in a direction if they do not go against it. -/
lemma apply_ne_gt_iff {β : Type} [LinearOrder β] {x y : β} {o : Ordering} (h : o.Compares x y) :
    d.apply o ≠ .gt ↔ d.Toward (· ≤ ·) x y := by
  cases d with
  | ascending => exact h.ne_gt
  | descending => exact h.swap.ne_gt

end Direction

/-! ## Values of a field -/

/-- Two values of a type compare in an ordering as their places do. -/
lemma FieldType.ValueAt.compareValues {type : FieldType} {v w : Json} {x y : type.Scale}
    (hv : ValueAt v type x) (hw : ValueAt w type y) :
    (PagedListing.compareValues (some type) v w).Compares x y := by
  cases hv with
  | integer m =>
    cases hw with
    | integer n =>
      have hnumbers : PagedListing.compareValues (some .integer) (.int m.toInt) (.int n.toInt) =
          compare m.toInt n.toInt := by
        show (compareNumbers? (.int m.toInt) (.int n.toInt)).getD .eq = _
        simp only [compareNumbers?, Json.asInt64?, Number.int64?_toInt, Option.getD_some]
      rw [hnumbers]
      exact compares_compare m.toInt n.toInt
  | text s =>
    cases hw with
    | text t => exact Text.strictMono_bytes.compares.mpr (compares_compare s t)
  | boolean a =>
    cases hw with
    | boolean => exact compares_compare a _
  | @timestamp s a hs =>
    cases hw with
    | @timestamp t b ht =>
      have hinstants : PagedListing.compareValues (some .timestamp) (.str s) (.str t) =
          compare a.place b.place := by
        show compareInstants (Instant.read? s) (Instant.read? t) = _
        rw [hs, ht, Time.Instant.compare_place]
        rfl
      rw [hinstants]
      exact compares_compare a.place b.place

/-- A record has in a field no value, or a value of a type. -/
def Record.Keeps (field : String) (type : FieldType) (r : Record) : Prop :=
  (r.members.value field).isNull = true ∨ ∃ x, ValueAt (r.members.value field) type x

/-- A field that keeps values of a type has one unless it is null. -/
lemma Record.Keeps.exists_valueAt {field : String} {type : FieldType} {r : Record}
    (h : r.Keeps field type) (hnull : (r.members.value field).isNull = false) :
    ∃ x, ValueAt (r.members.value field) type x := by
  refine Or.resolve_left h ?_
  rw [hnull]
  exact Bool.false_ne_true

/-- Whether a predicate holds of the value of a field in a record. -/
def Predicate.admitsAt (p : Predicate) (field : String) (r : Record) : Bool :=
  p.holds (r.members.value field)

/-- The value of a field in a record is at most the one in another record. -/
def Rises (field : String) (type : FieldType) (a b : Record) : Prop :=
  ∀ x y, ValueAt (a.members.value field) type x → ValueAt (b.members.value field) type y → x ≤ y

section
variable {schema : Schema} {field : String} {type : FieldType} {direction : Direction}
  {order : OrderSpec} {a b c : Record}

/-- Of two rows one comes no later than the other. -/
lemma rowLe_total (order : OrderSpec) (a b : Record) :
    (rowLe schema order a b || rowLe schema order b a) = true := by
  rw [Bool.or_eq_true, rowLe_iff, rowLe_iff, compareRows_swap]
  cases compareRows schema order.entries b.members a.members <;> decide

/-- By one field, a record may stand before another exactly if it lacks a value only where the other one
does, and the values rise in the direction. -/
lemma rowLe_iff_rises (hfield : (schema.field? field).map (·.type) = some type)
    (horder : order.entries = [(field, direction)]) (ha : a.Keeps field type) (hb : b.Keeps field type) :
    rowLe schema order a b = true ↔
      ((a.members.value field).isNull = true → (b.members.value field).isNull = true) ∧
        direction.Toward (Rises field type) a b := by
  have hone : InOrder schema [(field, direction)] a.members b.members ↔
      MayPrecede schema (field, direction) a.members b.members := by
    have hrest : InOrder schema [] a.members b.members := compareRows_ne_gt_iff.mp nofun
    exact inOrder_cons_iff.trans (and_iff_left fun _ => hrest)
  have hvalues : ∀ x y, ValueAt (a.members.value field) type x → ValueAt (b.members.value field) type y →
      (direction.apply (compareAt schema field a.members b.members) ≠ .gt ↔
        direction.Toward (· ≤ ·) x y) := by
    intro x y hx hy
    rw [compareAt, hfield]
    exact Direction.apply_ne_gt_iff (hx.compareValues hy)
  have htoward : direction.Toward (Rises field type) a b ↔ ∀ x y,
      ValueAt (a.members.value field) type x → ValueAt (b.members.value field) type y →
        direction.Toward (· ≤ ·) x y := by
    cases direction with
    | ascending => exact Iff.rfl
    | descending => exact ⟨fun h x y hx hy => h y x hy hx, fun h y x hy hx => h x y hx hy⟩
  rw [rowLe_iff, compareRows_ne_gt_iff, horder, hone, htoward, MayPrecede]
  refine and_congr_right fun _ => ⟨fun h x y hx hy => ?_, fun h hnullA hnullB => ?_⟩
  · exact (hvalues x y hx hy).mp (h hx.isNull hy.isNull)
  · obtain ⟨x, hx⟩ := ha.exists_valueAt hnullA
    obtain ⟨y, hy⟩ := hb.exists_valueAt hnullB
    exact (hvalues x y hx hy).mpr (h x y hx hy)

/-- Rows rise as their values do, through a row that has one. -/
lemma Rises.trans {y : type.Scale} (hb : ValueAt (b.members.value field) type y)
    (hab : Rises field type a b) (hbc : Rises field type b c) : Rises field type a c :=
  fun x z hx hz => le_trans (hab x y hx hb) (hbc y z hb hz)

/-- A missing value asks for nothing. -/
lemma toward_of_isNull (h : (b.members.value field).isNull = true) :
    direction.Toward (Rises field type) a b := by
  have habsent : ∀ y : type.Scale, ¬ ValueAt (b.members.value field) type y := by
    intro y hy
    rw [hy.isNull] at h
    cases h
  cases direction with
  | ascending => exact fun _ y _ hy => absurd hy (habsent y)
  | descending => exact fun y _ hy _ => absurd hy (habsent y)

/-- By one field whose values are of its type, records may be sorted. -/
lemma preorderOn_rowLe {records : List Record} (hfield : (schema.field? field).map (·.type) = some type)
    (horder : order.entries = [(field, direction)]) (hkeeps : ∀ r ∈ records, r.Keeps field type) :
    PreorderOn (rowLe schema order) records where
  total a _ b _ := rowLe_total order a b
  trans a ha b hb c hc hab hbc := by
    rw [rowLe_iff_rises hfield horder (hkeeps a ha) (hkeeps b hb)] at hab
    rw [rowLe_iff_rises hfield horder (hkeeps b hb) (hkeeps c hc)] at hbc
    rw [rowLe_iff_rises hfield horder (hkeeps a ha) (hkeeps c hc)]
    refine ⟨fun h => hbc.1 (hab.1 h), ?_⟩
    cases hkeeps b hb with
    | inl hnull => exact toward_of_isNull (hbc.1 hnull)
    | inr hvalue =>
      obtain ⟨y, hy⟩ := hvalue
      cases direction with
      | ascending => exact hab.2.trans hy hbc.2
      | descending => exact hbc.2.trans hy hab.2

end

/-! ## Predicates on a field -/

section
variable {field : String} {type : FieldType}

/-- No predicate admits a row by a field that is null. -/
lemma Predicate.admitsAt_of_isNull {r : Record} (h : (r.members.value field).isNull = true)
    (p : Predicate) : p.admitsAt field r = false :=
  if_pos h

/-- A comparison admits a row by a field if its relation holds of the two values. -/
lemma Predicate.admitsAt_compare_iff {r : Record} {o : Operand} {x y : type.Scale}
    (hvalue : ValueAt (r.members.value field) type x) (ho : OperandAt o type y) (relation : Relation) :
    (Predicate.compare relation o).admitsAt field r = true ↔ relation.Relates x y := by
  rw [admitsAt, holds, hvalue.isNull]
  exact related_iff hvalue ho relation

/-- A value lies between two operands if it is at least the one and at most the other. -/
lemma Predicate.admitsAt_between (low high : Operand) :
    (Predicate.between low high).admitsAt field = fun r =>
      (Predicate.compare .moreOrEqual low).admitsAt field r &&
        (Predicate.compare .lessOrEqual high).admitsAt field r := by
  funext r
  rw [admitsAt, admitsAt, admitsAt, holds, holds, holds]
  cases (r.members.value field).isNull <;> rfl

/-- A value equals an operand if it lies between the operand and itself. -/
lemma Predicate.admitsAt_equal (o : Operand) :
    (Predicate.compare .equal o).admitsAt field = (Predicate.between o o).admitsAt field := by
  funext r
  rw [admitsAt, admitsAt, holds, holds]
  cases (r.members.value field).isNull with
  | true => rfl
  | false =>
    show related _ .equal o = (related _ .moreOrEqual o && related _ .lessOrEqual o)
    unfold related
    cases o.compare? (r.members.value field) with
    | none => rfl
    | some ordering => cases ordering <;> rfl

/-- Where a value is related, every greater one is. -/
lemma Predicate.admitsAt_of_rises {a b : Record} (ha : ∃ x, ValueAt (a.members.value field) type x)
    (hb : ∃ x, ValueAt (b.members.value field) type x) (hrises : Rises field type a b) {o : Operand}
    {y : type.Scale} (ho : OperandAt o type y) {relation : Relation}
    (hrelation : relation = .more ∨ relation = .moreOrEqual)
    (h : (Predicate.compare relation o).admitsAt field a = true) :
    (Predicate.compare relation o).admitsAt field b = true := by
  obtain ⟨x, hx⟩ := ha
  obtain ⟨z, hz⟩ := hb
  rw [admitsAt_compare_iff hx ho] at h
  rw [admitsAt_compare_iff hz ho]
  obtain rfl | rfl := hrelation
  · exact lt_of_lt_of_le h (hrises x z hx hz)
  · exact le_trans h (hrises x z hx hz)

/-- Where a value is related, every smaller one is. -/
lemma Predicate.admitsAt_of_falls {a b : Record} (ha : ∃ x, ValueAt (a.members.value field) type x)
    (hb : ∃ x, ValueAt (b.members.value field) type x) (hrises : Rises field type a b) {o : Operand}
    {y : type.Scale} (ho : OperandAt o type y) {relation : Relation}
    (hrelation : relation = .less ∨ relation = .lessOrEqual)
    (h : (Predicate.compare relation o).admitsAt field b = true) :
    (Predicate.compare relation o).admitsAt field a = true := by
  obtain ⟨x, hx⟩ := ha
  obtain ⟨z, hz⟩ := hb
  rw [admitsAt_compare_iff hz ho] at h
  rw [admitsAt_compare_iff hx ho]
  obtain rfl | rfl := hrelation
  · exact lt_of_le_of_lt (hrises x z hx hz) h
  · exact le_trans (hrises x z hx hz) h

end

/-! ## Listings -/

/-- In records that rise in a direction, those with a value of a field, a comparison with an operand
stands at the top or at the bottom, and what lies between two operands, or equals one, together. -/
lemma blocks_of_pairwise {field : String} {type : FieldType} {direction : Direction}
    {present : List Record} (hordered : type ≠ .float)
    (hrises : present.Pairwise (direction.Toward (Rises field type)))
    (hvalues : ∀ r ∈ present, ∃ x, ValueAt (r.members.value field) type x) {o : Operand}
    (ho : o.type = type) :
    (∀ relation, relation = .more ∨ relation = .moreOrEqual →
        direction.AtTop (present.filter ((Predicate.compare relation o).admitsAt field)) present) ∧
      (∀ relation, relation = .less ∨ relation = .lessOrEqual →
        direction.AtBottom (present.filter ((Predicate.compare relation o).admitsAt field)) present) ∧
      present.filter ((Predicate.compare .equal o).admitsAt field) <:+: present ∧
      ∀ high : Operand, high.type = type →
        present.filter ((Predicate.between o high).admitsAt field) <:+: present := by
  obtain ⟨y, hy⟩ := Operand.exists_operandAt hordered ho
  have hup : ∀ relation, relation = .more ∨ relation = .moreOrEqual → ∀ a ∈ present, ∀ b ∈ present,
      Rises field type a b → (Predicate.compare relation o).admitsAt field a = true →
        (Predicate.compare relation o).admitsAt field b = true :=
    fun _ hrelation a ha b hb hab =>
      Predicate.admitsAt_of_rises (hvalues a ha) (hvalues b hb) hab hy hrelation
  have hbetween : ∀ high : Operand, high.type = type →
      present.filter ((Predicate.between o high).admitsAt field) <:+: present := by
    intro high hhigh
    obtain ⟨z, hz⟩ := Operand.exists_operandAt hordered hhigh
    rw [Predicate.admitsAt_between]
    exact Direction.filter_isInfix hrises (hup .moreOrEqual (.inr rfl)) fun a ha b hb hab =>
      Predicate.admitsAt_of_falls (hvalues a ha) (hvalues b hb) hab hz (.inr rfl)
  refine ⟨fun relation hrelation => Direction.atTop_filter hrises (hup relation hrelation),
    fun relation hrelation => Direction.atBottom_filter hrises fun a ha b hb hab =>
      Predicate.admitsAt_of_falls (hvalues a ha) (hvalues b hb) hab hy hrelation, ?_, hbetween⟩
  rw [Predicate.admitsAt_equal]
  exact hbetween o ho

/-- Sorted by a field, the records with a value come first. Among them those greater than an operand
stand at one end by the direction, those smaller at the other, and those equal to one or between two
stand together. -/
theorem MemoryStore.find_blocks {store : MemoryStore} (hform : ∀ r ∈ store.records, r.HasForm)
    {field : String} {type : FieldType} (hordered : type ≠ .float)
    (hfield : (store.schema.field? field).map (·.type) = some type)
    (hkeeps : ∀ r ∈ store.records, r.Keeps field type) {options : FindOptions} {direction : Direction}
    (horder : options.order.entries = [(field, direction)]) :
    ∃ present missing,
      Store.find options store = (.ok (present ++ missing), store.counted) ∧
      (∀ r ∈ present, (r.members.value field).isNull = false) ∧
      (∀ r ∈ missing, (r.members.value field).isNull = true ∧
        ∀ p : Predicate, p.admitsAt field r = false) ∧
      ∀ o : Operand, o.type = type →
        (∀ relation, relation = .more ∨ relation = .moreOrEqual →
          direction.AtTop (present.filter ((Predicate.compare relation o).admitsAt field)) present) ∧
        (∀ relation, relation = .less ∨ relation = .lessOrEqual →
          direction.AtBottom (present.filter ((Predicate.compare relation o).admitsAt field)) present) ∧
        present.filter ((Predicate.compare .equal o).admitsAt field) <:+: present ∧
        ∀ high : Operand, high.type = type →
          present.filter ((Predicate.between o high).admitsAt field) <:+: present := by
  rw [find_eq hform]
  generalize hfound : window options
    (PagedListing.listing store.schema options.filters options.order store.records) = found
  have hwindow := window_sublist options
    (PagedListing.listing store.schema options.filters options.order store.records)
  rw [hfound] at hwindow
  have hfoundKeeps : ∀ r ∈ found, r.Keeps field type :=
    fun r hr => hkeeps r (admits_of_mem_listing (hwindow.subset hr)).1
  have hpreorder := (preorderOn_rowLe hfield horder hkeeps).subset
    (List.filter_sublist (p := options.filters.admits)).subset
  have hsorted : found.Pairwise fun a b =>
      ((a.members.value field).isNull = true → (b.members.value field).isNull = true) ∧
        direction.Toward (Rises field type) a b :=
    ((pairwise_mergeSort hpreorder).sublist hwindow).imp_of_mem fun ha hb hle =>
      (rowLe_iff_rises hfield horder (hfoundKeeps _ ha) (hfoundKeeps _ hb)).mp hle
  -- a record without a value has none with a value behind it
  have hcut : found.filter (fun r => !(r.members.value field).isNull) ++
      found.filter (fun r => (r.members.value field).isNull) = found :=
    filter_not_append_filter (hsorted.imp And.left)
  have hnull : ∀ r ∈ found.filter (fun r => (r.members.value field).isNull),
      (r.members.value field).isNull = true := fun r hr => (List.mem_filter.mp hr).2
  have hpresent : ∀ r ∈ found.filter (fun r => !(r.members.value field).isNull),
      (r.members.value field).isNull = false := by
    intro r hr
    simpa only [Bool.not_eq_true'] using (List.mem_filter.mp hr).2
  refine ⟨_, _, by rw [hcut], hpresent,
    fun r hr => ⟨hnull r hr, Predicate.admitsAt_of_isNull (hnull r hr)⟩, fun o ho => ?_⟩
  refine blocks_of_pairwise hordered ((hsorted.imp And.right).sublist List.filter_sublist) ?_ ho
  exact fun r hr => (hfoundKeeps r (List.mem_filter.mp hr).1).exists_valueAt (hpresent r hr)

/-- Visits at some times, two of them at the same one and one without a time. -/
def visits : MemoryStore where
  schema := ⟨"visits", [⟨"id", .integer⟩, ⟨"at", .timestamp⟩]⟩
  records := [.ofJson 1 (.obj [("id", .int 1), ("at", .str "2024-03-01T09:00:00+09:00")]),
    .ofJson 2 (.obj [("id", .int 2)]), .ofJson 3 (.obj [("id", .int 3), ("at", .str "2024-03-01")]),
    .ofJson 4 (.obj [("id", .int 4), ("at", .str "2024-02-29 23:59:59.5")])]

/-- All, from the latest one on. -/
def fromLatest : FindOptions where
  order := .ofList [("at", .descending)]

/-- The visits from midnight on stand at the front of the listing from the latest one on, and those
at midnight together. -/
theorem find_blocks_visits :
    (∀ r ∈ visits.records, r.HasForm ∧ r.Keeps "at" .timestamp) ∧
      ∃ present missing, Store.find fromLatest visits = (.ok (present ++ missing), visits.counted) ∧
        (present.filter ((Predicate.compare .moreOrEqual (.timestamp ⟨1709251200, 0⟩)).admitsAt "at")
          <+: present) ∧
        present.filter ((Predicate.compare .equal (.timestamp ⟨1709251200, 0⟩)).admitsAt "at")
          <:+: present := by
  have hrecords : ∀ r ∈ visits.records, r.HasForm ∧ r.Keeps "at" .timestamp := by
    intro r hr
    simp only [visits, List.mem_cons, List.not_mem_nil, or_false] at hr
    obtain rfl | rfl | rfl | rfl := hr
    · exact ⟨⟨_, rfl⟩, .inr ⟨_, .timestamp (t := ⟨1709251200, 0⟩) (by decide)⟩⟩
    · exact ⟨⟨_, rfl⟩, .inl rfl⟩
    · exact ⟨⟨_, rfl⟩, .inr ⟨_, .timestamp (t := ⟨1709251200, 0⟩) (by decide)⟩⟩
    · exact ⟨⟨_, rfl⟩, .inr ⟨_, .timestamp (t := ⟨1709251199, 500000000⟩) (by decide)⟩⟩
  have hordered : FieldType.timestamp ≠ .float := by decide
  have horder : fromLatest.order.entries = [("at", .descending)] := rfl
  obtain ⟨present, missing, hfind, -, -, hblocks⟩ := MemoryStore.find_blocks
    (fun r hr => (hrecords r hr).1) hordered rfl (fun r hr => (hrecords r hr).2) horder
  obtain ⟨htop, -, hequal, -⟩ := hblocks (.timestamp ⟨1709251200, 0⟩) rfl
  exact ⟨hrecords, present, missing, hfind, htop .moreOrEqual (.inr rfl), hequal⟩

end PagedListing

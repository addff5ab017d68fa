import Mathlib.Data.List.Lex
import Mathlib.Data.Prod.Lex
import Mathlib.Data.String.Basic
import Mathlib.Order.Compare
import PagedListing.Proofs.Filter.Operator
import PagedListing.Proofs.Number.Decimal
import PagedListing.Proofs.Text.Utf8

/-!
# Operators and the order of their type

Every type but that of doubles has a scale: the integers, the texts by their bytes, the booleans, and
the instants by seconds, then nanoseconds. Operands and the values of a record have their places on it,
and they compare as their places do (`FieldType.ValueAt.compare_operand`). So what an operator makes of a
text holds of a value exactly if the relation that the operator names holds of their places
(`Operator.build_relates`).
-/

namespace PagedListing

open PagedListing.Number (readInt64?)
open PagedListing.Time (Instant)

/-- The bytes of a text. -/
def Text.bytes (s : String) : List ℕ := (utf8Encode s.toList).map UInt8.toNat

/-- The place of an instant in time. -/
def Time.Instant.place (t : Instant) : ℤ ×ₗ ℕ := toLex (t.seconds, t.nanos)

namespace FieldType

/-- The places that values of a type can have. Doubles have none here: an undefined one compares with
nothing. -/
def Scale : FieldType → Type
  | integer => ℤ
  | float => Empty
  | text => List ℕ
  | boolean => Bool
  | timestamp => ℤ ×ₗ ℕ

/-- The order of a type. -/
instance Scale.linearOrder : (type : FieldType) → LinearOrder type.Scale
  | integer => inferInstanceAs (LinearOrder ℤ)
  | float => inferInstanceAs (LinearOrder Empty)
  | text => inferInstanceAs (LinearOrder (List ℕ))
  | boolean => inferInstanceAs (LinearOrder Bool)
  | timestamp => inferInstanceAs (LinearOrder (ℤ ×ₗ ℕ))

/-- A text of a parameter that is read as a value of a type, and the place of the value. Blanks around it
count for texts only. -/
inductive TextAt (raw : String) : (type : FieldType) → type.Scale → Prop
  | integer {n : Int64} (h : readInt64? (Text.trim raw).toList = some n) : TextAt raw .integer n.toInt
  | text : TextAt raw .text (Text.bytes raw)
  | boolean {b : Bool} (h : Operand.readBool? (Text.trim raw) = some b) : TextAt raw .boolean b
  | timestamp {t : Instant} (h : Instant.read? (Text.trim raw) = some t) :
    TextAt raw .timestamp t.place

/-- An operand of a type, and its place. -/
inductive OperandAt : Operand → (type : FieldType) → type.Scale → Prop
  | integer (n : Int64) : OperandAt (.integer n) .integer n.toInt
  | text (s : String) : OperandAt (.text s) .text (Text.bytes s)
  | boolean (b : Bool) : OperandAt (.boolean b) .boolean b
  | timestamp (t : Instant) : OperandAt (.timestamp t) .timestamp t.place

/-- A value of a record that is of a type, and its place: an integer of 64 bits, a text, a boolean, or a
text that is read as an instant. -/
inductive ValueAt : Json → (type : FieldType) → type.Scale → Prop
  | integer (n : Int64) : ValueAt (.int n.toInt) .integer n.toInt
  | text (s : String) : ValueAt (.str s) .text (Text.bytes s)
  | boolean (b : Bool) : ValueAt (.bool b) .boolean b
  | timestamp {s : String} {t : Instant} (h : Instant.read? s = some t) :
    ValueAt (.str s) .timestamp t.place

end FieldType

namespace Relation

/-- A relation of two places in an order. -/
def Relates {α : Type} [LinearOrder α] : Relation → α → α → Prop
  | equal, x, y => x = y
  | unequal, x, y => x ≠ y
  | more, x, y => x > y
  | moreOrEqual, x, y => x ≥ y
  | less, x, y => x < y
  | lessOrEqual, x, y => x ≤ y

/-- Whether a relation holds of two values is decided by the order of their type. -/
instance Relates.decidable {α : Type} [LinearOrder α] :
    (relation : Relation) → (x y : α) → Decidable (relation.Relates x y)
  | equal, x, y => inferInstanceAs (Decidable (x = y))
  | unequal, x, y => inferInstanceAs (Decidable (x ≠ y))
  | more, x, y => inferInstanceAs (Decidable (x > y))
  | moreOrEqual, x, y => inferInstanceAs (Decidable (x ≥ y))
  | less, x, y => inferInstanceAs (Decidable (x < y))
  | lessOrEqual, x, y => inferInstanceAs (Decidable (x ≤ y))

/-- The relation that holds exactly where another does not. -/
def opposite : Relation → Relation
  | equal => unequal
  | unequal => equal
  | more => lessOrEqual
  | moreOrEqual => less
  | less => moreOrEqual
  | lessOrEqual => more

/-- A relation holds of how two values compare where it relates the values. -/
lemma holds_iff_of_compares {α : Type} [LinearOrder α] {x y : α} {o : Ordering}
    (h : o.Compares x y) (relation : Relation) : relation.holds o = true ↔ relation.Relates x y := by
  cases relation with
  | equal => exact decide_eq_true_iff.trans h.eq_eq
  | unequal => exact decide_eq_true_iff.trans h.eq_eq.not
  | more => exact decide_eq_true_iff.trans h.eq_gt
  | moreOrEqual => exact decide_eq_true_iff.trans h.ne_lt
  | less => exact decide_eq_true_iff.trans h.eq_lt
  | lessOrEqual => exact decide_eq_true_iff.trans h.ne_gt

/-- The opposite relation relates the pairs that a relation does not. -/
lemma relates_opposite_iff {α : Type} [LinearOrder α] (relation : Relation) (x y : α) :
    relation.opposite.Relates x y ↔ ¬ relation.Relates x y := by
  cases relation with
  | equal => rfl
  | unequal => exact not_not.symm
  | more | less => exact not_lt.symm
  | moreOrEqual | lessOrEqual => exact not_le.symm

end Relation

/-- Texts are ordered as their bytes are. -/
lemma Text.strictMono_bytes : StrictMono bytes := by
  intro s t h
  have hbytes := utf8Encode_lt (String.lt_iff_toList_lt.mp h)
  exact List.map_lt (fun a b hab => UInt8.lt_iff_toNat_lt.mp hab) hbytes

/-- How two values of a linear order compare tells their order. -/
lemma compares_compare {α : Type} [LinearOrder α] (x y : α) : (compare x y).Compares x y := by
  rw [← cmp_eq_compare]
  exact cmp_compares x y

/-- Instants compare by their places on the scale. -/
lemma Time.Instant.compare_place (s t : Instant) : compare s.place t.place = compare s t := rfl

open FieldType (TextAt OperandAt ValueAt)

/-- A value on a scale is not null. -/
lemma FieldType.ValueAt.isNull {type : FieldType} {value : Json} {x : type.Scale}
    (h : ValueAt value type x) : value.isNull = false := by
  cases h <;> rfl

/-- A text has one place among the values of a type. -/
lemma FieldType.TextAt.unique {type : FieldType} {raw : String} {y z : type.Scale}
    (hy : TextAt raw type y) (hz : TextAt raw type z) : y = z := by
  cases hy with
  | text =>
    cases hz
    rfl
  | integer hread =>
    cases hz with
    | integer hread' => rw [Option.some.inj (hread.symm.trans hread')]
  | boolean hread =>
    cases hz with
    | boolean hread' => exact Option.some.inj (hread.symm.trans hread')
  | timestamp hread =>
    cases hz with
    | timestamp hread' => rw [Option.some.inj (hread.symm.trans hread')]

/-- An operand of a type has a place. -/
lemma Operand.exists_operandAt {type : FieldType} (hordered : type ≠ .float) {o : Operand}
    (htype : o.type = type) : ∃ y, OperandAt o type y := by
  cases o with
  | float _ => exact absurd htype.symm hordered
  | integer n => exact htype ▸ ⟨_, .integer n⟩
  | text s => exact htype ▸ ⟨_, .text s⟩
  | boolean b => exact htype ▸ ⟨_, .boolean b⟩
  | timestamp t => exact htype ▸ ⟨_, .timestamp t⟩

/-- A value compares with an operand as its place does with that of the operand. -/
lemma FieldType.ValueAt.compare_operand {type : FieldType} {value : Json} {o : Operand}
    {x y : type.Scale} (hvalue : ValueAt value type x) (ho : OperandAt o type y) :
    ∃ ordering, o.compare? value = some ordering ∧ ordering.Compares x y := by
  cases ho with
  | integer n =>
    cases hvalue with
    | integer m =>
      refine ⟨compare m.toInt n.toInt, ?_, compares_compare m.toInt n.toInt⟩
      simp only [Operand.compare?, Json.asInt64?, Number.int64?_toInt]
  | text t =>
    cases hvalue with
    | text s =>
      -- texts compare character by character, and their bytes keep that order
      exact ⟨compare s t, rfl, Text.strictMono_bytes.compares.mpr (compares_compare s t)⟩
  | boolean b =>
    cases hvalue with
    | boolean => exact ⟨compare (α := Bool) x b, rfl, compares_compare (α := Bool) x b⟩
  | timestamp t =>
    cases hvalue with
    | @timestamp s u hu =>
      -- instants compare by seconds, then by nanoseconds, as their places do
      refine ⟨compare u t, ?_, ?_⟩
      · simp only [Operand.compare?, Json.asString?, Option.bind_some, hu, Option.map_some]
      · rw [← Time.Instant.compare_place]
        exact compares_compare u.place t.place

/-- What is read as an operand of a type is at the place of its text. -/
lemma Operand.exists_place {type : FieldType} (hordered : type ≠ .float) {raw : String} {o : Operand}
    (hread : read? type raw = some o) : ∃ y, TextAt raw type y ∧ OperandAt o type y := by
  cases type with
  | float => exact absurd rfl hordered
  | text =>
    cases hread
    exact ⟨_, .text, .text raw⟩
  | integer =>
    simp only [read?, Option.map_eq_some_iff] at hread
    obtain ⟨n, hn, rfl⟩ := hread
    exact ⟨_, .integer hn, .integer n⟩
  | boolean =>
    simp only [read?, Option.map_eq_some_iff] at hread
    obtain ⟨b, hb, rfl⟩ := hread
    exact ⟨_, .boolean hb, .boolean b⟩
  | timestamp =>
    simp only [read?, Option.map_eq_some_iff] at hread
    obtain ⟨t, ht, rfl⟩ := hread
    exact ⟨_, .timestamp ht, .timestamp t⟩

/-- A value stands in a relation to an operand if its place does to that of the operand. -/
lemma Predicate.related_iff {type : FieldType} {value : Json} {o : Operand} {x y : type.Scale}
    (hvalue : ValueAt value type x) (ho : OperandAt o type y) (relation : Relation) :
    related value relation o = true ↔ relation.Relates x y := by
  obtain ⟨ordering, hcompare, h⟩ := hvalue.compare_operand ho
  rw [related, hcompare, Option.any_some, Relation.holds_iff_of_compares h]

/-- A value stands in a relation to what is read of a text if its place does to that of the text. -/
lemma Predicate.exists_related_iff {type : FieldType} (hordered : type ≠ .float) {raw : String}
    {o : Operand} (hread : Operand.read? type raw = some o) :
    ∃ y, TextAt raw type y ∧ ∀ {value} relation x, ValueAt value type x →
      (related value relation o = true ↔ relation.Relates x y) := by
  obtain ⟨y, htext, ho⟩ := Operand.exists_place hordered hread
  exact ⟨y, htext, fun relation _ hvalue => related_iff hvalue ho relation⟩

/-- Two values without commas are the two pieces of a list. -/
lemma Operator.listPieces_pair {low high : String} (hlow : ',' ∉ low.toList)
    (hhigh : ',' ∉ high.toList) : listPieces (low ++ "," ++ high) = [low, high] := by
  have hcomma : ∀ t ∈ [low, high], ',' ∉ t.toList := by
    intro t ht
    cases List.mem_cons.mp ht with
    | inl e => exact e ▸ hlow
    | inr ht => exact List.mem_singleton.mp ht ▸ hhigh
  have hpieces := listPieces_intercalate (List.cons_ne_nil low [high]) hcomma
  exact hpieces

/-- Operators mean the order of their type, from text to decision: what is made of an accepted text
holds of the values that stand in the relation to it, and what is made of two texts of those from the
one to the other. -/
theorem Operator.build_relates (field : String) {type : FieldType} (hordered : type ≠ .float) :
    (∀ raw o, Operand.read field type raw = .ok o → ∃ y, TextAt raw type y ∧
      ∀ relation, ∃ p q, (compare relation).build field type raw = .ok p ∧
        (compare relation.opposite).build field type raw = .ok q ∧ p.operator = compare relation ∧
        ∀ value x, ValueAt value type x →
          (p.holds value = true ↔ relation.Relates x y) ∧
          (q.holds value = true ↔ ¬ p.holds value = true)) ∧
    (∀ low high a b, ',' ∉ low.toList → ',' ∉ high.toList → Operand.read field type low = .ok a →
      Operand.read field type high = .ok b →
      ∃ y z p, TextAt low type y ∧ TextAt high type z ∧
        between.build field type (low ++ "," ++ high) = .ok p ∧ p.operator = between ∧
        ∀ value x, ValueAt value type x → (p.holds value = true ↔ y ≤ x ∧ x ≤ z)) := by
  constructor
  · intro raw o hread
    obtain ⟨y, htext, hrelated⟩ :=
      Predicate.exists_related_iff hordered (Operand.read_eq_ok_iff.mp hread)
    have hholds : ∀ relation value x, ValueAt value type x →
        ((Predicate.compare relation o).holds value = true ↔ relation.Relates x y) := by
      intro relation value x hvalue
      rw [Predicate.holds, hvalue.isNull]
      exact hrelated relation x hvalue
    have hbuild : ∀ relation, (compare relation).build field type raw = .ok (.compare relation o) :=
      fun relation => build_eq_ok_iff.mpr (.compare relation hread)
    refine ⟨y, htext, fun relation => ⟨_, _, hbuild relation, hbuild relation.opposite,
      Predicate.operator_of_build (hbuild relation), fun value x hvalue => ?_⟩⟩
    rw [hholds _ _ _ hvalue, hholds _ _ _ hvalue]
    exact ⟨Iff.rfl, Relation.relates_opposite_iff relation x y⟩
  · intro low high a b hlow hhigh hreadLow hreadHigh
    obtain ⟨y, htextLow, hrelatedLow⟩ :=
      Predicate.exists_related_iff hordered (Operand.read_eq_ok_iff.mp hreadLow)
    obtain ⟨z, htextHigh, hrelatedHigh⟩ :=
      Predicate.exists_related_iff hordered (Operand.read_eq_ok_iff.mp hreadHigh)
    have hbuild : between.build field type (low ++ "," ++ high) = .ok (.between a b) :=
      build_eq_ok_iff.mpr (.between (listPieces_pair hlow hhigh) hreadLow hreadHigh)
    refine ⟨y, z, _, htextLow, htextHigh, hbuild, Predicate.operator_of_build hbuild,
      fun value x hvalue => ?_⟩
    rw [Predicate.holds, hvalue.isNull]
    exact Bool.and_eq_true_iff.trans
      (and_congr (hrelatedLow .moreOrEqual x hvalue) (hrelatedHigh .lessOrEqual x hvalue))

/-- Integers that doubles do not tell apart are told apart, and a range takes its bounds in. -/
theorem Operator.build_relates_large :
    FieldType.integer ≠ .float ∧
      (∃ p, (compare .more).build "id" .integer "9007199254740992" = .ok p ∧
        p.holds (.int 9007199254740993) = true ∧ p.holds (.int 9007199254740992) = false) ∧
      ∃ p, between.build "id" .integer "9007199254740992, 9007199254740993" = .ok p ∧
        p.holds (.int 9007199254740993) = true := by
  have hordered : FieldType.integer ≠ .float := by decide
  have hlow : TextAt "9007199254740992" .integer (Int64.toInt 9007199254740992) :=
    .integer (by decide)
  have hhigh : TextAt " 9007199254740993" .integer (Int64.toInt 9007199254740993) :=
    .integer (by decide)
  have hvalue : ValueAt (.int 9007199254740993) .integer (Int64.toInt 9007199254740993) :=
    .integer 9007199254740993
  have hbound : ValueAt (.int 9007199254740992) .integer (Int64.toInt 9007199254740992) :=
    .integer 9007199254740992
  obtain ⟨hcompare, hbetween⟩ := build_relates "id" hordered
  refine ⟨hordered, ?_, ?_⟩
  · obtain ⟨y, hy, hrelation⟩ := hcompare "9007199254740992" (.integer 9007199254740992) (by decide)
    obtain rfl := hy.unique hlow
    obtain ⟨p, _, hbuild, -, -, hholds⟩ := hrelation .more
    have hmore : Relation.more.Relates (Int64.toInt 9007199254740993)
        (Int64.toInt 9007199254740992) := by decide
    have hsame : ¬ Relation.more.Relates (Int64.toInt 9007199254740992)
        (Int64.toInt 9007199254740992) := by decide
    exact ⟨p, hbuild, (hholds _ _ hvalue).1.mpr hmore,
      Bool.eq_false_iff.mpr (mt (hholds _ _ hbound).1.mp hsame)⟩
  · obtain ⟨y, z, p, hy, hz, hbuild, -, hholds⟩ := hbetween "9007199254740992" " 9007199254740993"
      (.integer 9007199254740992) (.integer 9007199254740993) (by decide) (by decide) (by decide)
      (by decide)
    obtain rfl := hy.unique hlow
    obtain rfl := hz.unique hhigh
    have hwithin : Int64.toInt 9007199254740992 ≤ Int64.toInt 9007199254740993 ∧
        Int64.toInt 9007199254740993 ≤ Int64.toInt 9007199254740993 := by decide
    exact ⟨p, hbuild, (hholds _ _ hvalue).mpr hwithin⟩

end PagedListing

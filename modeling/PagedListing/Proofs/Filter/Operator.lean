import PagedListing.Filter.Operator
import PagedListing.Proofs.Steps
import PagedListing.Proofs.Text.Pieces

/-!
# What operators build

`Operator.Builds` says case by case what an operator makes of a value for a field of a type, and
`Operator.build_eq_ok_iff` that nothing else is made. So the predicate tells its operator
(`Predicate.operator_of_build`) and suits the type (`Predicate.suits_of_build`): its operands are of the
type, only a text is searched, and a membership has members. It asks for the empty text exactly if it is
made of an empty value (`Predicate.asksEmpty_of_build`).
-/

namespace PagedListing
open PagedListing.Steps

/-- What is read as an operand of a type has this type. -/
lemma Operand.type_of_read {field raw : String} {type : FieldType} {o : Operand}
    (h : Operand.read field type raw = .ok o) : o.type = type := by
  rw [Operand.read] at h
  split at h
  · rename_i v hread
    cases h
    cases type with
    | text =>
      simp only [Operand.read?, Option.some.injEq] at hread
      rw [← hread, Operand.type]
    | integer | float | boolean | timestamp =>
      simp only [Operand.read?, Option.map_eq_some_iff] at hread
      obtain ⟨n, -, e⟩ := hread
      rw [← e, Operand.type]
  · cases h

/-- An operand is read exactly if the value has the form of its type. -/
lemma Operand.read_eq_ok_iff {field raw : String} {type : FieldType} {o : Operand} :
    Operand.read field type raw = .ok o ↔ Operand.read? type raw = some o := by
  unfold Operand.read
  split
  · rename_i v hread
    rw [hread, Except.ok.injEq, Option.some.injEq]
  · rename_i hread
    rw [hread]
    exact ⟨nofun, nofun⟩

/-- Values without commas are the pieces of what they are joined to. -/
lemma Operator.listPieces_intercalate {texts : List String} (hne : texts ≠ [])
    (hcomma : ∀ t ∈ texts, ',' ∉ t.toList) : listPieces (",".intercalate texts) = texts := by
  have hpieces : Text.pieces ',' (",".intercalate texts).toList = texts.map String.toList := by
    rw [String.toList_intercalate]
    refine Text.pieces_intercalate (fun h => hne (List.map_eq_nil_iff.mp h)) fun p hp => ?_
    obtain ⟨t, ht, rfl⟩ := List.mem_map.mp hp
    exact hcomma t ht
  rw [listPieces, hpieces, List.map_map]
  exact List.map_id'' (fun t => String.ofList_toList) texts

/-- What an operator makes of a value for a field of a type. -/
inductive Operator.Builds (field : String) (type : FieldType) (raw : String) :
    Operator → Predicate → Prop
  | compare (relation : Relation) {o : Operand} (hread : Operand.read field type raw = .ok o) :
    Builds field type raw (.compare relation) (.compare relation o)
  | between {low high : String} {a b : Operand} (hpieces : listPieces raw = [low, high])
    (hlow : Operand.read field type low = .ok a) (hhigh : Operand.read field type high = .ok b) :
    Builds field type raw .between (.between a b)
  | among {operands : List Operand} (hne : listItems raw ≠ [])
    (hread : (listItems raw).mapM (Operand.read field type) = .ok operands) :
    Builds field type raw .among (.among operands)
  | like (ignoreCase : Bool) (htype : type = .text) :
    Builds field type raw (.like ignoreCase) (.like raw ignoreCase)

/-- What an operator builds is described by the form of its value. -/
theorem Operator.build_eq_ok_iff {op : Operator} {field raw : String} {type : FieldType}
    {p : Predicate} : op.build field type raw = .ok p ↔ op.Builds field type raw p := by
  constructor
  · intro h
    unfold build at h
    cases op with
    | compare relation =>
      obtain ⟨o, hread, h⟩ := bind_eq_ok_iff.mp h
      cases h
      exact .compare relation hread
    | between =>
      dsimp only at h
      split at h
      · rename_i hpieces
        obtain ⟨low, hlow, h⟩ := bind_eq_ok_iff.mp h
        obtain ⟨high, hhigh, h⟩ := bind_eq_ok_iff.mp h
        cases h
        exact .between hpieces hlow hhigh
      · cases h
    | among =>
      dsimp only at h
      split at h
      · cases h
      · rename_i hitems
        obtain ⟨operands, hread, h⟩ := bind_eq_ok_iff.mp h
        cases h
        exact .among hitems hread
    | like ignoreCase =>
      dsimp only at h
      split at h
      · rename_i htextual
        cases h
        exact .like ignoreCase (of_decide_eq_true htextual)
      · cases h
  · intro h
    cases h with
    | compare relation hread => exact bind_eq_ok_iff.mpr ⟨_, hread, rfl⟩
    | between hpieces hlow hhigh =>
      rw [build, hpieces]
      exact bind_eq_ok_iff.mpr ⟨_, hlow, bind_eq_ok_iff.mpr ⟨_, hhigh, rfl⟩⟩
    | among hne hread =>
      unfold build
      dsimp only
      split
      · rename_i hitems
        exact absurd hitems hne
      · exact bind_eq_ok_iff.mpr ⟨_, hread, rfl⟩
    | like ignoreCase htype =>
      subst htype
      rfl

/-- A predicate tells the operator that made it. -/
theorem Predicate.operator_of_build {op : Operator} {field raw : String} {type : FieldType}
    {p : Predicate} (h : op.build field type raw = .ok p) : p.operator = op := by
  cases Operator.build_eq_ok_iff.mp h <;> rfl

/-- A predicate that can be put on a field of a type. -/
structure Predicate.Suits (type : FieldType) (p : Predicate) : Prop where
  operands : ∀ o ∈ p.operands, o.type = type
  searched : ∀ needle ignoreCase, p = .like needle ignoreCase → type = .text
  nonempty : p ≠ .among []

/-- What an operator makes for a field suits the type of the field. -/
theorem Predicate.suits_of_build {op : Operator} {field raw : String} {type : FieldType}
    {p : Predicate} (h : op.build field type raw = .ok p) : p.Suits type := by
  cases Operator.build_eq_ok_iff.mp h with
  | compare relation hread =>
    refine ⟨fun o hmem => ?_, nofun, nofun⟩
    cases List.mem_singleton.mp hmem
    exact Operand.type_of_read hread
  | between hpieces hlow hhigh =>
    refine ⟨fun o hmem => ?_, nofun, nofun⟩
    cases List.mem_cons.mp hmem with
    | inl e => exact e ▸ Operand.type_of_read hlow
    | inr hmem =>
      cases List.mem_singleton.mp hmem
      exact Operand.type_of_read hhigh
  | among hne hread =>
    refine ⟨fun o hmem => ?_, nofun, ?_⟩
    · obtain ⟨item, -, hitem⟩ := (mem_iff_of_mapM_eq_ok hread).mp hmem
      exact Operand.type_of_read hitem
    · -- a list without items was refused
      rintro ⟨⟩
      exact hne (eq_nil_of_mapM_eq_ok_nil hread)
  | like ignoreCase htype => exact ⟨nofun, fun _ _ _ => htype, nofun⟩

/-- Whether a predicate compares with the empty text or searches for it. -/
def Predicate.asksEmpty : Predicate → Bool
  | compare _ (.text s) => s = ""
  | like needle _ => needle = ""
  | _ => false

/-- Only texts can be empty. -/
lemma Operand.read?_empty {type : FieldType} (h : type ≠ .text) : Operand.read? type "" = none := by
  cases type with
  | text => exact absurd rfl h
  | integer => rfl
  | float => rfl
  | boolean => rfl
  | timestamp => rfl

/-- A comparison asks for the empty text exactly if its value is empty. -/
lemma Predicate.asksEmpty_compare (relation : Relation) {field raw : String} {type : FieldType}
    {o : Operand} (h : Operand.read field type raw = .ok o) :
    (compare relation o).asksEmpty = decide (raw = "") := by
  have htype : o.type = type := Operand.type_of_read h
  have hraw : type ≠ .text → raw ≠ "" := by
    rintro hne rfl
    rw [Operand.read, Operand.read?_empty hne] at h
    cases h
  cases o with
  | text s =>
    subst htype
    cases h
    rfl
  | integer n => exact (decide_eq_false (hraw (htype ▸ nofun))).symm
  | float x => exact (decide_eq_false (hraw (htype ▸ nofun))).symm
  | boolean b => exact (decide_eq_false (hraw (htype ▸ nofun))).symm
  | timestamp t => exact (decide_eq_false (hraw (htype ▸ nofun))).symm

/-- The predicates of empty values are those that ask for the empty text. -/
theorem Predicate.asksEmpty_of_build {op : Operator} {field raw : String} {type : FieldType}
    {p : Predicate} (h : op.build field type raw = .ok p) : p.asksEmpty = decide (raw = "") := by
  cases Operator.build_eq_ok_iff.mp h with
  | compare relation hread => exact asksEmpty_compare relation hread
  | between hpieces hlow hhigh =>
    -- the empty value is one piece, and a range takes two
    have hraw : raw ≠ "" := by
      rintro rfl
      cases hpieces
    exact (decide_eq_false hraw).symm
  | among hne hread =>
    have hraw : raw ≠ "" := by
      rintro rfl
      exact hne rfl
    exact (decide_eq_false hraw).symm
  | like ignoreCase htype => rfl

end PagedListing

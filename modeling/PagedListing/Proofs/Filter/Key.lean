import Mathlib.Data.List.Basic
import Mathlib.Data.List.Infix
import Mathlib.Tactic.Lemma
import PagedListing.Filter.Directive
import PagedListing.Proofs.Steps

/-!
# Keys of directives

A key is cut into segments at its separators from the left (`segments_eq_iff`). The keys of directives
are those that are written by the grammar `Written`; every other key that begins like one is refused,
for its operator if the rest of it is in order and as a whole otherwise (`ofKey_grammar`).
-/

namespace PagedListing
open PagedListing.Steps

namespace Directive

/-! ## Cutting at separators -/

/-- What stands between the segments of a key. -/
def separator : List Char := ['_', '_']

/-- No separator stands in some characters. -/
def Whole (cs : List Char) : Prop :=
  ¬ separator <:+: cs

/-- Whether no separator begins in some characters can be decided. -/
instance (cs : List Char) : Decidable (Whole cs) :=
  inferInstanceAs (Decidable (¬ separator <:+: cs))

/-- The segments of a text that is cut from the left. The separator behind a segment is the first one in
the text: with one underscore of it behind the segment there is none yet. -/
inductive Cut : List Char → List (List Char) → Prop where
  | last {cs} : Whole cs → Cut cs [cs]
  | next {segment rest segments} :
    Whole (segment ++ ['_']) → Cut rest segments →
    Cut (segment ++ separator ++ rest) (segment :: segments)

/-- What is left of a whole text is whole. -/
lemma Whole.of_cons {c : Char} {cs : List Char} (h : Whole (c :: cs)) : Whole cs :=
  fun hpart => h (hpart.trans (List.suffix_cons c cs).isInfix)

/-- The front of a whole text is whole. -/
lemma Whole.of_append {cs ds : List Char} (h : Whole (cs ++ ds)) : Whole cs :=
  fun hpart => h (hpart.trans (List.prefix_append cs ds).isInfix)

/-- A text is whole if no separator begins it and the rest is whole. -/
lemma whole_cons_iff {c : Char} {cs : List Char} :
    Whole (c :: cs) ↔ ¬ separator <+: c :: cs ∧ Whole cs := by
  rw [Whole, List.infix_cons_iff, not_or, Whole]

/-- A separator at the front is seen in the first two characters. -/
lemma separator_prefix_iff {c : Char} {cs : List Char} :
    separator <+: c :: cs ↔ c = '_' ∧ cs.head? = some '_' := by
  cases cs with
  | nil => simp [separator]
  | cons d cs => simp [separator, List.cons_prefix_cons, eq_comm]

/-- A character that begins no separator belongs to the first segment. -/
lemma segments_cons {c : Char} {cs : List Char} (h : ¬ separator <+: c :: cs) :
    segments (c :: cs) = Text.extendFirst c (segments cs) := by
  refine segments.eq_3 c cs ?_
  rintro rest rfl rfl
  exact h (List.prefix_append separator rest)

/-- A whole text is its own only segment. -/
lemma segments_of_whole {cs : List Char} (h : Whole cs) : segments cs = [cs] := by
  induction cs with
  | nil => rfl
  | cons c cs ih =>
    rw [segments_cons (whole_cons_iff.mp h).1, ih h.of_cons]
    rfl

/-- A segment that no separator begins in is cut off at the separator behind it. -/
lemma segments_append {segment : List Char} (h : Whole (segment ++ ['_'])) (rest : List Char) :
    segments (segment ++ separator ++ rest) = segment :: segments rest := by
  induction segment with
  | nil => rfl
  | cons c segment ih =>
    have hfirst : ¬ separator <+: c :: (segment ++ separator ++ rest) := by
      -- its first two characters are those in front of the first underscore behind the segment
      have halone := (whole_cons_iff.mp h).1
      rw [separator_prefix_iff] at halone ⊢
      cases segment <;> exact halone
    rw [List.cons_append, List.cons_append, segments_cons hfirst, ih h.of_cons]
    rfl

/-- The segments of a text are its parts, where it is cut at the first separators. -/
lemma segments_of_cut {cs : List Char} {ss : List (List Char)} (h : Cut cs ss) :
    segments cs = ss := by
  induction h with
  | last hwhole => exact segments_of_whole hwhole
  | next hwhole _ ih => rw [segments_append hwhole, ih]

/-- One more character in front leaves the cuts where they are, unless it completes a separator. -/
lemma Cut.extendFirst {c : Char} {cs : List Char} {ss : List (List Char)} (h : Cut cs ss)
    (hfirst : ¬ separator <+: c :: cs) : Cut (c :: cs) (Text.extendFirst c ss) := by
  cases h with
  | last hwhole => exact .last (whole_cons_iff.mpr ⟨hfirst, hwhole⟩)
  | @next segment rest segments hwhole hrest =>
    have hwhole' : Whole (c :: segment ++ ['_']) := by
      refine whole_cons_iff.mpr ⟨?_, hwhole⟩
      rw [separator_prefix_iff] at hfirst ⊢
      cases segment <;> exact hfirst
    exact .next hwhole' hrest

/-- A text is cut into its segments. -/
lemma cut_segments (cs : List Char) : Cut cs (segments cs) := by
  induction cs using segments.induct with
  | case1 => exact .last (by decide)
  | case2 rest ih =>
    have hempty : Whole ([] ++ ['_']) := by decide
    exact .next hempty ih
  | case3 c rest hfirst ih =>
    have hno : ¬ separator <+: c :: rest := by
      rintro ⟨rest', e⟩
      cases e
      exact hfirst rest' rfl rfl
    rw [segments_cons hno]
    exact ih.extendFirst hno

/-- The segments of a key are those that it is cut into from the left. -/
theorem segments_eq_iff {cs : List Char} {ss : List (List Char)} : segments cs = ss ↔ Cut cs ss :=
  ⟨fun h => h ▸ cut_segments cs, segments_of_cut⟩

/-- A text of one part is whole. -/
lemma cut_singleton_iff {cs segment : List Char} :
    Cut cs [segment] ↔ cs = segment ∧ Whole segment := by
  constructor
  · intro h
    cases h with
    | last hwhole => exact ⟨rfl, hwhole⟩
    | next _ hrest => cases hrest
  · rintro ⟨rfl, hwhole⟩
    exact .last hwhole

/-- A text of more parts is cut at the first separator, and so is what stands behind it. -/
lemma cut_cons_iff {cs segment next : List Char} {ss : List (List Char)} :
    Cut cs (segment :: next :: ss) ↔
      Whole (segment ++ ['_']) ∧ ∃ rest, cs = segment ++ separator ++ rest ∧ Cut rest (next :: ss) := by
  constructor
  · intro h
    cases h with
    | next hwhole hrest => exact ⟨hwhole, _, rfl, hrest⟩
  · rintro ⟨hwhole, rest, rfl, hrest⟩
    exact .next hwhole hrest

end Directive

/-! ## Tokens -/

namespace Operator

/-- Every operator is among all operators. -/
lemma mem_all (operator : Operator) : operator ∈ all := by
  cases operator with
  | compare relation => cases relation <;> decide
  | between => decide
  | among => decide
  | like ignoreCase => cases ignoreCase <;> decide

/-- No two operators have the same token. -/
lemma token_injective {a b : Operator} (h : a.token = b.token) : a = b := by
  have hall : ∀ a ∈ all, ∀ b ∈ all, a.token = b.token → a = b := by decide
  exact hall a (mem_all a) b (mem_all b) h

/-- No operator has the empty token. -/
lemma token_ne_empty (operator : Operator) : operator.token ≠ "" := by
  have hall : ∀ a ∈ all, a.token ≠ "" := by decide
  exact hall operator (mem_all operator)

/-- No token is cut by a separator. -/
lemma whole_token (operator : Operator) : Directive.Whole operator.token.toList := by
  have hall : ∀ a ∈ all, Directive.Whole a.token.toList := by decide
  exact hall operator (mem_all operator)

/-- An operator is read from its own token only. -/
lemma ofToken_eq_ok_iff {token : String} {operator : Operator} :
    ofToken token = .ok operator ↔ operator.token = token := by
  rw [ofToken]
  split
  · rename_i found hfind
    have hfound : found.token = token := by simpa using List.find?_some hfind
    constructor
    · rintro ⟨⟩
      exact hfound
    · rintro rfl
      rw [token_injective hfound]
  · rename_i hfind
    refine ⟨nofun, fun h => ?_⟩
    exact absurd (decide_eq_true h) (List.find?_eq_none.mp hfind operator (mem_all operator))

/-- Every other token is refused as an unknown operator. -/
lemma ofToken_eq_error_iff {token : String} {e : Error} :
    ofToken token = .error e ↔
      e = .unknownOperator token ∧ ∀ operator : Operator, operator.token ≠ token := by
  constructor
  · intro h
    refine ⟨?_, fun operator htoken => ?_⟩
    · rw [ofToken] at h
      split at h
      · cases h
      · exact (Except.error.inj h).symm
    · rw [ofToken_eq_ok_iff.mpr htoken] at h
      cases h
  · rintro ⟨rfl, hunknown⟩
    have hnone : all.find? (·.token = token) = none :=
      List.find?_eq_none.mpr fun operator _ => by simpa using hunknown operator
    rw [ofToken, hnone]

end Operator

namespace Directive

/-! ## The keys of directives -/

/-- How directives are written. A field is read up to the first separator behind the mark, so none
stands in it, nor begins with its last character if an operator follows. -/
inductive Written : Directive → String → Prop where
  | filter {field} :
    isIdentifier field = true → Whole field.toList → Written (.filter field none) (filterMark ++ field)
  | filterBy {field} (operator : Operator) :
    isIdentifier field = true → Whole (field.toList ++ ['_']) →
    Written (.filter field (some operator)) (filterMark ++ field ++ "__" ++ operator.token)
  | order {field} :
    isIdentifier field = true → Whole field.toList → Written (.order field) (orderMark ++ field)

/-- A key that is cut into the segments of a filter by a field that could be one, with a token that no
operator has. -/
def NamesUnknown (key token : String) : Prop :=
  ∃ field, isIdentifier field = true ∧ token ≠ "" ∧ (∀ operator : Operator, operator.token ≠ token) ∧
    Cut key.toList ["where".toList, field.toList, token.toList]

/-- The segments of directives. -/
inductive Spells : Directive → List String → Prop where
  | filter {field} : isIdentifier field = true → Spells (.filter field none) ["where", field]
  | filterBy {field} (operator : Operator) :
    isIdentifier field = true →
    Spells (.filter field (some operator)) ["where", field, operator.token]
  | order {field} : isIdentifier field = true → Spells (.order field) ["order", field]

/-- Fields are checked for being identifiers. -/
lemma checkField_eq_ok_iff {key field result : String} :
    checkField key field = .ok result ↔ isIdentifier field = true ∧ field = result := by
  rw [checkField]
  split
  · rename_i h
    exact ⟨fun e => ⟨h, Except.ok.inj e⟩, fun e => e.2 ▸ rfl⟩
  · rename_i h
    exact ⟨nofun, fun e => absurd e.1 h⟩

/-- A field that is no identifier makes the whole key malformed. -/
lemma checkField_error {key field : String} {e : Error} (h : checkField key field = .error e) :
    e = .malformedKey key := by
  rw [checkField] at h
  split at h
  · cases h
  · exact (Except.error.inj h).symm

/-- Segments are read as the directive that they spell. -/
lemma ofSegments_eq_ok_iff {key : String} {ss : List String} {d : Directive} :
    ofSegments key ss = .ok d ↔ Spells d ss := by
  constructor
  · intro h
    unfold ofSegments at h
    split at h
    · obtain ⟨field, hfield, h⟩ := bind_eq_ok_iff.mp h
      obtain ⟨hidentifier, rfl⟩ := checkField_eq_ok_iff.mp hfield
      cases h
      exact .filter hidentifier
    · split at h
      · cases h
      · obtain ⟨field, hfield, h⟩ := bind_eq_ok_iff.mp h
        obtain ⟨hidentifier, rfl⟩ := checkField_eq_ok_iff.mp hfield
        obtain ⟨operator, htoken, h⟩ := bind_eq_ok_iff.mp h
        cases h
        cases Operator.ofToken_eq_ok_iff.mp htoken
        exact .filterBy operator hidentifier
    · obtain ⟨field, hfield, h⟩ := bind_eq_ok_iff.mp h
      obtain ⟨hidentifier, rfl⟩ := checkField_eq_ok_iff.mp hfield
      cases h
      exact .order hidentifier
    · cases h
  · intro h
    cases h with
    | filter hidentifier =>
      exact bind_eq_ok_iff.mpr ⟨_, checkField_eq_ok_iff.mpr ⟨hidentifier, rfl⟩, rfl⟩
    | filterBy operator hidentifier =>
      rw [ofSegments, if_neg (Operator.token_ne_empty operator)]
      exact bind_eq_ok_iff.mpr ⟨_, checkField_eq_ok_iff.mpr ⟨hidentifier, rfl⟩,
        bind_eq_ok_iff.mpr ⟨_, Operator.ofToken_eq_ok_iff.mpr rfl, rfl⟩⟩
    | order hidentifier =>
      exact bind_eq_ok_iff.mpr ⟨_, checkField_eq_ok_iff.mpr ⟨hidentifier, rfl⟩, rfl⟩

/-- Only the operator of a filter is refused for itself, when all else is in order. -/
lemma ofSegments_error {key : String} {ss : List String} {e : Error}
    (h : ofSegments key ss = .error e) :
    e = .malformedKey key ∨ ∃ field token, e = .unknownOperator token ∧
      ss = ["where", field, token] ∧ isIdentifier field = true ∧ token ≠ "" ∧
      ∀ operator : Operator, operator.token ≠ token := by
  unfold ofSegments at h
  split at h
  · cases bind_eq_error_iff.mp h with
    | inl h => exact .inl (checkField_error h)
    | inr h => cases h.choose_spec.2
  · rename_i field token
    split at h
    · exact .inl (Except.error.inj h).symm
    · rename_i htoken
      cases bind_eq_error_iff.mp h with
      | inl h => exact .inl (checkField_error h)
      | inr h =>
        obtain ⟨_, hfield, h⟩ := h
        obtain ⟨hidentifier, rfl⟩ := checkField_eq_ok_iff.mp hfield
        cases bind_eq_error_iff.mp h with
        | inl h =>
          obtain ⟨rfl, hunknown⟩ := Operator.ofToken_eq_error_iff.mp h
          exact .inr ⟨field, token, rfl, rfl, hidentifier, htoken, hunknown⟩
        | inr h => cases h.choose_spec.2
  · cases bind_eq_error_iff.mp h with
    | inl h => exact .inl (checkField_error h)
    | inr h => cases h.choose_spec.2
  · exact .inl (Except.error.inj h).symm

/-- A third segment that is no operator is refused by its name. -/
lemma ofSegments_unknown {key field token : String} (hidentifier : isIdentifier field = true)
    (htoken : token ≠ "") (hunknown : ∀ operator : Operator, operator.token ≠ token) :
    ofSegments key ["where", field, token] = .error (.unknownOperator token) := by
  rw [ofSegments, if_neg htoken, checkField_eq_ok_iff.mpr ⟨hidentifier, rfl⟩]
  show (Operator.ofToken token >>= _) = _
  rw [Operator.ofToken_eq_error_iff.mpr ⟨rfl, hunknown⟩]
  rfl

/-- The segments of a key are the parts into which its characters are cut. -/
lemma map_segments_iff {key : String} {ss : List String} :
    (segments key.toList).map String.ofList = ss ↔ Cut key.toList (ss.map String.toList) := by
  rw [← segments_eq_iff]
  constructor
  · rintro rfl
    simp [Function.comp_def]
  · intro h
    rw [h]
    simp [Function.comp_def]

/-- A key has two segments if a field that is whole stands behind its mark. -/
lemma map_segments_two_iff {key mark field : String} (hmark : Whole (mark.toList ++ ['_'])) :
    (segments key.toList).map String.ofList = [mark, field] ↔
      key = mark ++ "__" ++ field ∧ Whole field.toList := by
  simp only [map_segments_iff, List.map_cons, List.map_nil, cut_cons_iff, cut_singleton_iff,
    ← String.toList_inj, String.toList_append]
  constructor
  · rintro ⟨-, rest, e, rfl, hfield⟩
    exact ⟨e, hfield⟩
  · rintro ⟨e, hfield⟩
    exact ⟨hmark, _, e, rfl, hfield⟩

/-- A key has three segments if a field and an operator stand behind its mark, a separator in front of
each. -/
lemma map_segments_three_iff {key mark field token : String}
    (hmark : Whole (mark.toList ++ ['_'])) :
    (segments key.toList).map String.ofList = [mark, field, token] ↔
      key = mark ++ "__" ++ field ++ "__" ++ token ∧ Whole (field.toList ++ ['_']) ∧
        Whole token.toList := by
  simp only [map_segments_iff, List.map_cons, List.map_nil, cut_cons_iff, cut_singleton_iff,
    ← String.toList_inj, String.toList_append]
  constructor
  · rintro ⟨-, rest, e, hfield, last, rfl, rfl, htoken⟩
    refine ⟨?_, hfield, htoken⟩
    rw [e]
    simp [separator]
  · rintro ⟨e, hfield, htoken⟩
    refine ⟨hmark, _, ?_, hfield, _, rfl, rfl, htoken⟩
    rw [e]
    simp [separator]

/-- No separator begins inside the mark of filters. -/
lemma whole_where : Whole ("where".toList ++ ['_']) := by decide

/-- No separator begins inside the mark of orderings. -/
lemma whole_order : Whole ("order".toList ++ ['_']) := by decide

/-- The segments of a key spell a directive exactly if the key is written for it. -/
lemma spells_iff_written {key : String} {d : Directive} :
    Spells d ((segments key.toList).map String.ofList) ↔ Written d key := by
  constructor
  · intro h
    generalize hss : (segments key.toList).map String.ofList = ss at h
    cases h with
    | filter hidentifier =>
      obtain ⟨rfl, hwhole⟩ := (map_segments_two_iff whole_where).mp hss
      exact .filter hidentifier hwhole
    | filterBy operator hidentifier =>
      obtain ⟨rfl, hwhole, -⟩ := (map_segments_three_iff whole_where).mp hss
      exact .filterBy operator hidentifier hwhole
    | order hidentifier =>
      obtain ⟨rfl, hwhole⟩ := (map_segments_two_iff whole_order).mp hss
      exact .order hidentifier hwhole
  · intro h
    cases h with
    | @filter field hidentifier hwhole =>
      have hsegments : (segments (filterMark ++ field).toList).map String.ofList = ["where", field] :=
        (map_segments_two_iff whole_where).mpr ⟨rfl, hwhole⟩
      exact hsegments ▸ .filter hidentifier
    | @filterBy field operator hidentifier hwhole =>
      have hsegments : (segments (filterMark ++ field ++ "__" ++ operator.token).toList).map
          String.ofList = ["where", field, operator.token] :=
        (map_segments_three_iff whole_where).mpr ⟨rfl, hwhole, operator.whole_token⟩
      exact hsegments ▸ .filterBy operator hidentifier
    | @order field hidentifier hwhole =>
      have hsegments : (segments (orderMark ++ field).toList).map String.ofList = ["order", field] :=
        (map_segments_two_iff whole_order).mpr ⟨rfl, hwhole⟩
      exact hsegments ▸ .order hidentifier

/-! ## Every key -/

/-- A key of a directive begins with the mark of filters or that of orderings. -/
lemma isKey_eq_true_iff {key : String} : isKey key = true ↔
    filterMark.toList <+: key.toList ∨ orderMark.toList <+: key.toList := by
  rw [isKey, Bool.or_eq_true, List.isPrefixOf_iff_prefix, List.isPrefixOf_iff_prefix]

/-- A written directive has a key of a directive. -/
lemma isKey_of_written {key : String} {d : Directive} (h : Written d key) : isKey key = true := by
  rw [isKey_eq_true_iff]
  cases h with
  | filter =>
    rw [String.toList_append]
    exact .inl (List.prefix_append _ _)
  | filterBy =>
    simp only [String.toList_append, List.append_assoc]
    exact .inl (List.prefix_append _ _)
  | order =>
    rw [String.toList_append]
    exact .inr (List.prefix_append _ _)

/-- A key that names an unknown operator is a key of a directive. -/
lemma isKey_of_namesUnknown {key token : String} (h : NamesUnknown key token) :
    isKey key = true := by
  obtain ⟨field, -, -, -, hcut⟩ := h
  obtain ⟨-, rest, e, -⟩ := cut_cons_iff.mp hcut
  rw [isKey_eq_true_iff, e]
  exact .inl (List.prefix_append _ _)

/-- A directive has the key that is written for it. -/
lemma key_of_written {key : String} {d : Directive} (h : Written d key) : d.key = key := by
  cases h <;> rfl

/-- Only what begins with neither mark is no key of a directive. -/
lemma ofKey_eq_none_iff {key : String} : ofKey key = .ok none ↔ isKey key = false := by
  rw [ofKey]
  split
  · rename_i hkey
    rw [hkey, map_eq_ok_iff]
    exact ⟨fun h => (nomatch h.choose_spec.2), nofun⟩
  · rename_i hkey
    exact ⟨fun _ => eq_false_of_ne_true hkey, fun _ => rfl⟩

/-- A key is read as the directive that it is written for. -/
lemma ofKey_eq_some_iff {key : String} {d : Directive} :
    ofKey key = .ok (some d) ↔ Written d key := by
  rw [ofKey]
  split
  · rw [map_eq_ok_iff, ← spells_iff_written, ← ofSegments_eq_ok_iff]
    constructor
    · rintro ⟨_, hread, ⟨⟩⟩
      exact hread
    · exact fun hread => ⟨d, hread, rfl⟩
  · rename_i hkey
    exact ⟨nofun, fun h => absurd (isKey_of_written h) hkey⟩

/-- A key that cannot be read is malformed, or it names an unknown operator. -/
lemma ofKey_error {key : String} {e : Error} (h : ofKey key = .error e) :
    e = .malformedKey key ∨ ∃ token, e = .unknownOperator token ∧ NamesUnknown key token := by
  rw [ofKey] at h
  split at h
  · rw [map_eq_error_iff] at h
    obtain h | ⟨field, token, he, hsegments, hidentifier, htoken, hunknown⟩ := ofSegments_error h
    · exact .inl h
    · exact .inr ⟨token, he, field, hidentifier, htoken, hunknown, map_segments_iff.mp hsegments⟩
  · cases h

/-- A key that names an unknown operator is refused for that operator. -/
lemma ofKey_of_namesUnknown {key token : String} (h : NamesUnknown key token) :
    ofKey key = .error (.unknownOperator token) := by
  have hkey := isKey_of_namesUnknown h
  obtain ⟨field, hidentifier, htoken, hunknown, hcut⟩ := h
  have hsegments : (segments key.toList).map String.ofList = ["where", field, token] :=
    map_segments_iff.mpr hcut
  rw [ofKey, if_pos hkey, hsegments, ofSegments_unknown hidentifier htoken hunknown]
  rfl

/-- A key without a mark means nothing here. The others are the texts of the directives as which they
are read, or name an unknown operator in a filter that is otherwise in order, or are malformed. -/
theorem ofKey_grammar (key : String) :
    (ofKey key = .ok none ↔
      ¬ filterMark.toList <+: key.toList ∧ ¬ orderMark.toList <+: key.toList) ∧
    (∀ d, ofKey key = .ok (some d) ↔ Written d key) ∧
    (∀ d, ofKey key = .ok (some d) →
      d.key = key ∧ ∀ other, ofKey other = .ok (some d) → other = key) ∧
    (∀ token, ofKey key = .error (.unknownOperator token) ↔ NamesUnknown key token) ∧
    (ofKey key = .error (.malformedKey key) ↔
      (filterMark.toList <+: key.toList ∨ orderMark.toList <+: key.toList) ∧
        (∀ d, ¬ Written d key) ∧ ∀ token, ¬ NamesUnknown key token) := by
  refine ⟨?_, fun d => ofKey_eq_some_iff, fun d h => ?_, fun token => ⟨fun h => ?_,
    ofKey_of_namesUnknown⟩, ?_⟩
  · rw [ofKey_eq_none_iff, ← not_or, ← isKey_eq_true_iff, Bool.not_eq_true]
  · have hkey := key_of_written (ofKey_eq_some_iff.mp h)
    exact ⟨hkey, fun other hother => key_of_written (ofKey_eq_some_iff.mp hother) ▸ hkey⟩
  · obtain hmalformed | ⟨_, ⟨⟩, hunknown⟩ := ofKey_error h
    · cases hmalformed
    · exact hunknown
  · rw [← isKey_eq_true_iff]
    constructor
    · intro h
      refine ⟨?_, fun d hd => ?_, fun token htoken => ?_⟩
      · by_contra hkey
        rw [ofKey_eq_none_iff.mpr (eq_false_of_ne_true hkey)] at h
        cases h
      · rw [ofKey_eq_some_iff.mpr hd] at h
        cases h
      · rw [ofKey_of_namesUnknown htoken] at h
        cases h
    · rintro ⟨hkey, hwritten, hunknown⟩
      cases h : ofKey key with
      | ok read =>
        cases read with
        | none => exact absurd (ofKey_eq_none_iff.mp h) (by rw [hkey]; decide)
        | some d => exact absurd (ofKey_eq_some_iff.mp h) (hwritten d)
      | error e =>
        obtain rfl | ⟨token, -, htoken⟩ := ofKey_error h
        · rfl
        · exact absurd htoken (hunknown token)

-- of three underscores the first two separate
example : ofKey "where__a___in" = .error (.unknownOperator "_in") := by decide
example : ofKey "where___a" = .ok (some (.filter "_a" none)) := by decide

end Directive

end PagedListing

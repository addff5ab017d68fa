import PagedListing.Proofs.Sql.Like
import PagedListing.Sql.Statement

/-!
# Patterns by the rules of the standard

What a pattern with a backslash as its escape character describes is defined by rules, one for each
form that a pattern begins with (`Like.Describes`). Matching part by part follows these rules for every
pattern that no escape breaks off (`Like.matchParts_parts_iff`), so the pattern that is bound for a
search describes the texts of which the search is true (`Condition.boundPattern_describes`).
-/

namespace PagedListing.Sql
open PagedListing.Text

namespace Like

/-! ## The rules -/

/-- The texts that a pattern describes. -/
inductive Describes : List Char → List Char → Prop where
  | nil : Describes [] []
  | any {pattern text} (skipped : List Char) :
    Describes pattern text → Describes ('%' :: pattern) (skipped ++ text)
  | one {pattern text} (c : Char) : Describes pattern text → Describes ('_' :: pattern) (c :: text)
  | escaped {pattern text} (c : Char) :
    Describes pattern text → Describes ('\\' :: c :: pattern) (c :: text)
  | plain {pattern text c} :
    c ≠ '\\' → c ≠ '%' → c ≠ '_' → Describes pattern text → Describes (c :: pattern) (c :: text)

/-- No backslash is left at the end of a pattern without a character to take for itself. -/
def isComplete : List Char → Bool
  | [] => true
  | ['\\'] => false
  | '\\' :: _ :: pattern => isComplete pattern
  | _ :: pattern => isComplete pattern

/-- A character that escapes nothing does not change whether a pattern is complete. -/
lemma isComplete_cons {c : Char} (h : c ≠ '\\') (pattern : List Char) :
    isComplete (c :: pattern) = isComplete pattern :=
  isComplete.eq_4 c pattern (fun e _ => h e) fun _ _ e _ => h e

/-- An escaped character does not change whether a pattern is complete. -/
lemma isComplete_escapeChar (c : Char) (rest : List Char) :
    isComplete (escapeChar c ++ rest) = isComplete rest := by
  unfold escapeChar
  split
  · rfl
  · rename_i h
    exact isComplete_cons (not_or.mp h).1 rest

/-- Escaped characters do not change whether a pattern is complete. -/
lemma isComplete_escape (cs rest : List Char) :
    isComplete (escape cs ++ rest) = isComplete rest := by
  induction cs with
  | nil => rfl
  | cons c cs ih =>
    have hcons : escape (c :: cs) = escapeChar c ++ escape cs := List.flatMap_cons
    rw [hcons, List.append_assoc, isComplete_escapeChar, ih]

/-! ## Matching by the rules -/

/-- A property of a suffix holds if the text ends in one that has it. -/
lemma someSuffix_eq_true_iff {p : List Char → Bool} {cs : List Char} :
    someSuffix p cs = true ↔ ∃ skipped rest, cs = skipped ++ rest ∧ p rest = true := by
  induction cs with
  | nil => simp [someSuffix]
  | cons c cs ih =>
    rw [someSuffix, Bool.or_eq_true, ih]
    constructor
    · rintro (h | ⟨skipped, rest, rfl, h⟩)
      · exact ⟨[], c :: cs, rfl, h⟩
      · exact ⟨c :: skipped, rest, rfl, h⟩
    · rintro ⟨skipped, rest, e, h⟩
      cases skipped with
      | nil => exact .inl (e ▸ h)
      | cons d skipped =>
        cases e
        exact .inr ⟨skipped, rest, rfl, h⟩

/-- A character that stands for itself matches a text that begins with it. -/
lemma matchParts_literal {d : Char} {ps : List Part} {text : List Char} :
    matchParts (.literal d :: ps) text = true ↔
      ∃ rest, text = d :: rest ∧ matchParts ps rest = true := by
  cases text with
  | nil => exact ⟨nofun, fun ⟨_, e, _⟩ => nomatch e⟩
  | cons c text =>
    rw [matchParts, Bool.and_eq_true, decide_eq_true_eq]
    constructor
    · rintro ⟨rfl, h⟩
      exact ⟨text, rfl, h⟩
    · rintro ⟨rest, e, h⟩
      cases e
      exact ⟨rfl, h⟩

/-- Matching part by part follows the rules. -/
theorem matchParts_parts_iff {pattern text : List Char} (h : isComplete pattern = true) :
    matchParts (parts pattern) text = true ↔ Describes pattern text := by
  induction pattern using parts.induct generalizing text with
  | case1 =>
    rw [parts, matchParts, List.isEmpty_iff]
    exact ⟨fun e => e ▸ .nil, fun hdescribes => by cases hdescribes; rfl⟩
  | case2 c pattern ih =>
    rw [parts, matchParts_literal]
    constructor
    · rintro ⟨rest, rfl, hrest⟩
      exact .escaped c ((ih h).mp hrest)
    · intro hdescribes
      cases hdescribes with
      | escaped _ hrest => exact ⟨_, rfl, (ih h).mpr hrest⟩
      | plain hne => exact absurd rfl hne
  | case3 pattern ih =>
    rw [parts, matchParts, someSuffix_eq_true_iff]
    constructor
    · rintro ⟨skipped, rest, rfl, hrest⟩
      exact .any skipped ((ih h).mp hrest)
    · intro hdescribes
      cases hdescribes with
      | any skipped hrest => exact ⟨skipped, _, rfl, (ih h).mpr hrest⟩
      | plain _ hne => exact absurd rfl hne
  | case4 pattern ih =>
    rw [parts]
    constructor
    · intro hmatch
      cases text with
      | nil => cases hmatch
      | cons c text => exact .one c ((ih h).mp hmatch)
    · intro hdescribes
      cases hdescribes with
      | one c hrest => exact (ih h).mpr hrest
      | plain _ _ hne => exact absurd rfl hne
  | case5 c pattern hescape hpercent hunderscore ih =>
    -- a lone backslash would come here as well, and the pattern has none at its end
    have hbackslash : c ≠ '\\' := by
      rintro rfl
      cases pattern with
      | nil => cases h
      | cons d pattern => exact hescape d pattern rfl rfl
    rw [isComplete_cons hbackslash] at h
    rw [parts.eq_5 c pattern hescape hpercent hunderscore, matchParts_literal]
    constructor
    · rintro ⟨rest, rfl, hrest⟩
      exact .plain hbackslash hpercent hunderscore ((ih h).mp hrest)
    · intro hdescribes
      cases hdescribes with
      | plain _ _ _ hrest => exact ⟨_, rfl, (ih h).mpr hrest⟩
      | any => exact absurd rfl hpercent
      | one => exact absurd rfl hunderscore
      | escaped => exact absurd rfl hbackslash

/-- The pattern around a text describes the texts in which it stands. -/
lemma describes_around {needle text : List Char} :
    Describes ('%' :: escape needle ++ ['%']) text ↔ needle <:+: text := by
  have hcomplete : isComplete ('%' :: escape needle ++ ['%']) = true := by
    rw [List.cons_append, isComplete_cons (by decide), isComplete_escape]
    rfl
  rw [← matchParts_parts_iff hcomplete, matchParts_around, occursIn_iff]

end Like

/-- A search is bound as a pattern with a backslash as its escape character. By the rules the pattern
describes the texts in which the needle stands, whatever marks of patterns are in it, and these are
the texts of which the search is true. -/
theorem Condition.boundPattern_describes (column needle text : String) :
    ∃ pattern : String,
      (ofPredicate column (.like needle false)).text = quote column ++ " LIKE ? ESCAPE '\\'" ∧
      (ofPredicate column (.like needle false)).params = [.text pattern] ∧
      pattern.toList = '%' :: Like.escape needle.toList ++ ['%'] ∧
      (Like.Describes pattern.toList text.toList ↔ needle.toList <:+: text.toList) ∧
      (needle.toList <:+: text.toList ↔ (Predicate.like needle false).holds (.str text) = true) := by
  have hpattern : (Like.containing needle).toList = '%' :: Like.escape needle.toList ++ ['%'] :=
    String.toList_ofList
  refine ⟨Like.containing needle, ?_, rfl, hpattern, ?_, contains_iff.symm⟩
  · show quote column ++ " LIKE" ++ " ? ESCAPE '\\'" = _
    rw [String.append_assoc]
    rfl
  · rw [hpattern, Like.describes_around]

end PagedListing.Sql

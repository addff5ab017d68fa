import Mathlib.Data.List.Basic
import Mathlib.Tactic.Lemma
import PagedListing.Sql.Like
import PagedListing.Text.Lowercase

/-!
# Patterns around a text

The pattern of a search matches the texts in which the searched text stands, whatever marks of
patterns are in it (`isMatch_containing`). With the case of letters set aside the same holds of texts
of ASCII (`isMatch_containing_ignoringCase`), in which the lower case of a text is that of its letters.
-/

namespace PagedListing.Sql.Like
open PagedListing.Text

/-! ## Escaped characters -/

/-- A character in front of a pattern stands for itself when it is escaped. -/
lemma parts_escapeChar (c : Char) (rest : List Char) :
    parts (escapeChar c ++ rest) = .literal c :: parts rest := by
  unfold escapeChar
  split
  · rfl
  · rename_i h
    simp only [not_or] at h
    obtain ⟨hbackslash, hpercent, hunderscore⟩ := h
    -- none of the marks, so the last case of the definition
    exact parts.eq_5 c rest (fun _ _ e _ => hbackslash e) hpercent hunderscore

/-- Escaped characters in front of a pattern stand for themselves. -/
lemma parts_escape (cs rest : List Char) :
    parts (escape cs ++ rest) = cs.map Part.literal ++ parts rest := by
  induction cs with
  | nil => rfl
  | cons c cs ih =>
    have hcons : escape (c :: cs) = escapeChar c ++ escape cs := List.flatMap_cons
    rw [hcons, List.append_assoc, parts_escapeChar, ih]
    rfl

/-! ## Matching -/

/-- Nothing at all matches the end of a text. -/
lemma someSuffix_isEmpty (cs : List Char) : someSuffix (matchParts []) cs = true := by
  induction cs with
  | nil => rfl
  | cons c cs ih => rw [someSuffix, ih, Bool.or_true]

/-- Characters that stand for themselves match a text that begins with them. -/
lemma matchParts_literals (needle cs : List Char) :
    matchParts (needle.map Part.literal ++ [.any]) cs = needle.isPrefixOf cs := by
  induction needle generalizing cs with
  | nil => exact someSuffix_isEmpty cs
  | cons d needle ih =>
    cases cs with
    | nil => rfl
    | cons c cs =>
      show (decide (c = d) && matchParts (needle.map Part.literal ++ [.any]) cs) = _
      rw [ih, List.isPrefixOf, Bool.beq_eq_decide_eq]
      congr 1
      exact decide_eq_decide.mpr eq_comm

/-- A text has a suffix that begins with some characters if they occur in it. -/
lemma someSuffix_isPrefixOf (needle cs : List Char) :
    someSuffix needle.isPrefixOf cs = occursIn needle cs := by
  induction cs with
  | nil => cases needle <;> rfl
  | cons c cs ih => rw [someSuffix, occursIn, ih]

/-- The pattern around characters matches those in which they stand. -/
lemma matchParts_around (needle cs : List Char) :
    matchParts (parts ('%' :: escape needle ++ ['%'])) cs = occursIn needle cs := by
  have hparts : parts ('%' :: escape needle ++ ['%']) =
      .any :: (needle.map Part.literal ++ [.any]) := by
    show Part.any :: parts (escape needle ++ ['%']) = _
    rw [parts_escape]
    rfl
  rw [hparts, matchParts, ← someSuffix_isPrefixOf]
  congr 1
  exact funext (matchParts_literals needle)

/-- The pattern around a text matches the texts in which it stands. -/
theorem isMatch_containing (needle text : String) :
    isMatch (containing needle) text false = contains text needle := by
  rw [isMatch, containing, String.toList_ofList]
  show matchParts (parts (('%' :: escape needle.toList ++ ['%']).map id)) (text.toList.map id) = _
  rw [List.map_id, List.map_id, matchParts_around]
  rfl

/-! ## The case of letters set aside -/

/-- A character of ASCII is escaped exactly when its lower case is. -/
lemma map_toLower_escapeChar {c : Char} (h : c.toNat < 0x80) :
    (escapeChar c).map Char.toLower = escapeChar c.toLower := by
  have hall : ∀ n < 0x80, (escapeChar (Char.ofNat n)).map Char.toLower =
      escapeChar (Char.ofNat n).toLower := by decide
  have hc := hall c.toNat h
  rw [Char.ofNat_toNat] at hc
  exact hc

/-- The escaped characters of a lowered text are the lowered escaped ones. -/
lemma map_toLower_escape {cs : List Char} (h : ∀ c ∈ cs, c.toNat < 0x80) :
    (escape cs).map Char.toLower = escape (cs.map Char.toLower) := by
  rw [escape, escape, List.map_flatMap, List.flatMap_map]
  exact List.flatMap_congr fun c hc => map_toLower_escapeChar (h c hc)

/-- Characters of ASCII are lowered one by one, whatever stands before them. -/
lemma lowerFrom_of_ascii {before cs : List Char} (h : ∀ c ∈ cs, c.toNat < 0x80) :
    lowerFrom before cs = cs.map Char.toLower := by
  induction cs generalizing before with
  | nil => rfl
  | cons c cs ih =>
    have hc := h c List.mem_cons_self
    have hsigma : c ≠ 'Σ' := by
      rintro rfl
      exact absurd hc (by decide)
    have hdotted : c ≠ 'İ' := by
      rintro rfl
      exact absurd hc (by decide)
    rw [lowerFrom, if_neg hsigma, if_neg hdotted, lowerChar, if_pos hc,
      ih fun d hd => h d (List.mem_cons_of_mem c hd)]
    rfl

/-- A text of ASCII is lowered character by character. -/
lemma toList_lowercase_of_ascii {s : String} (h : ∀ c ∈ s.toList, c.toNat < 0x80) :
    (lowercase s).toList = s.toList.map Char.toLower := by
  rw [lowercase, String.toList_ofList, lowerFrom_of_ascii h]

/-- In texts of ASCII the pattern matches as the case of letters is set aside on either side. -/
theorem isMatch_containing_ignoringCase {needle text : String}
    (hneedle : ∀ c ∈ needle.toList, c.toNat < 0x80) (htext : ∀ c ∈ text.toList, c.toNat < 0x80) :
    isMatch (containing needle) text true = containsIgnoringCase text needle := by
  have hpattern : ('%' :: escape needle.toList ++ ['%']).map Char.toLower =
      '%' :: escape (needle.toList.map Char.toLower) ++ ['%'] := by
    rw [List.cons_append, List.map_cons, List.map_append, map_toLower_escape hneedle]
    rfl
  rw [isMatch, containing, String.toList_ofList]
  show matchParts (parts (('%' :: escape needle.toList ++ ['%']).map Char.toLower))
    (text.toList.map Char.toLower) = _
  rw [hpattern, matchParts_around, containsIgnoringCase, contains,
    toList_lowercase_of_ascii hneedle, toList_lowercase_of_ascii htext]

end PagedListing.Sql.Like

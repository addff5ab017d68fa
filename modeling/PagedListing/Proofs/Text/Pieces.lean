import Mathlib.Data.List.DropRight
import Mathlib.Tactic.Lemma
import PagedListing.Text.Blank
import PagedListing.Text.Pieces

/-!
# Pieces and trimmed texts

Texts without a separator are the pieces of what they are joined to (`pieces_intercalate`). Trimming a
second time changes nothing (`trim_trim`), nor do blanks around a text (`trim_padded`).
-/

namespace PagedListing.Text

/-- The pieces of a text are those between its separators. -/
lemma pieces_eq_splitOn (separator : Char) (cs : List Char) :
    pieces separator cs = cs.splitOn separator := by
  induction cs with
  | nil => rw [pieces, List.splitOn_nil]
  | cons c cs ih =>
    rw [pieces, ih, List.splitOn_cons_eq_if_modifyHead]
    simp only [beq_iff_eq]
    cases hrest : cs.splitOn separator with
    | nil => exact absurd hrest (List.splitOn_ne_nil separator cs)
    | cons piece rest => rfl

/-- Pieces in which the separator does not stand are found again. -/
theorem pieces_intercalate {separator : Char} {ps : List (List Char)} (hne : ps ≠ [])
    (h : ∀ p ∈ ps, separator ∉ p) : pieces separator ([separator].intercalate ps) = ps := by
  rw [pieces_eq_splitOn, List.splitOn_intercalate separator h hne]

/-- The pieces, put together again, are the text. -/
theorem intercalate_pieces (separator : Char) (cs : List Char) :
    [separator].intercalate (pieces separator cs) = cs := by
  rw [pieces_eq_splitOn, List.intercalate_splitOn]

/-- There is one piece more than there are separators. -/
lemma length_pieces (separator : Char) (cs : List Char) :
    (pieces separator cs).length = cs.count separator + 1 := by
  induction cs with
  | nil => rfl
  | cons c cs ih =>
    rw [pieces, List.count_cons]
    split
    · rename_i h
      rw [List.length_cons, ih, h, beq_self_eq_true, if_pos rfl]
    · rename_i h
      rw [if_neg (by simpa using h), Nat.add_zero, ← ih]
      cases hrest : pieces separator cs with
      | nil => exact absurd hrest (pieces_ne_nil separator cs)
      | cons piece rest => rfl

/-- The separator stands in no piece. -/
lemma not_mem_of_mem_pieces {separator : Char} {cs piece : List Char}
    (h : piece ∈ pieces separator cs) : separator ∉ piece := by
  induction cs generalizing piece with
  | nil =>
    rw [pieces, List.mem_singleton] at h
    exact h ▸ List.not_mem_nil
  | cons c cs ih =>
    rw [pieces] at h
    split at h
    · cases List.mem_cons.mp h with
      | inl e => exact e ▸ List.not_mem_nil
      | inr hmem => exact ih hmem
    · rename_i hne
      cases hrest : pieces separator cs with
      | nil => exact absurd hrest (pieces_ne_nil separator cs)
      | cons first rest =>
        rw [hrest] at h ih
        cases List.mem_cons.mp h with
        | inl e =>
          rw [e, List.mem_cons, not_or]
          exact ⟨fun hc => hne hc.symm, ih List.mem_cons_self⟩
        | inr hmem => exact ih (List.mem_cons_of_mem _ hmem)

/-- Blanks are stripped from both ends. -/
lemma stripBlanks_eq (cs : List Char) :
    stripBlanks cs = (cs.dropWhile isBlank).rdropWhile isBlank := rfl

/-- A text without leading blanks has none either after the trailing ones are dropped. -/
lemma dropWhile_rdropWhile (cs : List Char) :
    ((cs.dropWhile isBlank).rdropWhile isBlank).dropWhile isBlank =
      (cs.dropWhile isBlank).rdropWhile isBlank := by
  rw [List.dropWhile_eq_self_iff]
  intro hpos
  have hprefix := List.rdropWhile_prefix isBlank (cs.dropWhile isBlank)
  have hfirst := List.dropWhile_eq_self_iff.mp (List.dropWhile_idempotent isBlank cs)
  have hsame := List.IsPrefix.getElem hprefix hpos
  rw [hsame]
  exact hfirst (hpos.trans_le hprefix.length_le)

/-- Trimming what is trimmed changes nothing. -/
lemma trim_trim (s : String) : trim (trim s) = trim s := by
  rw [trim, trim, String.toList_ofList, stripBlanks_eq (stripBlanks _), stripBlanks_eq,
    dropWhile_rdropWhile, List.rdropWhile_idempotent]

/-- A text of blanks. -/
def Blank (s : String) : Prop :=
  s.toList.all isBlank = true

/-- Whether a text is blank is decided by its characters. -/
instance : DecidablePred Blank := fun s => inferInstanceAs (Decidable (s.toList.all isBlank = true))

/-- Blanks around a text are stripped with its own. -/
lemma stripBlanks_padded {before after : List Char} (cs : List Char)
    (hbefore : ∀ c ∈ before, isBlank c = true) (hafter : ∀ c ∈ after, isBlank c = true) :
    stripBlanks (before ++ cs ++ after) = stripBlanks cs := by
  rw [stripBlanks_eq, stripBlanks_eq, List.append_assoc, List.dropWhile_append_of_pos hbefore,
    List.dropWhile_append]
  split
  · rename_i hempty
    rw [List.isEmpty_iff.mp hempty, List.dropWhile_eq_nil_iff.mpr hafter]
  · have hreverse : ∀ c ∈ after.reverse, isBlank c = true :=
      fun c hc => hafter c (List.mem_reverse.mp hc)
    rw [List.rdropWhile, List.reverse_append, List.dropWhile_append_of_pos hreverse, ← List.rdropWhile]

/-- Blanks around a text do not count once it is trimmed. -/
lemma trim_padded {before after : String} (s : String) (hbefore : Blank before)
    (hafter : Blank after) : trim (before ++ s ++ after) = trim s := by
  rw [trim, trim, String.toList_append, String.toList_append,
    stripBlanks_padded _ (List.all_eq_true.mp hbefore) (List.all_eq_true.mp hafter)]

end PagedListing.Text

import Mathlib.Data.List.Basic
import Mathlib.Tactic.Lemma
import PagedListing.Filter.Predicate

/-!
# Searching with the case of letters set aside

The lower case of a part of a text depends on its neighbourhood, at capital sigmas only: one that ends
a word becomes a final sigma. A search that sets case aside lowers text and needle each for itself, so
it can miss a needle that stands in the text as it is. It finds it wherever it stands exactly if every
capital sigma of the needle is settled by the needle alone, and it finds every needle that stands for
itself (`Predicate.like_ignoringCase_iff`).
-/

namespace PagedListing

namespace Text

/-! ## Where a word ends -/

/-- Whether a letter ends a word, given what stands before it, in reverse, and what stands after it. -/
def endsWord (before after : List Char) : Bool :=
  startsCased before && !startsCased after

/-- A character that is not ignored decides whether a text starts with a cased one. -/
lemma startsCased_cons (c : Char) (cs : List Char) :
    startsCased (c :: cs) = if isCaseIgnorable c then startsCased cs else isCased c := by
  unfold startsCased
  rw [List.dropWhile_cons]
  by_cases h : isCaseIgnorable c = true
  · rw [if_pos h, if_pos h]
  · rw [if_neg h, if_neg h]

/-- What follows counts only if all characters before it are ignored. -/
lemma startsCased_append (cs ds : List Char) :
    startsCased (cs ++ ds) = if cs.all isCaseIgnorable then startsCased ds else startsCased cs := by
  induction cs with
  | nil => rfl
  | cons c cs ih =>
    rw [List.cons_append, startsCased_cons, startsCased_cons, ih, List.all_cons]
    cases isCaseIgnorable c <;> rfl

/-- A text of ignored characters starts with no cased one. -/
lemma startsCased_of_all {cs : List Char} (h : cs.all isCaseIgnorable = true) :
    startsCased cs = false := by
  have hnil := startsCased_append cs []
  rwa [List.append_nil, if_pos h] at hnil

/-- Without a cased character at the front of what follows, only the first text decides. -/
lemma startsCased_append_of_eq_false {ds : List Char} (h : startsCased ds = false)
    (cs : List Char) : startsCased (cs ++ ds) = startsCased cs := by
  rw [startsCased_append]
  split
  · rename_i hall
    rw [h, startsCased_of_all hall]
  · rfl

/-- A capital sigma is not ignored. -/
lemma isCaseIgnorable_sigma : isCaseIgnorable 'Σ' = false := by decide +kernel

/-- Nothing behind a sigma is looked at. -/
lemma startsCased_sigma (cs ds es : List Char) :
    startsCased (cs ++ 'Σ' :: ds) = startsCased (cs ++ 'Σ' :: es) := by
  rw [startsCased_append, startsCased_append, startsCased_cons, startsCased_cons,
    isCaseIgnorable_sigma]
  rfl

/-- No capital sigma is among ignored characters. -/
lemma sigma_not_mem {cs : List Char} (h : cs.all isCaseIgnorable = true) : 'Σ' ∉ cs := by
  intro hmem
  have hsigma := List.all_eq_true.mp h _ hmem
  rw [isCaseIgnorable_sigma] at hsigma
  cases hsigma

/-! ## The lower case of a part of a text -/

/-- The small sigma at the end of a word, and anywhere else. -/
def lowerSigma (atEnd : Bool) : Char :=
  if atEnd then 'ς' else 'σ'

/-- The lower-case form of a character, given what stands before it, in reverse, and after it. -/
def lowerAt (before : List Char) (c : Char) (after : List Char) : List Char :=
  if c = 'Σ' then if endsWord before after then ['ς'] else ['σ']
  else if c = 'İ' then ['i', '\u0307']
  else [lowerChar c]

/-- The lower-case form of a part of a text, given what stands before it, in reverse, and after it. -/
def lowerWithin (before : List Char) : List Char → List Char → List Char
  | [], _ => []
  | c :: cs, after => lowerAt before c (cs ++ after) ++ lowerWithin (c :: before) cs after

/-- All characters but the capital sigma are lowered alike everywhere. -/
lemma lowerAt_of_ne {c : Char} (h : c ≠ 'Σ') (before before' after after' : List Char) :
    lowerAt before c after = lowerAt before' c after' := by
  rw [lowerAt, lowerAt, if_neg h, if_neg h]

/-- A capital sigma is lowered by whether it ends a word. -/
lemma lowerAt_sigma (before after : List Char) :
    lowerAt before 'Σ' after = [lowerSigma (endsWord before after)] := by
  rw [lowerAt, if_pos rfl]
  cases endsWord before after <;> rfl

/-- Lowering from a place on is lowering with nothing behind. -/
lemma lowerFrom_eq_lowerWithin (before cs : List Char) :
    lowerFrom before cs = lowerWithin before cs [] := by
  induction cs generalizing before with
  | nil => rfl
  | cons c cs ih =>
    rw [lowerFrom, lowerWithin, ih, List.append_nil]
    rfl

/-- A whole text is lowered with nothing around it. -/
lemma toList_lowercase (s : String) : (lowercase s).toList = lowerWithin [] s.toList [] := by
  rw [lowercase, String.toList_ofList, lowerFrom_eq_lowerWithin]

/-- A text contains a needle without regard to case if the lowered needle stands in the lowered text. -/
lemma containsIgnoringCase_iff {text needle : String} :
    containsIgnoringCase text needle = true ↔
      lowerWithin [] needle.toList [] <:+: lowerWithin [] text.toList [] := by
  rw [containsIgnoringCase, contains_iff, toList_lowercase, toList_lowercase]

/-- Two texts are lowered one after the other, each with the other around it. -/
lemma lowerWithin_append (before cs ds after : List Char) :
    lowerWithin before (cs ++ ds) after =
      lowerWithin before cs (ds ++ after) ++ lowerWithin (cs.reverse ++ before) ds after := by
  induction cs generalizing before with
  | nil => rfl
  | cons c cs ih =>
    rw [List.cons_append, lowerWithin, lowerWithin, ih, List.append_assoc, List.append_assoc,
      List.reverse_cons, List.append_assoc]
    rfl

/-- The neighbourhood of a part bears on its sigmas only. -/
lemma lowerWithin_congr {before before' cs after after' : List Char}
    (h : ∀ front back, cs = front ++ 'Σ' :: back →
      endsWord (front.reverse ++ before) (back ++ after) =
        endsWord (front.reverse ++ before') (back ++ after')) :
    lowerWithin before cs after = lowerWithin before' cs after' := by
  induction cs generalizing before before' with
  | nil => rfl
  | cons c cs ih =>
    have hhere : lowerAt before c (cs ++ after) = lowerAt before' c (cs ++ after') := by
      by_cases hc : c = 'Σ'
      · subst hc
        have hends : endsWord before (cs ++ after) = endsWord before' (cs ++ after') := h [] cs rfl
        rw [lowerAt_sigma, lowerAt_sigma, hends]
      · exact lowerAt_of_ne hc _ _ _ _
    rw [lowerWithin, lowerWithin, hhere, ih]
    -- for the rest of the part, the character is one more of those before it
    intro front back e
    have hcons := h (c :: front) back (by rw [e]; rfl)
    rwa [List.reverse_cons, List.append_assoc, List.append_assoc] at hcons

/-- Texts without a capital sigma are lowered alike everywhere. -/
lemma lowerWithin_of_no_sigma {cs : List Char} (h : 'Σ' ∉ cs)
    (before before' after after' : List Char) :
    lowerWithin before cs after = lowerWithin before' cs after' :=
  lowerWithin_congr fun _ _ e => absurd (e ▸ List.mem_append_right _ List.mem_cons_self) h

/-- A part that no cased character adjoins is lowered as if it stood alone. -/
lemma lowerWithin_of_apart {before after : List Char} (hbefore : startsCased before = false)
    (hafter : startsCased after = false) (cs : List Char) :
    lowerWithin before cs after = lowerWithin [] cs [] :=
  lowerWithin_congr fun front back _ => by
    rw [endsWord, startsCased_append_of_eq_false hbefore, startsCased_append_of_eq_false hafter,
      List.append_nil, List.append_nil, endsWord]

/-- A text is lowered around a capital sigma in three parts. -/
lemma lowerWithin_sigma (outer before after rest : List Char) :
    lowerWithin outer (before ++ 'Σ' :: after) rest =
      lowerWithin outer before ('Σ' :: (after ++ rest)) ++
        lowerSigma (endsWord (before.reverse ++ outer) (after ++ rest)) ::
          lowerWithin ('Σ' :: (before.reverse ++ outer)) after rest := by
  rw [lowerWithin_append, lowerWithin, lowerAt_sigma]
  rfl

/-- A letter alone is lowered alike everywhere. -/
lemma lowerWithin_letter (before after : List Char) : lowerWithin before ['a'] after = ['a'] := by
  rw [lowerWithin, lowerWithin, lowerAt_of_ne (by decide) before [] _ []]
  rfl

/-! ## Settled sigmas -/

/-- What stands before a sigma, in reverse, and after it in a text settles whether it ends a word: it ends
none in front of a cased character; otherwise something that bears on case has to stand before it, and,
if this is cased, after it as well. -/
def Settles (before after : List Char) : Prop :=
  startsCased after = true ∨
    before.all isCaseIgnorable = false ∧
      (startsCased before = true → after.all isCaseIgnorable = false)

/-- Whether the surroundings of a capital sigma settle its form can be decided. -/
instance (before after : List Char) : Decidable (Settles before after) :=
  inferInstanceAs (Decidable (_ ∨ _ ∧ (_ → _)))

/-- Every capital sigma of a text is settled by the text. -/
def SigmasSettled (cs : List Char) : Prop :=
  ∀ i, (h : i < cs.length) → cs[i] = 'Σ' → Settles (cs.take i).reverse (cs.drop (i + 1))

/-- Whether all capital sigmas of a text are settled can be decided. -/
instance (cs : List Char) : Decidable (SigmasSettled cs) :=
  inferInstanceAs (Decidable (∀ i, (h : i < cs.length) → cs[i] = 'Σ' → Settles _ _))

/-- All capital sigmas are settled exactly if each is by the text before it and the text behind it. -/
lemma sigmasSettled_iff {cs : List Char} : SigmasSettled cs ↔
    ∀ before after, cs = before ++ 'Σ' :: after → Settles before.reverse after := by
  constructor
  · rintro h before after rfl
    have hsettles := h before.length (by simp) (by simp)
    simpa using hsettles
  · intro h i hi hsigma
    refine h _ _ ?_
    rw [← hsigma, List.getElem_cons_drop, List.take_append_drop]

/-- A settled capital sigma ends a word in every text around it or in none. -/
lemma Settles.endsWord_eq {before after : List Char} (h : Settles before after)
    (outer rest : List Char) : endsWord (before ++ outer) (after ++ rest) = endsWord before after := by
  rw [endsWord, endsWord, startsCased_append, startsCased_append]
  cases h with
  | inl hafter =>
    have hall : ¬ after.all isCaseIgnorable = true := fun hall => by
      rw [startsCased_of_all hall] at hafter
      cases hafter
    rw [if_neg hall, hafter, Bool.not_true, Bool.and_false, Bool.and_false]
  | inr h =>
    rw [h.1, if_neg Bool.false_ne_true]
    cases hcased : startsCased before with
    | false => rfl
    | true => rw [h.2 hcased, if_neg Bool.false_ne_true]

/-- A text whose capital sigmas are settled is lowered alike everywhere. -/
lemma SigmasSettled.lowerWithin_eq {cs : List Char} (h : SigmasSettled cs)
    (before after : List Char) : lowerWithin before cs after = lowerWithin [] cs [] := by
  refine lowerWithin_congr fun front back e => ?_
  have hsettles := sigmasSettled_iff.mp h front back e
  rw [hsettles.endsWord_eq, hsettles.endsWord_eq]

/-- A needle that is lowered in the text as it is alone is found there. -/
lemma containsIgnoringCase_of_lowerWithin {text needle : String} {before after : List Char}
    (htext : before ++ needle.toList ++ after = text.toList)
    (hneedle : lowerWithin before.reverse needle.toList after = lowerWithin [] needle.toList []) :
    containsIgnoringCase text needle = true := by
  rw [containsIgnoringCase_iff, ← htext, lowerWithin_append, lowerWithin_append, List.append_nil,
    List.append_nil, hneedle]
  exact ⟨_, _, rfl⟩

/-! ## Sigmas that are not settled -/

/-- A list does not stand in what it becomes when one of its characters gives way to another. -/
lemma not_infix_of_replaced {front back outer rest : List Char} {c d : Char} (hne : c ≠ d)
    (houter : c ∉ outer) (hrest : c ∉ rest) :
    ¬ front ++ c :: back <:+: outer ++ (front ++ d :: back) ++ rest := by
  intro h
  have hcount := h.sublist.count_le c
  simp only [List.count_append, List.count_cons_self, List.count_cons_of_ne hne.symm,
    List.count_eq_zero_of_not_mem houter, List.count_eq_zero_of_not_mem hrest] at hcount
  omega

/-- A sigma that changes with the neighbourhood is all that changes, if the parts before and after it
stay as they are. -/
lemma exists_replaced {before after outer rest : List Char}
    (hfront : lowerWithin outer before ('Σ' :: (after ++ rest)) =
      lowerWithin [] before ('Σ' :: (after ++ [])))
    (hback : lowerWithin ('Σ' :: (before.reverse ++ outer)) after rest =
      lowerWithin ('Σ' :: (before.reverse ++ [])) after [])
    (hends : endsWord (before.reverse ++ outer) (after ++ rest) ≠
      endsWord (before.reverse ++ []) (after ++ [])) :
    ∃ front back c d, c ≠ d ∧ c ∉ ['a'] ∧
      lowerWithin [] (before ++ 'Σ' :: after) [] = front ++ c :: back ∧
      lowerWithin outer (before ++ 'Σ' :: after) rest = front ++ d :: back := by
  have hne : ∀ a b : Bool, b ≠ a → lowerSigma a ≠ lowerSigma b := by decide
  have hletter : ∀ a : Bool, lowerSigma a ∉ ['a'] := by decide
  refine ⟨_, _, _, _, hne _ _ hends, hletter _, lowerWithin_sigma _ _ _ _, ?_⟩
  rw [lowerWithin_sigma, hfront, hback]

/-- A sigma that ends no word, with nothing before it that bears on case, ends one behind a letter. -/
lemma not_infix_behind {before after : List Char} (hbefore : before.all isCaseIgnorable = true)
    (hafter : startsCased after = false) :
    ¬ lowerWithin [] (before ++ 'Σ' :: after) [] <:+:
      lowerWithin [] (['a'] ++ (before ++ 'Σ' :: after)) [] := by
  have hreverse : before.reverse.all isCaseIgnorable = true := by rwa [List.all_reverse]
  have hends : endsWord (before.reverse ++ ['a']) (after ++ []) ≠
      endsWord (before.reverse ++ []) (after ++ []) := by
    rw [List.append_nil, List.append_nil, endsWord, endsWord, startsCased_append, if_pos hreverse,
      startsCased_of_all hreverse, hafter]
    decide +kernel
  obtain ⟨front, back, c, d, hne, hletter, halone, hbehind⟩ := exists_replaced
    (lowerWithin_of_no_sigma (sigma_not_mem hbefore) _ _ _ _)
    (lowerWithin_congr fun front back _ => by
      rw [endsWord, endsWord, startsCased_sigma front.reverse _ (before.reverse ++ [])]) hends
  rw [lowerWithin_append [] ['a'], lowerWithin_letter, halone]
  show ¬ _ <:+: ['a'] ++ lowerWithin ['a'] (before ++ 'Σ' :: after) []
  rw [hbehind, ← List.append_nil (['a'] ++ _)]
  exact not_infix_of_replaced hne hletter List.not_mem_nil

/-- A sigma that ends a word, with nothing after it that bears on case, ends none in front of a letter. -/
lemma not_infix_before {before after : List Char} (hbefore : startsCased before.reverse = true)
    (hafter : after.all isCaseIgnorable = true) :
    ¬ lowerWithin [] (before ++ 'Σ' :: after) [] <:+:
      lowerWithin [] ((before ++ 'Σ' :: after) ++ ['a']) [] := by
  have hends : endsWord (before.reverse ++ []) (after ++ ['a']) ≠
      endsWord (before.reverse ++ []) (after ++ []) := by
    rw [List.append_nil, List.append_nil, endsWord, endsWord, startsCased_append, if_pos hafter,
      startsCased_of_all hafter, hbefore]
    decide +kernel
  obtain ⟨front, back, c, d, hne, hletter, halone, hwithin⟩ := exists_replaced
    (lowerWithin_congr fun front back _ => by
      rw [endsWord, endsWord, startsCased_sigma back _ (after ++ [])])
    (lowerWithin_of_no_sigma (sigma_not_mem hafter) _ _ _ _) hends
  rw [lowerWithin_append _ _ ['a'], lowerWithin_letter, halone]
  show ¬ _ <:+: lowerWithin [] (before ++ 'Σ' :: after) ['a'] ++ ['a']
  rw [hwithin]
  exact not_infix_of_replaced hne List.not_mem_nil hletter

/-- Some text is missed in which the needle stands. -/
lemma exists_missed {needle : String} (h : ¬ SigmasSettled needle.toList) :
    ∃ text, contains text needle = true ∧ containsIgnoringCase text needle = false := by
  have hmissed : ∀ cs, needle.toList <:+: cs →
      ¬ lowerWithin [] needle.toList [] <:+: lowerWithin [] cs [] →
      ∃ text, contains text needle = true ∧ containsIgnoringCase text needle = false := by
    intro cs hpart hnot
    refine ⟨String.ofList cs, contains_iff.mpr (by rwa [String.toList_ofList]), ?_⟩
    rwa [← Bool.not_eq_true, containsIgnoringCase_iff, String.toList_ofList]
  simp only [sigmasSettled_iff, not_forall] at h
  obtain ⟨before, after, e, hsettles⟩ := h
  obtain ⟨hafter, hopen⟩ := not_or.mp hsettles
  rw [Bool.not_eq_true] at hafter
  rw [e] at hmissed
  -- the sigma ends no word in the needle alone, or it ends one: a letter on that side makes it the other
  cases hbefore : before.all isCaseIgnorable with
  | true => exact hmissed _ ⟨['a'], [], List.append_nil _⟩ (not_infix_behind hbefore hafter)
  | false =>
    rw [List.all_reverse] at hopen
    obtain ⟨hcased, hall⟩ := Classical.not_imp.mp fun himp => hopen ⟨hbefore, himp⟩
    exact hmissed _ ⟨[], ['a'], rfl⟩ (not_infix_before hcased (Bool.not_eq_false _ ▸ hall))

end Text

namespace Predicate
open Text

/-- A needle is looked for in a text as it stands. -/
lemma holds_like (needle text : String) :
    (like needle false).holds (.str text) = contains text needle := rfl

/-- A needle is looked for in a text without regard to case. -/
lemma holds_like_ignoringCase (needle text : String) :
    (like needle true).holds (.str text) = containsIgnoringCase text needle := by
  simp only [holds, Json.isNull, Json.asString?, Bool.false_eq_true, if_false, if_true]

/-- A search that sets case aside finds the needle in every text in which it stands exactly if the
needle settles its capital sigmas. Whatever the needle is, it is found where no cased character
adjoins it. -/
theorem like_ignoringCase_iff (needle : String) :
    ((∀ text : String, (like needle false).holds (.str text) = true →
        (like needle true).holds (.str text) = true) ↔ SigmasSettled needle.toList) ∧
      ∀ before after : String, startsCased before.toList.reverse = false →
        startsCased after.toList = false →
        (like needle true).holds (.str (before ++ needle ++ after)) = true := by
  simp only [holds_like, holds_like_ignoringCase]
  refine ⟨⟨fun h => ?_, fun h text htext => ?_⟩, fun before after hbefore hafter => ?_⟩
  · by_contra hsettled
    obtain ⟨text, hstands, hmissed⟩ := exists_missed hsettled
    rw [h text hstands] at hmissed
    cases hmissed
  · obtain ⟨before, after, e⟩ := contains_iff.mp htext
    exact containsIgnoringCase_of_lowerWithin e (h.lowerWithin_eq _ _)
  · have htext : before.toList ++ needle.toList ++ after.toList =
        (before ++ needle ++ after).toList := by
      rw [String.toList_append, String.toList_append]
    exact containsIgnoringCase_of_lowerWithin htext (lowerWithin_of_apart hbefore hafter _)

/-- A sigma in the middle of a needle is settled there. One at its end is not, and the needle is found
where it stands for itself. -/
theorem like_ignoringCase_words :
    SigmasSettled "ΜΟΥΣΑ".toList ∧ (like "ΜΟΥΣΑ" false).holds (.str "ΟΙ ΜΟΥΣΑΙ") = true ∧
      (like "ΜΟΥΣΑ" true).holds (.str "ΟΙ ΜΟΥΣΑΙ") = true ∧
      ¬ SigmasSettled "ΟΔΟΣ".toList ∧
      (like "ΟΔΟΣ" true).holds (.str ("Η " ++ "ΟΔΟΣ" ++ ", 5")) = true := by
  have hsettled : SigmasSettled "ΜΟΥΣΑ".toList := by decide +kernel
  have hstands : (like "ΜΟΥΣΑ" false).holds (.str "ΟΙ ΜΟΥΣΑΙ") = true := by decide +kernel
  have hopen : ¬ SigmasSettled "ΟΔΟΣ".toList := by decide +kernel
  have hbefore : startsCased "Η ".toList.reverse = false := by decide +kernel
  have hafter : startsCased ", 5".toList = false := by decide +kernel
  exact ⟨hsettled, hstands, (like_ignoringCase_iff "ΜΟΥΣΑ").1.mpr hsettled _ hstands, hopen,
    (like_ignoringCase_iff "ΟΔΟΣ").2 "Η " ", 5" hbefore hafter⟩

/-- A sigma alone is missed at the end of a word, and one at the end of a word is missed inside of one,
though both stand in the text as they are. -/
theorem like_missesSigma :
    (like "Σ" false).holds (.str "ΑΣ") = true ∧ (like "Σ" true).holds (.str "ΑΣ") = false ∧
      (like "ΑΣ" false).holds (.str "ΑΣΑ") = true ∧
      (like "ΑΣ" true).holds (.str "ΑΣΑ") = false := by
  decide +kernel

end Predicate

end PagedListing

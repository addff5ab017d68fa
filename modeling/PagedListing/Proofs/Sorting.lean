import Mathlib.Data.List.Pairwise
import Mathlib.Tactic.Lemma

/-!
# Stable sorting and filters

Sorting and filtering may change places: the sorted list of the elements that a filter keeps is what
the filter keeps of the sorted list (`mergeSort_filter`), and elements that tie stay in their order
(`filter_mergeSort_of_ties`). The comparison needs to be total and transitive on the elements of the list
only.
-/

namespace PagedListing.Sorting

variable {α : Type} {le : α → α → Bool}

/-- A list is cut in one way only into elements with a property and elements without it. -/
lemma append_inj_of_boundary {q : α → Bool} {l₁ l₂ m₁ m₂ : List α} (e : l₁ ++ l₂ = m₁ ++ m₂)
    (hl₁ : ∀ a ∈ l₁, q a = true) (hl₂ : ∀ a ∈ l₂, q a = false)
    (hm₁ : ∀ a ∈ m₁, q a = true) (hm₂ : ∀ a ∈ m₂, q a = false) : l₁ = m₁ ∧ l₂ = m₂ := by
  have hfront : ∀ {s t : List α}, (∀ a ∈ s, q a = true) → (∀ a ∈ t, q a = false) →
      (s ++ t).filter q = s := by
    intro s t hs ht
    rw [List.filter_append, List.filter_eq_self.mpr hs,
      List.filter_eq_nil_iff.mpr fun a ha => by rw [ht a ha]; exact Bool.false_ne_true,
      List.append_nil]
  have h₁ : l₁ = m₁ := by rw [← hfront hl₁ hl₂, e, hfront hm₁ hm₂]
  subst h₁
  exact ⟨rfl, List.append_cancel_left e⟩

/-- A sorted list with one more element is the sorted list with the element put between those that it
does not precede and the others. -/
lemma mergeSort_cons_spec (trans : ∀ a b c, le a b = true → le b c = true → le a c = true)
    (total : ∀ a b, (le a b || le b a) = true) (a : α) (l : List α) :
    ∃ l₁ l₂, (a :: l).mergeSort le = l₁ ++ a :: l₂ ∧ l.mergeSort le = l₁ ++ l₂ ∧
      (∀ b ∈ l₁, le a b = false) ∧ ∀ b ∈ l₂, le a b = true := by
  obtain ⟨l₁, l₂, hcons, hrest, hbefore⟩ := List.mergeSort_cons trans total a l
  refine ⟨l₁, l₂, hcons, hrest, fun b hb => by simpa using hbefore b hb, ?_⟩
  have hsorted := List.pairwise_mergeSort trans total (a :: l)
  rw [hcons, List.pairwise_append] at hsorted
  exact (List.pairwise_cons.mp hsorted.2.1).1

/-- Sorting and filtering may change places where the comparison is total and transitive. -/
lemma mergeSort_filter_of_preorder
    (trans : ∀ a b c, le a b = true → le b c = true → le a c = true)
    (total : ∀ a b, (le a b || le b a) = true) (p : α → Bool) (l : List α) :
    (l.filter p).mergeSort le = (l.mergeSort le).filter p := by
  induction l with
  | nil => rw [List.filter_nil, List.mergeSort_nil, List.filter_nil]
  | cons a l ih =>
    obtain ⟨l₁, l₂, hcons, hrest, hbefore, hbehind⟩ := mergeSort_cons_spec trans total a l
    rw [hrest, List.filter_append] at ih
    cases ha : p a with
    | false =>
      rw [List.filter_cons_of_neg (by simp [ha]), ih, hcons, List.filter_append,
        List.filter_cons_of_neg (by simp [ha])]
    | true =>
      obtain ⟨m₁, m₂, hcons', hrest', hbefore', hbehind'⟩ :=
        mergeSort_cons_spec trans total a (l.filter p)
      -- both lists are cut where the new element begins to precede
      obtain ⟨h₁, h₂⟩ := append_inj_of_boundary (q := fun b => !le a b) (hrest'.symm.trans ih)
        (fun b hb => by rw [hbefore' b hb]; rfl)
        (fun b hb => by rw [hbehind' b hb]; rfl)
        (fun b hb => by rw [hbefore b (List.mem_filter.mp hb).1]; rfl)
        (fun b hb => by rw [hbehind b (List.mem_filter.mp hb).1]; rfl)
      rw [List.filter_cons_of_pos ha, hcons', hcons, List.filter_append,
        List.filter_cons_of_pos ha, h₁, h₂]

/-- A comparison that is total and transitive on the elements of a list. -/
structure PreorderOn (le : α → α → Bool) (l : List α) : Prop where
  trans : ∀ a ∈ l, ∀ b ∈ l, ∀ c ∈ l, le a b = true → le b c = true → le a c = true
  total : ∀ a ∈ l, ∀ b ∈ l, (le a b || le b a) = true

/-- A preorder on a list is one on a part of it. -/
lemma PreorderOn.subset {l m : List α} (h : PreorderOn le m) (hsub : l ⊆ m) : PreorderOn le l where
  trans := fun a ha b hb c hc => h.trans a (hsub ha) b (hsub hb) c (hsub hc)
  total := fun a ha b hb => h.total a (hsub ha) b (hsub hb)

/-- The sorted list is in order. -/
lemma pairwise_mergeSort {l : List α} (h : PreorderOn le l) :
    (l.mergeSort le).Pairwise fun a b => le a b = true := by
  have hsort : (l.attach.mergeSort fun a b => le a.1 b.1).map Subtype.val =
      (l.attach.map Subtype.val).mergeSort le := List.map_mergeSort fun _ _ _ _ => rfl
  rw [List.attach_map_subtype_val] at hsort
  rw [← hsort, List.pairwise_map]
  exact List.pairwise_mergeSort (fun a b c => h.trans a.1 a.2 b.1 b.2 c.1 c.2)
    (fun a b => h.total a.1 a.2 b.1 b.2) l.attach

/-- Sorting and filtering may change places. -/
theorem mergeSort_filter {l : List α} (h : PreorderOn le l) (p : α → Bool) :
    (l.filter p).mergeSort le = (l.mergeSort le).filter p := by
  -- the elements with their membership carry a comparison that is a preorder everywhere
  have hsort : ∀ m : List { a // a ∈ l },
      (m.mergeSort fun a b => le a.1 b.1).map Subtype.val = (m.map Subtype.val).mergeSort le :=
    fun m => List.map_mergeSort fun _ _ _ _ => rfl
  have hkeep : ∀ m : List { a // a ∈ l },
      (m.filter fun a => p a.1).map Subtype.val = (m.map Subtype.val).filter p := by
    intro m
    rw [List.filter_map]
    rfl
  have hfilter := mergeSort_filter_of_preorder
    (fun a b c : { a // a ∈ l } => h.trans a.1 a.2 b.1 b.2 c.1 c.2)
    (fun a b => h.total a.1 a.2 b.1 b.2) (fun a => p a.1) l.attach
  have hmap := congrArg (List.map Subtype.val) hfilter
  rw [hsort, hkeep, hkeep, hsort, List.attach_map_subtype_val] at hmap
  exact hmap

/-- Elements that tie with each other stay in the order in which they come. -/
theorem filter_mergeSort_of_ties {l : List α} (h : PreorderOn le l) {p : α → Bool}
    (hties : ∀ a ∈ l, ∀ b ∈ l, p a = true → p b = true → le a b = true) :
    (l.mergeSort le).filter p = l.filter p := by
  rw [← mergeSort_filter h]
  refine List.mergeSort_of_pairwise (List.pairwise_of_forall_mem_list fun a ha b hb => ?_)
  obtain ⟨ha, hpa⟩ := List.mem_filter.mp ha
  obtain ⟨hb, hpb⟩ := List.mem_filter.mp hb
  exact hties a ha b hb hpa hpb

end PagedListing.Sorting

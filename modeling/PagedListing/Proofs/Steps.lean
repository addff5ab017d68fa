import Mathlib.Data.List.Forall2
import Mathlib.Tactic.Lemma

/-!
# Steps that may fail

A series of steps succeeds when every step does (`bind_eq_ok_iff`), and a list of them fails at its first
step that does (`mapM_eq_error_iff`, `foldlM_eq_error_iff`). A relation between the state before
and after holds of a whole fold over a list if it holds of one step (`foldlM_preserves`). A reader goes on
with what the one before it has left (`bind_eq`). A property of every error is kept by steps put together
(`FailsWith`).
-/

namespace PagedListing.Steps

variable {ε σ α β : Type}

/-- A step that succeeds has a result. -/
lemma exists_eq_ok_of_toBool {x : Except ε α} (h : x.toBool = true) : ∃ a, x = .ok a := by
  cases x with
  | ok a => exact ⟨a, rfl⟩
  | error e => cases h

/-- Two steps succeed together when the first does and then the second. -/
lemma bind_eq_ok_iff {x : Except ε α} {f : α → Except ε β} {b : β} :
    (x >>= f) = .ok b ↔ ∃ a, x = .ok a ∧ f a = .ok b := by
  constructor
  · intro h
    cases x with
    | ok a => exact ⟨a, rfl, h⟩
    | error e => cases h
  · rintro ⟨a, rfl, h⟩
    exact h

/-- Two steps fail together when the first does, or else the second. -/
lemma bind_eq_error_iff {x : Except ε α} {f : α → Except ε β} {e : ε} :
    (x >>= f) = .error e ↔ x = .error e ∨ ∃ a, x = .ok a ∧ f a = .error e := by
  constructor
  · intro h
    cases x with
    | ok a => exact .inr ⟨a, rfl, h⟩
    | error e' =>
      cases h
      exact .inl rfl
  · rintro (rfl | ⟨a, rfl, h⟩)
    · rfl
    · exact h

/-- A mapped step succeeds if the step does. -/
lemma map_eq_ok_iff {f : α → β} {x : Except ε α} {b : β} :
    f <$> x = .ok b ↔ ∃ a, x = .ok a ∧ f a = b := by
  constructor
  · intro h
    cases x with
    | ok a => exact ⟨a, rfl, Except.ok.inj h⟩
    | error e => cases h
  · rintro ⟨a, rfl, rfl⟩
    rfl

/-- A mapped step fails as the step does. -/
lemma map_eq_error_iff {f : α → β} {x : Except ε α} {e : ε} :
    f <$> x = .error e ↔ x = .error e := by
  constructor
  · intro h
    cases x with
    | ok a => cases h
    | error e' =>
      cases h
      rfl
  · rintro rfl
    rfl

/-- A check in front of further steps is passed and then they succeed. -/
lemma unless_throw_eq_ok_iff {c : Prop} [Decidable c] {e : ε} {f : PUnit → Except ε α}
    {x : Except ε α} {a : α} : (if c then throw e >>= f else x) = .ok a ↔ ¬ c ∧ x = .ok a := by
  split
  · rename_i h
    exact ⟨nofun, fun hnot => absurd h hnot.1⟩
  · rename_i h
    exact ⟨fun hx => ⟨h, hx⟩, fun hx => hx.2⟩

/-- Every result of a list comes from one of its members. -/
lemma exists_mem_of_mapM {f : α → Option β} {l : List α} {r : List β} (h : l.mapM f = some r)
    {b : β} (hmem : b ∈ r) : ∃ a ∈ l, f a = some b := by
  induction l generalizing r with
  | nil =>
    cases h
    cases hmem
  | cons a l ih =>
    rw [List.mapM_cons] at h
    obtain ⟨first, hfirst, h⟩ := Option.bind_eq_some_iff.mp h
    obtain ⟨rest, hrest, h⟩ := Option.bind_eq_some_iff.mp h
    cases h
    cases List.mem_cons.mp hmem with
    | inl e => exact ⟨a, List.mem_cons_self, e ▸ hfirst⟩
    | inr hmem =>
      obtain ⟨c, hc, hstep⟩ := ih hrest hmem
      exact ⟨c, List.mem_cons_of_mem a hc, hstep⟩

/-- A list has its results member by member. -/
lemma mapM_eq_some_iff {f : α → Option β} {l : List α} {r : List β} :
    l.mapM f = some r ↔ List.Forall₂ (fun a b => f a = some b) l r := by
  induction l generalizing r with
  | nil =>
    constructor
    · intro h
      cases h
      exact .nil
    · intro h
      cases h
      rfl
  | cons a l ih =>
    rw [List.mapM_cons]
    constructor
    · intro h
      obtain ⟨first, hfirst, h⟩ := Option.bind_eq_some_iff.mp h
      obtain ⟨rest, hrest, h⟩ := Option.bind_eq_some_iff.mp h
      cases h
      exact .cons hfirst (ih.mp hrest)
    · intro h
      cases h with
      | cons hfirst hrest =>
        exact Option.bind_eq_some_iff.mpr
          ⟨_, hfirst, Option.bind_eq_some_iff.mpr ⟨_, ih.mpr hrest, rfl⟩⟩

/-- A list has results if each of its members has one. -/
lemma exists_mapM_eq_some_iff {f : α → Option β} {l : List α} :
    (∃ r, l.mapM f = some r) ↔ ∀ a ∈ l, ∃ b, f a = some b := by
  simp only [mapM_eq_some_iff]
  induction l with
  | nil => exact ⟨fun _ => nofun, fun _ => ⟨[], .nil⟩⟩
  | cons a l ih =>
    rw [List.forall_mem_cons, ← ih]
    constructor
    · rintro ⟨_, _ | ⟨hfirst, hrest⟩⟩
      exact ⟨⟨_, hfirst⟩, _, hrest⟩
    · rintro ⟨⟨first, hfirst⟩, rest, hrest⟩
      exact ⟨first :: rest, .cons hfirst hrest⟩

/-- Steps that all succeed give what each of them gives, in their order. -/
lemma mapM_eq_ok_iff {f : α → Except ε β} {l : List α} {r : List β} :
    l.mapM f = .ok r ↔ List.Forall₂ (fun a b => f a = .ok b) l r := by
  induction l generalizing r with
  | nil =>
    constructor
    · intro h
      cases h
      exact .nil
    · intro h
      cases h
      rfl
  | cons a l ih =>
    rw [List.mapM_cons, bind_eq_ok_iff]
    constructor
    · rintro ⟨first, hfirst, h⟩
      obtain ⟨rest, hrest, h⟩ := bind_eq_ok_iff.mp h
      cases h
      exact .cons hfirst (ih.mp hrest)
    · intro h
      cases h with
      | cons hfirst hrest => exact ⟨_, hfirst, bind_eq_ok_iff.mpr ⟨_, ih.mpr hrest, rfl⟩⟩

/-- A list of steps fails at its first step that does. -/
lemma mapM_eq_error_iff {f : α → Except ε β} {l : List α} {e : ε} :
    l.mapM f = .error e ↔ ∃ front a back, l = front ++ a :: back ∧
      (∀ earlier ∈ front, ∃ b, f earlier = .ok b) ∧ f a = .error e := by
  induction l with
  | nil =>
    constructor
    · nofun
    · rintro ⟨front, a, back, hl, -⟩
      exact absurd hl.symm (List.append_ne_nil_of_right_ne_nil _ (List.cons_ne_nil _ _))
  | cons b l ih =>
    rw [List.mapM_cons, bind_eq_error_iff]
    constructor
    · rintro (hfirst | ⟨first, hfirst, h⟩)
      · exact ⟨[], b, l, rfl, nofun, hfirst⟩
      obtain hrest | ⟨rest, -, h⟩ := bind_eq_error_iff.mp h
      · obtain ⟨front, a, back, rfl, hfront, hfail⟩ := ih.mp hrest
        exact ⟨b :: front, a, back, rfl, List.forall_mem_cons.mpr ⟨⟨first, hfirst⟩, hfront⟩, hfail⟩
      · cases h
    · rintro ⟨front, a, back, hl, hfront, hfail⟩
      cases front with
      | nil =>
        cases hl
        exact .inl hfail
      | cons c front =>
        cases hl
        obtain ⟨⟨first, hfirst⟩, hfront⟩ := List.forall_mem_cons.mp hfront
        exact .inr ⟨first, hfirst, bind_eq_error_iff.mpr
          (.inl (ih.mpr ⟨front, a, back, rfl, hfront, hfail⟩))⟩

/-- Steps that all succeed give what each of them gives. -/
lemma mem_iff_of_mapM_eq_ok {f : α → Except ε β} {l : List α} {r : List β} (h : l.mapM f = .ok r)
    {b : β} : b ∈ r ↔ ∃ a ∈ l, f a = .ok b := by
  induction mapM_eq_ok_iff.mp h with
  | nil => simp
  | cons hfirst hrest ih =>
    simp only [List.mem_cons, exists_eq_or_imp, ih (mapM_eq_ok_iff.mpr hrest), hfirst,
      Except.ok.injEq, @eq_comm _ b]

/-- A list succeeds if each of its members does. -/
lemma exists_mapM_eq_ok {f : α → Except ε β} {l : List α} (h : ∀ a ∈ l, ∃ b, f a = .ok b) :
    ∃ r, l.mapM f = .ok r := by
  cases hl : l.mapM f with
  | ok r => exact ⟨r, rfl⟩
  | error e =>
    obtain ⟨front, a, back, rfl, -, hfail⟩ := mapM_eq_error_iff.mp hl
    obtain ⟨b, hb⟩ := h a (List.mem_append_right _ List.mem_cons_self)
    rw [hfail] at hb
    cases hb

/-- Only the empty list has no results. -/
lemma eq_nil_of_mapM_eq_ok_nil {f : α → Except ε β} {l : List α} (h : l.mapM f = .ok []) :
    l = [] :=
  List.forall₂_nil_right_iff.mp (mapM_eq_ok_iff.mp h)

/-- A run of steps begins with its first step. -/
lemma foldlM_cons_eq_ok_iff {f : σ → α → Except ε σ} {s r : σ} {a : α} {l : List α} :
    (a :: l).foldlM f s = .ok r ↔ ∃ s', f s a = .ok s' ∧ l.foldlM f s' = .ok r := by
  rw [List.foldlM_cons, bind_eq_ok_iff]

/-- A run of steps ends with its last step. -/
lemma foldlM_concat_eq_ok_iff {f : σ → α → Except ε σ} {s r : σ} {a : α} {l : List α} :
    (l ++ [a]).foldlM f s = .ok r ↔ ∃ s', l.foldlM f s = .ok s' ∧ f s' a = .ok r := by
  rw [List.foldlM_append, bind_eq_ok_iff]
  simp only [List.foldlM_cons, List.foldlM_nil, bind_pure]

/-- A fold fails at its first step that does. -/
lemma foldlM_eq_error_iff {f : σ → α → Except ε σ} {s : σ} {l : List α} {e : ε} :
    l.foldlM f s = .error e ↔ ∃ front a back s', l = front ++ a :: back ∧
      front.foldlM f s = .ok s' ∧ f s' a = .error e := by
  induction l generalizing s with
  | nil =>
    constructor
    · nofun
    · rintro ⟨front, a, back, s', hl, -⟩
      cases List.append_eq_nil_iff.mp hl.symm with
      | intro _ hback => cases hback
  | cons b l ih =>
    rw [List.foldlM_cons, bind_eq_error_iff]
    constructor
    · rintro (hfirst | ⟨s', hfirst, hrest⟩)
      · exact ⟨[], b, l, s, rfl, rfl, hfirst⟩
      · obtain ⟨front, a, back, s'', rfl, hfront, hfail⟩ := ih.mp hrest
        exact ⟨b :: front, a, back, s'', rfl, foldlM_cons_eq_ok_iff.mpr ⟨s', hfirst, hfront⟩, hfail⟩
    · rintro ⟨front, a, back, s'', hl, hfront, hfail⟩
      cases front with
      | nil =>
        cases hl
        cases hfront
        exact .inl hfail
      | cons c front =>
        cases hl
        obtain ⟨s', hfirst, hfront⟩ := foldlM_cons_eq_ok_iff.mp hfront
        exact .inr ⟨s', hfirst, ih.mpr ⟨front, a, back, s'', rfl, hfront, hfail⟩⟩

/-- A reflexive and transitive relation between states holds of a whole fold if it holds of every
step. -/
theorem foldlM_preserves {f : σ → α → Except ε σ} (rel : σ → σ → Prop) {s r : σ} {l : List α}
    (refl : ∀ s, rel s s) (trans : ∀ {a b c}, rel a b → rel b c → rel a c)
    (step : ∀ a ∈ l, ∀ s s', f s a = .ok s' → rel s s')
    (h : l.foldlM f s = .ok r) : rel s r := by
  induction l generalizing s with
  | nil =>
    cases h
    exact refl r
  | cons a l ih =>
    obtain ⟨s', hstep, hrest⟩ := foldlM_cons_eq_ok_iff.mp h
    have hfirst := step a List.mem_cons_self s s' hstep
    exact trans hfirst (ih (fun b hb => step b (List.mem_cons_of_mem a hb)) hrest)

/-! ## Readers -/

/-- A reader goes on with what the reader before it has left. -/
lemma bind_eq {p : StateT σ Option α} {f : α → StateT σ Option β} {s s' : σ} {a : α}
    (h : p s = some (a, s')) : (p >>= f) s = f a s' := by
  show (p s).bind (fun result => f result.1 result.2) = _
  rw [h, Option.bind_some]

/-! ## Errors -/

/-- Every error of a step has a property. -/
def FailsWith (p : ε → Prop) (x : Except ε α) : Prop :=
  ∀ e, x = .error e → p e

namespace FailsWith

variable {p : ε → Prop}

/-- A result is no failure. -/
lemma ok (a : α) : FailsWith p (.ok a : Except ε α) := nofun

/-- An error of a kind is a failure of the kind. -/
lemma error {e : ε} (h : p e) : FailsWith p (.error e : Except ε α) := by
  intro e' he
  cases he
  exact h

/-- A failure of a kind is one of every wider kind. -/
lemma mono {q : ε → Prop} {x : Except ε α} (h : FailsWith p x) (hpq : ∀ e, p e → q e) :
    FailsWith q x :=
  fun e he => hpq e (h e he)

/-- Two steps fail as one of them does. -/
lemma bind {x : Except ε α} {f : α → Except ε β} (hx : FailsWith p x)
    (hf : ∀ a, FailsWith p (f a)) : FailsWith p (x >>= f) := by
  intro e h
  cases x with
  | ok a => exact hf a e h
  | error e' =>
    cases h
    exact hx e rfl

/-- A mapped step fails only as the step does. -/
lemma map {x : Except ε α} {f : α → β} (hx : FailsWith p x) : FailsWith p (f <$> x) := by
  intro e h
  cases x with
  | ok a => cases h
  | error e' =>
    cases h
    exact hx e rfl

/-- A list fails only as its members do. -/
lemma mapM {f : α → Except ε β} (hf : ∀ a, FailsWith p (f a)) (l : List α) :
    FailsWith p (l.mapM f) := by
  induction l with
  | nil => exact ok []
  | cons a l ih =>
    rw [List.mapM_cons]
    exact (hf a).bind fun first => ih.bind fun rest => ok (first :: rest)

/-- A run of steps fails only as its steps do. -/
lemma foldlM {f : σ → α → Except ε σ} (hf : ∀ s a, FailsWith p (f s a)) (s : σ) (l : List α) :
    FailsWith p (l.foldlM f s) := by
  induction l generalizing s with
  | nil => exact ok s
  | cons a l ih =>
    rw [List.foldlM_cons]
    exact (hf s a).bind ih

end FailsWith

end PagedListing.Steps

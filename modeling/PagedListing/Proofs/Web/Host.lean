import PagedListing.Proofs.Steps
import PagedListing.Proofs.Web.Percent
import PagedListing.Web.Host

/-!
# Hosts without marks

The host of a URL has no question mark and no hash in its written form, however it is read
(`unmarked_of_readSpecial`, `unmarked_of_readOpaque`): addresses are written in digits, the labels of
a domain name may not have marks, and punycode adds digits and letters to the ASCII characters of a
label only.
-/

namespace PagedListing.Web
open PagedListing.Steps
open PagedListing.Text (joinWith)

/-- Pieces without marks that are joined without marks have none. -/
lemma unmarked_joinWith {separator : List Char} {pieces : List (List Char)}
    (hseparator : Unmarked separator) (h : ∀ piece ∈ pieces, Unmarked piece) :
    Unmarked (joinWith separator pieces) := by
  induction pieces with
  | nil => exact unmarked_nil
  | cons piece rest ih =>
    have hpiece := h piece List.mem_cons_self
    cases rest with
    | nil => exact hpiece
    | cons next rest =>
      have hrest := ih fun piece hmem => h piece (List.mem_cons_of_mem _ hmem)
      exact unmarked_append.mpr ⟨unmarked_append.mpr ⟨hpiece, hseparator⟩, hrest⟩

/-- The characters of digits are no marks. -/
lemma unmarked_digitChar (n : Nat) : Unmarked [Nat.digitChar n] := by
  by_cases h : n < 16
  · have hall : ∀ n < 16, Unmarked [Nat.digitChar n] := by decide
    exact hall n h
  · -- beyond the digits there is one character for all numbers
    rw [Nat.digitChar_eq_star.mpr (Nat.le_of_not_lt h)]
    decide

/-- A number in digits has no marks. -/
lemma unmarked_toDigits (base n : Nat) : Unmarked (Nat.toDigits base n) := by
  have hcore : ∀ fuel n digits, Unmarked digits →
      Unmarked (Nat.toDigitsCore base fuel n digits) := by
    intro fuel
    induction fuel with
    | zero => exact fun n digits h => h
    | succ fuel ih =>
      intro n digits h
      have hnext : Unmarked (Nat.digitChar (n % base) :: digits) :=
        unmarked_append.mpr ⟨unmarked_digitChar _, h⟩
      rw [Nat.toDigitsCore]
      split
      · exact hnext
      · exact ih _ _ hnext
  exact hcore _ n [] unmarked_nil

/-! ## Addresses -/

/-- The text of a short address has no marks. -/
lemma Ipv4.unmarked_text (a : Ipv4) : Unmarked a.text := by
  refine unmarked_joinWith (by decide) fun piece hmem => ?_
  obtain ⟨n, -, rfl⟩ := List.mem_map.mp hmem
  exact unmarked_toDigits 10 n

/-- Some pieces of a long address have no marks. -/
lemma Ipv6.unmarked_piecesText (pieces : List UInt16) : Unmarked (piecesText pieces) := by
  refine unmarked_joinWith (by decide) fun piece hmem => ?_
  obtain ⟨n, -, rfl⟩ := List.mem_map.mp hmem
  exact unmarked_toDigits 16 n.toNat

/-- The text of a long address has no marks. -/
lemma Ipv6.unmarked_text (a : Ipv6) : Unmarked a.text := by
  have hopen : Unmarked ['['] := by decide
  have hclose : Unmarked [']'] := by decide
  have hcolons : Unmarked [':', ':'] := by decide
  have hbody : ∀ place length : Nat, Unmarked
      (if length < 2 then piecesText a.pieces
      else piecesText (a.pieces.take place) ++
        ':' :: ':' :: piecesText (a.pieces.drop (place + length))) := by
    intro place length
    split
    · exact unmarked_piecesText _
    · exact unmarked_append.mpr ⟨unmarked_piecesText _,
        unmarked_append.mpr ⟨hcolons, unmarked_piecesText _⟩⟩
  exact unmarked_append.mpr ⟨unmarked_append.mpr ⟨hopen, hbody _ _⟩, hclose⟩

/-! ## Punycode -/

namespace Domain.Punycode

/-- The digits of punycode are no marks. -/
lemma unmarked_digitOf {n : Nat} (h : n < 36) : Unmarked [digitOf n] := by
  have hall : ∀ n < 36, Unmarked [digitOf n] := by decide
  exact hall n h

/-- Thresholds are from one to 26. -/
lemma threshold_bounds (position bias : Nat) :
    1 ≤ threshold position bias ∧ threshold position bias ≤ 26 := by
  rw [threshold]
  split
  · omega
  · omega

/-- A number in digits of varying threshold has no marks. -/
lemma unmarked_writeNumber (n position bias : Nat) : Unmarked (writeNumber n position bias) := by
  -- the threshold is at most 26, and a digit stays below 36
  induction n, position using writeNumber.induct bias with
  | case1 n position t h =>
    have ht := (threshold_bounds position bias).2
    rw [writeNumber, dif_pos h]
    exact unmarked_digitOf (by omega)
  | case2 n position t h ih =>
    have ht : 1 ≤ t ∧ t ≤ 26 := threshold_bounds position bias
    have hmod : (n - t) % (36 - t) < 36 - t := Nat.mod_lt _ (by omega)
    have hdigit : t + (n - t) % (36 - t) < 36 := by omega
    rw [writeNumber, dif_neg h]
    exact unmarked_append.mpr ⟨unmarked_digitOf hdigit, ih⟩

/-- What has been written so far has no marks. -/
def Writer.Plain (w : Writer) : Prop :=
  ∀ piece ∈ w.pieces, Unmarked piece

/-- Passing a character keeps what is written free of marks. -/
lemma Writer.Plain.pass {w : Writer} (h : w.Plain) (point n : Nat) : (Writer.pass point w n).Plain := by
  rw [Writer.pass]
  split
  · exact h
  split
  · intro piece hmem
    cases List.mem_cons.mp hmem with
    | inl e => exact e ▸ unmarked_writeNumber _ _ _
    | inr hmem => exact h piece hmem
  · exact h

/-- Passing a label keeps what is written free of marks. -/
lemma Writer.Plain.foldl_pass {w : Writer} (h : w.Plain) (point : Nat) (label : List Nat) :
    (label.foldl (Writer.pass point) w).Plain := by
  induction label generalizing w with
  | nil => exact h
  | cons n label ih => exact ih (h.pass point n)

/-- Placing the characters of a label keeps what is written free of marks. -/
lemma Writer.Plain.placeAll {w : Writer} (h : w.Plain) (label points : List Nat) (next : Nat) :
    (placeAll label points next w).Plain := by
  induction points generalizing next w with
  | nil => exact h
  | cons point points ih =>
    have hdelta : Writer.Plain { w with delta := w.delta + (point - next) * (w.placed + 1) } := h
    refine ih ?_ (point + 1)
    exact hdelta.foldl_pass point label

/-- Punycode of a label without marks has none. -/
lemma unmarked_encode {label : List Char} (h : Unmarked label) : Unmarked (encode label) := by
  have hbasic : Unmarked (label.filter (·.toNat < 0x80)) := h.subset List.filter_sublist.subset
  have hhyphen : Unmarked ['-'] := by decide
  rw [encode]
  refine unmarked_append.mpr ⟨?_, ?_⟩
  · split
    · exact unmarked_nil
    · exact unmarked_append.mpr ⟨hbasic, hhyphen⟩
  · rw [← List.flatMap_id]
    refine unmarked_flatMap fun piece hmem => ?_
    have hstart : Writer.Plain
        ⟨0, 72, (label.filter (·.toNat < 0x80)).length, true, []⟩ := by
      intro piece hmem
      cases hmem
    exact hstart.placeAll _ _ _ piece (List.mem_reverse.mp hmem)

end Domain.Punycode

/-! ## Domain names -/

namespace Domain

/-- A label has no marks. -/
lemma unmarked_of_isLabel {label : List Char} (h : isLabel label = true) : Unmarked label := by
  simp only [isLabel, Bool.and_eq_true, Bool.not_eq_true'] at h
  obtain ⟨⟨⟨hforbidden, -⟩, -⟩, -⟩ := h
  rw [List.any_eq_false] at hforbidden
  exact ⟨fun hmem => hforbidden _ hmem (by decide), fun hmem => hforbidden _ hmem (by decide)⟩

/-- A label is written without marks. -/
lemma unmarked_of_writeLabel? {label written : List Char} (h : isLabel label = true)
    (hwrite : writeLabel? label = some written) : Unmarked written := by
  have hlabel := unmarked_of_isLabel h
  rw [writeLabel?] at hwrite
  split at hwrite
  · cases hwrite
    exact hlabel
  split at hwrite
  · cases hwrite
    exact unmarked_append.mpr ⟨by decide, Punycode.unmarked_encode hlabel⟩
  · cases hwrite

/-- The ASCII form of a domain name has no marks. -/
theorem unmarked_of_toAscii? {name domain : List Char} (h : toAscii? name = some domain) :
    Unmarked domain := by
  obtain ⟨mapped, -, h⟩ := Option.bind_eq_some_iff.mp h
  obtain ⟨labels, -, h⟩ := Option.bind_eq_some_iff.mp h
  obtain ⟨_, hlabels, h⟩ := Option.bind_eq_some_iff.mp h
  obtain ⟨-, -, h⟩ := Option.bind_eq_some_iff.mp h
  obtain ⟨written, hwritten, h⟩ := Option.bind_eq_some_iff.mp h
  cases h
  have hall : labels.all isLabel = true := by
    cases hall : labels.all isLabel with
    | true => rfl
    | false =>
      rw [hall] at hlabels
      cases hlabels
  refine unmarked_joinWith (by decide) fun piece hmem => ?_
  obtain ⟨label, hlabel, hwrite⟩ := exists_mem_of_mapM hwritten hmem
  exact unmarked_of_writeLabel? (List.all_eq_true.mp hall label hlabel) hwrite

end Domain

/-! ## Hosts -/

namespace Host

/-- A host between brackets has no marks. -/
lemma unmarked_of_readBracketed {cs : List Char} {host : Host} (h : readBracketed cs = .ok host) :
    Unmarked host.text := by
  rw [readBracketed] at h
  split at h
  · split at h
    · cases h
      exact Ipv6.unmarked_text _
    · cases h
  · cases h

/-- The host of a special URL is written without marks. -/
theorem unmarked_of_readSpecial {cs : List Char} {host : Host} (h : readSpecial cs = .ok host) :
    Unmarked host.text := by
  unfold readSpecial at h
  split at h
  · exact unmarked_of_readBracketed h
  split at h
  · cases h
  · cases h
  · rename_i domain _ hdomain
    split at h
    · split at h
      · cases h
        exact Ipv4.unmarked_text _
      · cases h
    · cases h
      exact Domain.unmarked_of_toAscii? hdomain

/-- The host of any other URL is written without marks. -/
theorem unmarked_of_readOpaque {cs : List Char} {host : Host} (h : readOpaque cs = .ok host) :
    Unmarked host.text := by
  unfold readOpaque at h
  split at h
  · exact unmarked_of_readBracketed h
  split at h
  · cases h
  · rename_i hforbidden
    cases h
    have hforbidden := List.any_eq_false.mp (Bool.not_eq_true _ ▸ hforbidden)
    have hcs : Unmarked cs :=
      ⟨fun hmem => hforbidden _ hmem (by decide), fun hmem => hforbidden _ hmem (by decide)⟩
    exact hcs.encodeWith

end Host

end PagedListing.Web

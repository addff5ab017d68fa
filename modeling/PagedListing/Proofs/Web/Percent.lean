import PagedListing.Proofs.Text.Utf8
import PagedListing.Web.Percent

/-!
# Percent encoding read back

What is written for a byte is read as this byte, whatever follows (`percentDecode_percentEncode`). A
text that is written with every mark escaped has no marks (`unmarked_encodeWith`): no character of it
ends a part of a URL.
-/

namespace PagedListing.Web
open PagedListing.Text

/-- The bytes of characters of ASCII. -/
def charBytes (cs : List Char) : List UInt8 :=
  cs.map fun c => UInt8.ofNat c.toNat

/-- Characters behind others have their bytes behind theirs. -/
lemma charBytes_append (cs ds : List Char) : charBytes (cs ++ ds) = charBytes cs ++ charBytes ds :=
  List.map_append

/-- The character of a byte has its number. -/
lemma toNat_ofNat_byte (b : UInt8) : (Char.ofNat b.toNat).toNat = b.toNat := by
  have hvalid : b.toNat.isValidChar := Or.inl (Nat.lt_trans b.toNat_lt (by decide))
  rw [Char.ofNat, dif_pos hvalid]
  rfl

/-- The byte of the character of a byte is the byte. -/
lemma charBytes_ofNat (b : UInt8) : charBytes [Char.ofNat b.toNat] = [b] := by
  rw [charBytes, List.map_singleton, toNat_ofNat_byte, UInt8.ofNat_toNat]

/-- A byte of characters of ASCII is one of these characters. -/
lemma ofNat_mem_of_mem_charBytes {cs : List Char} {b : UInt8} (hascii : ∀ c ∈ cs, c.toNat < 0x80)
    (h : b ∈ charBytes cs) : Char.ofNat b.toNat ∈ cs := by
  obtain ⟨c, hc, rfl⟩ := List.mem_map.mp h
  rw [toNat_byte (Nat.lt_trans (hascii c hc) (by decide)), Char.ofNat_toNat]
  exact hc

/-! ## Reading what is written -/

/-- A hexadecimal digit is read as its number. -/
lemma hexValue?_hexUpper {n : Nat} (h : n < 16) :
    hexValue? (UInt8.ofNat (hexUpper n).toNat) = some n := by
  have hall : ∀ n < 16, hexValue? (UInt8.ofNat (hexUpper n).toNat) = some n := by decide
  exact hall n h

/-- A byte other than the percent sign is read as it is. -/
lemma percentDecode_cons {b : UInt8} (h : b ≠ 0x25) (rest : List UInt8) :
    percentDecode (b :: rest) = b :: percentDecode rest := by
  cases rest with
  | nil => rfl
  | cons high rest =>
    cases rest with
    | nil => rfl
    | cons low rest => rw [percentDecode, if_neg h]

/-- What is written for a byte is read as this byte. -/
theorem percentDecode_percentEncode (b : UInt8) (rest : List UInt8) :
    percentDecode (charBytes (percentEncode b) ++ rest) = b :: percentDecode rest := by
  have hlt := b.toNat_lt
  have hhigh := hexValue?_hexUpper (n := b.toNat / 16) (by omega)
  have hlow := hexValue?_hexUpper (n := b.toNat % 16) (by omega)
  have hsum : b.toNat / 16 * 16 + b.toNat % 16 = b.toNat := by omega
  show percentDecode (0x25 :: _ :: _ :: rest) = _
  rw [percentDecode, if_pos rfl, hhigh, hlow]
  dsimp only
  rw [hsum, UInt8.ofNat_toNat]

/-! ## Marks -/

/-- Characters none of which begins the query or the fragment of a URL. -/
def Unmarked (cs : List Char) : Prop :=
  '?' ∉ cs ∧ '#' ∉ cs

/-- Whether characters have marks is decided by searching for the two. -/
instance : DecidablePred Unmarked := fun _ => inferInstanceAs (Decidable (_ ∧ _))

/-- Nothing has no marks. -/
lemma unmarked_nil : Unmarked [] := by decide

/-- Two texts have no marks if neither of them has one. -/
lemma unmarked_append {cs ds : List Char} : Unmarked (cs ++ ds) ↔ Unmarked cs ∧ Unmarked ds := by
  simp only [Unmarked, List.mem_append, not_or]
  constructor
  · rintro ⟨⟨h1, h2⟩, h3, h4⟩
    exact ⟨⟨h1, h3⟩, h2, h4⟩
  · rintro ⟨⟨h1, h3⟩, h2, h4⟩
    exact ⟨⟨h1, h2⟩, h3, h4⟩

/-- Characters have no marks if the first is none and the others have none. -/
lemma unmarked_cons {c : Char} {cs : List Char} : Unmarked (c :: cs) ↔ Unmarked [c] ∧ Unmarked cs := by
  rw [← unmarked_append, List.singleton_append]

/-- A part of a text without marks has none. -/
lemma Unmarked.subset {cs ds : List Char} (h : Unmarked ds) (hsub : cs ⊆ ds) : Unmarked cs :=
  ⟨fun hmem => h.1 (hsub hmem), fun hmem => h.2 (hsub hmem)⟩

/-- Texts one behind another have no marks if none of them has. -/
lemma unmarked_flatMap {α : Type} {l : List α} {f : α → List Char}
    (h : ∀ a ∈ l, Unmarked (f a)) : Unmarked (l.flatMap f) := by
  constructor
  · intro hmem
    obtain ⟨a, ha, hc⟩ := List.mem_flatMap.mp hmem
    exact (h a ha).1 hc
  · intro hmem
    obtain ⟨a, ha, hc⟩ := List.mem_flatMap.mp hmem
    exact (h a ha).2 hc

/-- One of two texts has no marks if neither of them has. -/
lemma unmarked_ite {p : Prop} [Decidable p] {cs ds : List Char} (hpos : Unmarked cs)
    (hneg : Unmarked ds) : Unmarked (if p then cs else ds) := by
  split
  · exact hpos
  · exact hneg

/-- Hexadecimal digits are no marks. -/
lemma unmarked_hexUpper {n : Nat} (h : n < 16) : Unmarked [hexUpper n] := by
  have hall : ∀ n < 16, Unmarked [hexUpper n] := by decide
  exact hall n h

/-- What is written for a byte has no marks. -/
lemma unmarked_percentEncode (b : UInt8) : Unmarked (percentEncode b) := by
  have hlt := b.toNat_lt
  have hhigh := unmarked_hexUpper (n := b.toNat / 16) (by omega)
  have hlow := unmarked_hexUpper (n := b.toNat % 16) (by omega)
  have hpercent : Unmarked ['%'] := by decide
  exact unmarked_append.mpr ⟨hpercent, unmarked_append.mpr ⟨hhigh, hlow⟩⟩

/-- The characters of other bytes are no marks. -/
lemma unmarked_ofNat {b : UInt8} (hquery : b ≠ 0x3F) (hfragment : b ≠ 0x23) :
    Unmarked [Char.ofNat b.toNat] := by
  have hne : ∀ c : Char, c.toNat ≠ b.toNat → c ∉ [Char.ofNat b.toNat] := by
    intro c hc hmem
    rw [List.mem_singleton.mp hmem, toNat_ofNat_byte] at hc
    exact hc rfl
  constructor
  · exact hne '?' fun e => hquery (UInt8.toNat_inj.mp e.symm)
  · exact hne '#' fun e => hfragment (UInt8.toNat_inj.mp e.symm)

/-- A text is written without marks if they are escaped or do not occur. -/
theorem unmarked_encodeWith {escaped : UInt8 → Bool} {cs : List Char}
    (h : ∀ b ∈ utf8Encode cs, escaped b = false → b ≠ 0x3F ∧ b ≠ 0x23) :
    Unmarked (encodeWith escaped cs) := by
  refine unmarked_flatMap fun b hb => ?_
  cases hescaped : escaped b with
  | true => exact unmarked_percentEncode b
  | false =>
    obtain ⟨hquery, hfragment⟩ := h b hb hescaped
    exact unmarked_ofNat hquery hfragment

/-- A text is written without the mark of a fragment if that is escaped. -/
lemma hash_not_mem_encodeWith {escaped : UInt8 → Bool} (h : escaped 0x23 = true) (cs : List Char) :
    '#' ∉ encodeWith escaped cs := by
  intro hmem
  obtain ⟨b, -, hmem⟩ := List.mem_flatMap.mp hmem
  split at hmem
  · exact (unmarked_percentEncode b).2 hmem
  · rename_i hplain
    have hnumber := congrArg Char.toNat (List.mem_singleton.mp hmem)
    rw [toNat_ofNat_byte] at hnumber
    have hhash : b = 0x23 := UInt8.toNat_inj.mp hnumber.symm
    exact hplain (hhash ▸ h)

/-- A text without marks is written without marks. -/
lemma Unmarked.encodeWith {escaped : UInt8 → Bool} {cs : List Char} (h : Unmarked cs) :
    Unmarked (encodeWith escaped cs) := by
  refine unmarked_encodeWith fun b hb _ => ⟨?_, ?_⟩
  · rintro rfl
    exact h.1 (ofNat_mem_of_mem_utf8Encode hb (by decide))
  · rintro rfl
    exact h.2 (ofNat_mem_of_mem_utf8Encode hb (by decide))

end PagedListing.Web

import PagedListing.Proofs.Web.Percent
import PagedListing.Web.Form

/-!
# Forms read back

Pairs that are written behind a query are read behind the pairs of the query (`read_appendPairs`). Each
byte of a text is read back from what is written for it (`decode_encode`), and no written text has a
separator (`isWritten_of_mem_encode`), so that the pairs and their parts are found again.
-/

namespace PagedListing.Web.Form
open PagedListing.Text

/-! ## Texts -/

/-- A character that is written for texts: of ASCII, and none that separates pairs, the parts of a
pair or those of a URL. -/
def IsWritten (c : Char) : Prop :=
  c.toNat < 0x80 ∧ c ≠ '&' ∧ c ≠ '=' ∧ c ≠ '?' ∧ c ≠ '#'

/-- Whether a character is written for texts is decided by comparing it. -/
instance : DecidablePred IsWritten := fun _ => inferInstanceAs (Decidable (_ ∧ _))

/-- A byte that stands for itself is neither a plus sign nor a percent sign. -/
lemma isPlain_cases {b : UInt8} (h : isPlain b = true) : b ≠ 0x2B ∧ b ≠ 0x25 := by
  simp only [isPlain, Bool.or_eq_true, Bool.and_eq_true, decide_eq_true_eq, beq_iff_eq,
    ← UInt8.toNat_inj, UInt8.reduceToNat, ne_eq] at h ⊢
  omega

/-- A byte that stands for itself is written for texts. -/
lemma isWritten_of_isPlain {b : UInt8} (h : isPlain b = true) :
    IsWritten (Char.ofNat b.toNat) := by
  simp only [isPlain, Bool.or_eq_true, Bool.and_eq_true, decide_eq_true_eq, beq_iff_eq] at h
  simp only [IsWritten, ne_eq, ← Char.toNat_inj, toNat_ofNat_byte, Char.reduceToNat]
  omega

/-- Hexadecimal digits are written for texts. -/
lemma isWritten_hexUpper {n : Nat} (h : n < 16) : IsWritten (hexUpper n) := by
  have hall : ∀ n < 16, IsWritten (hexUpper n) := by decide
  exact hall n h

/-- Hexadecimal digits are no plus signs. -/
lemma plusToBlank_hexUpper {n : Nat} (h : n < 16) :
    plusToBlank (UInt8.ofNat (hexUpper n).toNat) = UInt8.ofNat (hexUpper n).toNat := by
  have hall : ∀ n < 16, plusToBlank (UInt8.ofNat (hexUpper n).toNat) =
      UInt8.ofNat (hexUpper n).toNat := by decide
  exact hall n h

/-- Every character of an encoded byte is one of those written for texts. -/
lemma isWritten_of_mem_encodeByte {b : UInt8} {c : Char} (h : c ∈ encodeByte b) : IsWritten c := by
  rw [encodeByte] at h
  split at h
  · rename_i hplain
    rw [List.mem_singleton.mp h]
    exact isWritten_of_isPlain hplain
  split at h
  · rw [List.mem_singleton.mp h]
    decide
  · have hlt := b.toNat_lt
    simp only [percentEncode, List.mem_cons, List.not_mem_nil, or_false] at h
    rcases h with rfl | rfl | rfl
    · decide
    · exact isWritten_hexUpper (by omega)
    · exact isWritten_hexUpper (by omega)

/-- Every character of an encoded text is one of those written for texts. -/
lemma isWritten_of_mem_encode {s : String} {c : Char} (h : c ∈ encode s) : IsWritten c := by
  obtain ⟨b, -, hmem⟩ := List.mem_flatMap.mp h
  exact isWritten_of_mem_encodeByte hmem

/-- A byte is read back from what is written for it. -/
lemma percentDecode_encodeByte (b : UInt8) (rest : List UInt8) :
    percentDecode ((charBytes (encodeByte b)).map plusToBlank ++ rest) = b :: percentDecode rest := by
  rw [encodeByte]
  split
  · rename_i hplain
    obtain ⟨hplus, hpercent⟩ := isPlain_cases hplain
    rw [charBytes_ofNat, List.map_singleton, plusToBlank, if_neg hplus, List.singleton_append,
      percentDecode_cons hpercent]
  split
  · rename_i hblank
    rw [hblank]
    exact percentDecode_cons (by decide) rest
  · -- no digit is a plus sign, so the three characters are left alone
    have hplus : (charBytes (percentEncode b)).map plusToBlank = charBytes (percentEncode b) := by
      have hlt := b.toNat_lt
      have hhigh := plusToBlank_hexUpper (n := b.toNat / 16) (by omega)
      have hlow := plusToBlank_hexUpper (n := b.toNat % 16) (by omega)
      simp only [charBytes, percentEncode, List.map_cons, List.map_nil, hhigh, hlow]
      rfl
    rw [hplus, percentDecode_percentEncode]

/-- A text is read back from what is written for it. -/
theorem decode_encode (s : String) : decode (charBytes (encode s)) = s := by
  have hbytes : ∀ bs : List UInt8,
      percentDecode ((charBytes (bs.flatMap encodeByte)).map plusToBlank) = bs := by
    intro bs
    induction bs with
    | nil => rfl
    | cons b bs ih =>
      rw [List.flatMap_cons, charBytes_append, List.map_append, percentDecode_encodeByte, ih]
  rw [decode, encode, hbytes, utf8Decode_utf8Encode, String.ofList_toList]

/-- Characters that stand for themselves are written as they are. -/
lemma encode_of_plain {s : String}
    (h : ∀ c ∈ s.toList, c.toNat < 0x80 ∧ isPlain (UInt8.ofNat c.toNat) = true) :
    encode s = s.toList := by
  rw [encode, utf8Encode_of_ascii fun c hc => (h c hc).1]
  generalize s.toList = cs at h
  induction cs with
  | nil => rfl
  | cons c cs ih =>
    obtain ⟨⟨hascii, hplain⟩, hrest⟩ := List.forall_mem_cons.mp h
    have hbyte : (UInt8.ofNat c.toNat).toNat = c.toNat :=
      UInt8.toNat_ofNat_of_lt' (Nat.lt_trans hascii (by decide))
    rw [List.map_cons, List.flatMap_cons, encodeByte, if_pos hplain, hbyte,
      Char.ofNat_toNat]
    exact congrArg (c :: ·) (ih hrest)

/-! ## Pairs -/

/-- Up to a separator a list is cut as it stands. -/
lemma cut_append {separator : UInt8} {front : List UInt8} (h : separator ∉ front)
    (back : List UInt8) : cut separator (front ++ separator :: back) = (front, back) := by
  induction front with
  | nil => rw [List.nil_append, cut, if_pos rfl]
  | cons b front ih =>
    obtain ⟨hne, hrest⟩ := not_or.mp (mt List.mem_cons.mpr h)
    rw [List.cons_append, cut, if_neg (fun e => hne e.symm), ih hrest]

/-- Without a separator there is one piece. -/
lemma splitAt_of_not_mem {separator : UInt8} {piece : List UInt8} (h : separator ∉ piece) :
    splitAt separator piece = [piece] := by
  induction piece with
  | nil => rfl
  | cons b piece ih =>
    obtain ⟨hne, hrest⟩ := not_or.mp (mt List.mem_cons.mpr h)
    rw [splitAt, if_neg (fun e => hne e.symm), ih hrest]

/-- There is always a piece. -/
lemma splitAt_ne_nil (separator : UInt8) (bytes : List UInt8) : splitAt separator bytes ≠ [] := by
  cases bytes with
  | nil => nofun
  | cons b bytes =>
    rw [splitAt]
    split
    · nofun
    · split
      · nofun
      · nofun

/-- A separator ends the pieces before it. -/
lemma splitAt_append (separator : UInt8) (front rest : List UInt8) :
    splitAt separator (front ++ separator :: rest) =
      splitAt separator front ++ splitAt separator rest := by
  induction front with
  | nil =>
    show splitAt separator (separator :: rest) = [] :: splitAt separator rest
    rw [splitAt, if_pos rfl]
  | cons b front ih =>
    rw [List.cons_append, splitAt, splitAt, ih]
    split
    · rfl
    · cases hpieces : splitAt separator front with
      | nil => exact absurd hpieces (splitAt_ne_nil separator front)
      | cons piece pieces => rfl

/-- A pair is written with an equals sign between its parts. -/
lemma charBytes_encodePair (pair : String × String) :
    charBytes (encodePair pair) =
      charBytes (encode pair.1) ++ 0x3D :: charBytes (encode pair.2) := by
  rw [encodePair, charBytes_append]
  rfl

/-- The characters of a pair are those written for texts, and equals signs. -/
lemma isWritten_of_mem_encodePair {pair : String × String} {c : Char} (h : c ∈ encodePair pair) :
    IsWritten c ∨ c = '=' := by
  rw [encodePair, List.mem_append, List.mem_cons] at h
  rcases h with h | h | h
  · exact .inl (isWritten_of_mem_encode h)
  · exact .inr h
  · exact .inl (isWritten_of_mem_encode h)

/-- The characters of a pair are of ASCII. -/
lemma ascii_encodePair {pair : String × String} {c : Char} (h : c ∈ encodePair pair) :
    c.toNat < 0x80 := by
  cases isWritten_of_mem_encodePair h with
  | inl hwritten => exact hwritten.1
  | inr e =>
    rw [e]
    decide

/-- No pair has a separator of pairs in it. -/
lemma ampersand_not_mem_encodePair (pair : String × String) :
    0x26 ∉ charBytes (encodePair pair) := by
  intro h
  have hmem : '&' ∈ encodePair pair := ofNat_mem_of_mem_charBytes (fun _ => ascii_encodePair) h
  cases isWritten_of_mem_encodePair hmem with
  | inl hwritten => exact hwritten.2.1 rfl
  | inr e => cases e

/-- No text has a separator of parts in it. -/
lemma equals_not_mem_encode (s : String) : 0x3D ∉ charBytes (encode s) := by
  intro h
  have hmem : '=' ∈ encode s :=
    ofNat_mem_of_mem_charBytes (fun _ hc => (isWritten_of_mem_encode hc).1) h
  exact (isWritten_of_mem_encode hmem).2.2.1 rfl

/-- A pair is read back from what is written for it. -/
lemma decodePair_encodePair (pair : String × String) :
    decodePair (charBytes (encodePair pair)) = pair := by
  rw [charBytes_encodePair, decodePair, cut_append (equals_not_mem_encode pair.1)]
  dsimp only
  rw [decode_encode, decode_encode]

/-- A pair is never written as nothing. -/
lemma encodePair_ne_nil (pair : String × String) : encodePair pair ≠ [] :=
  List.append_ne_nil_of_right_ne_nil _ (List.cons_ne_nil _ _)

/-- Behind a query that is not empty each pair comes behind a separator. -/
lemma appendPairs_of_ne_nil {query : List Char} (h : query ≠ [])
    (pairs : List (String × String)) :
    appendPairs query pairs = query ++ pairs.flatMap fun pair => '&' :: encodePair pair := by
  induction pairs generalizing query with
  | nil => rw [appendPairs, List.foldl_nil, List.flatMap_nil, List.append_nil]
  | cons pair pairs ih =>
    have hstep : appendPairs query (pair :: pairs) =
        appendPairs (query ++ ['&'] ++ encodePair pair) pairs := by
      rw [appendPairs, List.foldl_cons, List.isEmpty_eq_false_iff.mpr h]
      rfl
    have hne : query ++ ['&'] ++ encodePair pair ≠ [] :=
      List.append_ne_nil_of_right_ne_nil _ (encodePair_ne_nil pair)
    rw [hstep, ih hne, List.flatMap_cons, List.append_assoc, List.append_assoc]
    rfl

/-- The first pair is written as it is and every other one follows an ampersand. -/
lemma appendPairs_nil_cons (pair : String × String) (pairs : List (String × String)) :
    appendPairs [] (pair :: pairs) =
      encodePair pair ++ pairs.flatMap fun pair => '&' :: encodePair pair :=
  appendPairs_of_ne_nil (encodePair_ne_nil pair) pairs

/-- The value of the last pair stands at the end of what is written. -/
lemma exists_appendPairs_concat (query : List Char) (pairs : List (String × String))
    (name : String) :
    ∃ front, ∀ value, appendPairs query (pairs ++ [(name, value)]) = front ++ encode value := by
  refine ⟨(if (appendPairs query pairs).isEmpty then [] else appendPairs query pairs ++ ['&']) ++
    (encode name ++ ['=']), fun value => ?_⟩
  rw [appendPairs, List.foldl_append, List.append_assoc, List.append_assoc]
  rfl

/-- What is written for pairs behind a query. -/
lemma mem_appendPairs_cases {query : List Char} {pairs : List (String × String)} {c : Char}
    (h : c ∈ appendPairs query pairs) : c ∈ query ∨ IsWritten c ∨ c = '=' ∨ c = '&' := by
  have hpairs : ∀ {pairs : List (String × String)},
      (c ∈ pairs.flatMap fun pair => '&' :: encodePair pair) → IsWritten c ∨ c = '=' ∨ c = '&' := by
    intro pairs h
    obtain ⟨pair, -, h⟩ := List.mem_flatMap.mp h
    cases List.mem_cons.mp h with
    | inl e => exact .inr (.inr e)
    | inr h => exact (isWritten_of_mem_encodePair h).imp id .inl
  cases query with
  | cons first query =>
    rw [appendPairs_of_ne_nil (List.cons_ne_nil _ _), List.mem_append] at h
    exact h.imp id hpairs
  | nil =>
    cases pairs with
    | nil => cases h
    | cons pair pairs =>
      rw [appendPairs_nil_cons, List.mem_append] at h
      exact .inr (h.elim (fun h => (isWritten_of_mem_encodePair h).imp id .inl) hpairs)

/-- A character that is not written for pairs is behind a query only if it is in it. -/
lemma not_mem_appendPairs {query : List Char} {c : Char} (h : c ∉ query) (hc : ¬ IsWritten c)
    (hequals : c ≠ '=') (hampersand : c ≠ '&') (pairs : List (String × String)) :
    c ∉ appendPairs query pairs := by
  intro hmem
  rcases mem_appendPairs_cases hmem with hquery | hwritten | e | e
  · exact h hquery
  · exact hc hwritten
  · exact hequals e
  · exact hampersand e

/-- Pairs are written without marks. -/
theorem unmarked_appendPairs (pairs : List (String × String)) :
    Unmarked (appendPairs [] pairs) :=
  ⟨not_mem_appendPairs (by decide) (by decide) (by decide) (by decide) pairs,
    not_mem_appendPairs (by decide) (by decide) (by decide) (by decide) pairs⟩

/-- A pair has the bytes of its characters. -/
lemma utf8Encode_encodePair (pair : String × String) :
    utf8Encode (encodePair pair) = charBytes (encodePair pair) :=
  utf8Encode_of_ascii fun _ => ascii_encodePair

/-- A pair is read back from what is written for it. -/
lemma read_encodePair (pair : String × String) :
    read (String.ofList (encodePair pair)) = [pair] := by
  have hne : charBytes (encodePair pair) ≠ [] :=
    mt List.map_eq_nil_iff.mp (encodePair_ne_nil pair)
  have hpieces : [charBytes (encodePair pair)].filter (!·.isEmpty) =
      [charBytes (encodePair pair)] :=
    List.filter_cons_of_pos (by rw [List.isEmpty_eq_false_iff.mpr hne]; rfl)
  rw [read, String.toList_ofList, utf8Encode_encodePair,
    splitAt_of_not_mem (ampersand_not_mem_encodePair pair), hpieces, List.map_singleton,
    decodePair_encodePair]

/-- What follows an ampersand is read by itself. -/
lemma read_append (front rest : List Char) :
    read (String.ofList (front ++ '&' :: rest)) =
      read (String.ofList front) ++ read (String.ofList rest) := by
  have hbytes : utf8Encode (front ++ '&' :: rest) = utf8Encode front ++ 0x26 :: utf8Encode rest :=
    List.flatMap_append
  rw [read, read, read, String.toList_ofList, String.toList_ofList, String.toList_ofList, hbytes,
    splitAt_append, List.filter_append, List.map_append]

/-- Pairs that follow ampersands are read behind the pairs before them. -/
lemma read_flatMap (query : List Char) (pairs : List (String × String)) :
    read (String.ofList (query ++ pairs.flatMap fun pair => '&' :: encodePair pair)) =
      read (String.ofList query) ++ pairs := by
  induction pairs generalizing query with
  | nil => rw [List.flatMap_nil, List.append_nil, List.append_nil]
  | cons pair pairs ih =>
    rw [List.flatMap_cons, ← List.append_assoc, ih, read_append, read_encodePair, List.append_assoc,
      List.singleton_append]

/-- Pairs that are written behind a query are read behind the pairs of the query. -/
theorem read_appendPairs (query : List Char) (pairs : List (String × String)) :
    read (String.ofList (appendPairs query pairs)) = read (String.ofList query) ++ pairs := by
  cases query with
  | cons first query =>
    rw [appendPairs_of_ne_nil (List.cons_ne_nil _ _), read_flatMap]
  | nil =>
    cases pairs with
    | nil => rfl
    | cons pair pairs =>
      rw [appendPairs_nil_cons, read_flatMap, read_encodePair]
      rfl

end PagedListing.Web.Form

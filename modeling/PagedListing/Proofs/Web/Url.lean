import Mathlib.Data.List.TakeWhile
import PagedListing.Proofs.Web.Form
import PagedListing.Proofs.Web.Host
import PagedListing.Web.Url

/-!
# Queries of URLs read back

What comes before the query of a URL that was read has no marks, and its query has none that begins a
fragment (`readFrom_of_read`). So the query is found again in the text of the URL, and behind it the
pairs that are appended to the URL (`queryOf_appendPairs`).
-/

namespace PagedListing.Web.Url
open PagedListing.Steps
open PagedListing.Text (joinWith)

/-! ## Cutting -/

/-- What stands before the cut does not have the character. -/
lemma not_mem_cutAt (c : Char) (cs : List Char) : c ∉ (cutAt c cs).1 := by
  rw [cutAt]
  split
  · rename_i hdrop
    intro hmem
    have hne := List.dropWhile_eq_nil_iff.mp hdrop c hmem
    simp at hne
  · intro hmem
    have hne := List.mem_takeWhile_imp hmem
    simp at hne

/-- What stands before the cut is a part of the text. -/
lemma cutAt_subset (c : Char) (cs : List Char) : (cutAt c cs).1 ⊆ cs := by
  rw [cutAt]
  split
  · exact List.Subset.refl cs
  · exact (List.takeWhile_prefix _).subset

/-- Without the character nothing is cut off. -/
lemma cutAt_of_not_mem {c : Char} {cs : List Char} (h : c ∉ cs) : cutAt c cs = (cs, none) := by
  have hdrop : cs.dropWhile (· ≠ c) = [] := by
    rw [List.dropWhile_eq_nil_iff]
    intro d hd
    rw [decide_eq_true_eq]
    rintro rfl
    exact h hd
  rw [cutAt, hdrop]

/-- Behind the first occurrence of the character the rest is cut off. -/
lemma cutAt_append {c : Char} {front : List Char} (h : c ∉ front) (rest : List Char) :
    cutAt c (front ++ c :: rest) = (front, some rest) := by
  have hall : ∀ d ∈ front, decide (d ≠ c) = true := by
    intro d hd
    rw [decide_eq_true_eq]
    rintro rfl
    exact h hd
  have hdrop : (front ++ c :: rest).dropWhile (· ≠ c) = c :: rest := by
    rw [List.dropWhile_append_of_pos hall, List.dropWhile_cons_of_neg (by simp)]
  have htake : (front ++ c :: rest).takeWhile (· ≠ c) = front := by
    rw [List.takeWhile_append_of_pos hall, List.takeWhile_cons_of_neg (by simp), List.append_nil]
  rw [cutAt, hdrop, htake]

/-! ## Paths -/

/-- A user is written without marks. -/
lemma unmarked_userText (cs : List Char) : Unmarked (userText cs) := by
  have hencoded : ∀ cs, Unmarked (encodeWith escapedInUser cs) := by
    intro cs
    refine unmarked_encodeWith fun b _ h => ⟨?_, ?_⟩
    · rintro rfl
      cases h
    · rintro rfl
      cases h
  have hcolon : Unmarked [':'] := by decide
  refine unmarked_append.mpr ⟨hencoded _, ?_⟩
  split
  · exact unmarked_nil
  · exact unmarked_append.mpr ⟨hcolon, hencoded _⟩

/-- Segments none of which has a mark. -/
def AllUnmarked (segments : List (List Char)) : Prop :=
  ∀ segment ∈ segments, Unmarked segment

/-- A segment without marks joins others without marks. -/
lemma AllUnmarked.cons {segment : List Char} {segments : List (List Char)} (h : Unmarked segment)
    (hall : AllUnmarked segments) : AllUnmarked (segment :: segments) := by
  intro piece hmem
  cases List.mem_cons.mp hmem with
  | inl e => exact e ▸ h
  | inr hmem => exact hall piece hmem

/-- Segments without marks stay so when one is dropped. -/
lemma AllUnmarked.dropSegment {k : SchemeKind} {seen : List (List Char)} (h : AllUnmarked seen) :
    AllUnmarked (dropSegment k seen) := by
  intro piece hmem
  unfold Url.dropSegment at hmem
  split at hmem
  · cases hmem
  · split at hmem
    · exact h piece hmem
    · cases hmem
  · exact h piece (List.mem_cons_of_mem _ hmem)

/-- Segments without marks stay so when one without marks is added. -/
lemma AllUnmarked.addSegment {k : SchemeKind} {seen : List (List Char)} {segment : List Char}
    (h : AllUnmarked seen) (hsegment : Unmarked segment) (isLast : Bool) :
    AllUnmarked (addSegment k seen segment isLast) := by
  unfold Url.addSegment
  -- two dots
  split
  · dsimp only
    split
    · exact h.dropSegment.cons unmarked_nil
    · exact h.dropSegment
  -- one dot
  split
  · split
    · exact h.cons unmarked_nil
    · exact h
  -- the letter of a drive, or any other segment
  split
  · rename_i c _ _
    have hc : Unmarked [c] := (unmarked_append.mp hsegment).1
    have hcolon : Unmarked [':'] := by decide
    split
    · exact h.cons (unmarked_append.mpr ⟨hc, hcolon⟩)
    · exact h.cons hsegment
  · exact h.cons hsegment

/-- Segments without marks stay so when others without marks are added. -/
lemma AllUnmarked.addSegments {k : SchemeKind} {seen segments : List (List Char)}
    (h : AllUnmarked seen) (hsegments : AllUnmarked segments) :
    AllUnmarked (addSegments k seen segments) := by
  induction segments generalizing seen with
  | nil => exact h
  | cons segment rest ih =>
    have hsegment := hsegments segment List.mem_cons_self
    have hrest : AllUnmarked rest := fun piece hmem => hsegments piece (List.mem_cons_of_mem _ hmem)
    cases rest with
    | nil => exact h.addSegment hsegment true
    | cons next rest => exact ih (h.addSegment hsegment false) hrest

/-- The segments of a path have no marks. -/
lemma unmarked_readSegments (k : SchemeKind) (cs : List Char) : Unmarked (readSegments k cs) := by
  have hwritten : AllUnmarked ((segments k cs).map (encodeWith escapedInPath)) := by
    intro piece hmem
    obtain ⟨segment, -, rfl⟩ := List.mem_map.mp hmem
    refine unmarked_encodeWith fun b _ h => ⟨?_, ?_⟩
    · rintro rfl
      cases h
    · rintro rfl
      cases h
  have hnone : AllUnmarked [] := fun piece hmem => nomatch hmem
  have hkept : AllUnmarked
      (addSegments k [] ((segments k cs).map (encodeWith escapedInPath))).reverse :=
    fun piece hmem => hnone.addSegments hwritten piece (List.mem_reverse.mp hmem)
  have hslash : Unmarked ['/'] := by decide
  rw [readSegments]
  refine unmarked_cons.mpr ⟨hslash, unmarked_joinWith hslash ?_⟩
  split
  · dsimp only
    split
    · exact hnone.cons unmarked_nil
    · exact fun piece hmem => hkept piece ((List.dropWhile_suffix _).subset hmem)
  · exact hkept

/-- A path has no marks. -/
lemma unmarked_readPath (k : SchemeKind) (cs : List Char) : Unmarked (readPath k cs) := by
  unfold readPath
  split
  · split
    · decide
    · exact unmarked_nil
  · split
    · exact unmarked_readSegments k _
    · exact unmarked_readSegments k _

/-! ## Authorities -/

/-- An authority has no marks if its user and its host have none. -/
lemma unmarked_authorityText {a : Authority} (huser : Unmarked a.user) (hhost : Unmarked a.host.text) :
    Unmarked (authorityText a) := by
  have hat : Unmarked ['@'] := by decide
  have hcolon : Unmarked [':'] := by decide
  rw [authorityText]
  refine unmarked_append.mpr ⟨unmarked_append.mpr ⟨?_, hhost⟩, ?_⟩
  · split
    · exact unmarked_nil
    · exact unmarked_append.mpr ⟨huser, hat⟩
  · split
    · exact unmarked_append.mpr ⟨hcolon, unmarked_toDigits 10 _⟩
    · exact unmarked_nil

/-- What follows the user name is of the characters of the authority. -/
lemma splitUser_subset (cs : List Char) : (splitUser cs).2 ⊆ cs := by
  have hafter : (cs.reverse.takeWhile (· ≠ '@')).reverse ⊆ cs := by
    intro c hmem
    exact List.mem_reverse.mp ((List.takeWhile_prefix _).subset (List.mem_reverse.mp hmem))
  unfold splitUser
  split
  · exact hafter
  · exact hafter

/-- An authority that was read is written without marks, and what is left of its characters is among
them. -/
lemma readAuthority_spec {scheme : String} {k : SchemeKind} {cs front : List Char} {isEnd : Bool}
    {a : Authority} (h : readAuthority scheme k cs isEnd = .ok (a, front)) :
    Unmarked (authorityText a) ∧ front ⊆ cs := by
  have hafter := splitUser_subset cs
  unfold readAuthority at h
  generalize splitUser cs = split at h hafter
  obtain ⟨before, after⟩ := split
  have hrest : (after.drop (hostPart false after).length).dropWhile (· ≠ '\\') ⊆ cs :=
    fun c hmem => hafter (List.mem_of_mem_drop ((List.dropWhile_suffix _).subset hmem))
  dsimp only at h
  obtain ⟨-, h⟩ := unless_throw_eq_ok_iff.mp h
  obtain ⟨-, h⟩ := unless_throw_eq_ok_iff.mp h
  -- the host of a special scheme is a domain or an address, that of another one is opaque
  split at h
  · obtain ⟨host, hhost, h⟩ := bind_eq_ok_iff.mp h
    obtain ⟨-, h⟩ := unless_throw_eq_ok_iff.mp h
    obtain ⟨port, -, h⟩ := bind_eq_ok_iff.mp h
    cases h
    exact ⟨unmarked_authorityText (unmarked_userText _) (Host.unmarked_of_readSpecial hhost), hrest⟩
  · obtain ⟨host, hhost, h⟩ := bind_eq_ok_iff.mp h
    obtain ⟨-, h⟩ := unless_throw_eq_ok_iff.mp h
    obtain ⟨port, -, h⟩ := bind_eq_ok_iff.mp h
    cases h
    exact ⟨unmarked_authorityText (unmarked_userText _) (Host.unmarked_of_readOpaque hhost), hrest⟩

/-! ## URLs -/

/-- A URL of which nothing before the query has a mark, whose query has no mark of a fragment, and which
has neither query nor fragment if the characters it was read from have no marks. -/
structure ReadFrom (u : Url) (cs : List Char) : Prop where
  front : Unmarked u.front
  query : ∀ q, u.query = some q → '#' ∉ q
  bare : Unmarked cs → u.query = none ∧ u.fragment = none

/-- A URL with an authority and a path that are written without marks. -/
lemma readFrom_withPath {scheme : String} {k : SchemeKind} {authority : Option Authority}
    {read : List Char → List Char} {cs : List Char} (hscheme : Unmarked scheme.toList)
    (hauthority : ∀ a, authority = some a → Unmarked (authorityText a))
    (hread : ∀ cs, Unmarked cs → Unmarked (read cs)) :
    ReadFrom (withPath scheme k authority read cs) cs where
  front := by
    have hcolon : Unmarked [':'] := by decide
    have hslashes : Unmarked ['/', '/'] := by decide
    have hdot : Unmarked ['/', '.'] := by decide
    have hpath : Unmarked (cutAt '?' (cutAt '#' cs).1).1 :=
      ⟨not_mem_cutAt _ _, fun hmem => not_mem_cutAt _ _ (cutAt_subset _ _ hmem)⟩
    refine unmarked_append.mpr ⟨unmarked_append.mpr ⟨hscheme,
      unmarked_cons.mpr ⟨hcolon, ?_⟩⟩, hread _ hpath⟩
    cases authority with
    | some a => exact unmarked_append.mpr ⟨hslashes, hauthority a rfl⟩
    | none =>
      exact unmarked_ite hdot unmarked_nil
  query := by
    intro q hq
    obtain ⟨written, -, rfl⟩ := Option.map_eq_some_iff.mp hq
    exact hash_not_mem_encodeWith (by cases k <;> rfl) written
  bare := by
    rintro ⟨hquery, hfragment⟩
    rw [withPath, cutAt_of_not_mem hfragment]
    dsimp only
    rw [cutAt_of_not_mem hquery]
    exact ⟨rfl, rfl⟩

/-- A URL that was read from some of the characters of a text was read from the text. -/
lemma ReadFrom.of_subset {u : Url} {cs ds : List Char} (h : ReadFrom u cs) (hsub : cs ⊆ ds) :
    ReadFrom u ds :=
  ⟨h.front, h.query, fun hds => h.bare (hds.subset hsub)⟩

/-- A URL with an authority. -/
lemma readHierarchical_spec {scheme : String} {k : SchemeKind} {cs : List Char} {u : Url}
    (hscheme : Unmarked scheme.toList) (h : readHierarchical scheme k cs = .ok u) :
    ReadFrom u cs := by
  obtain ⟨⟨a, front⟩, hauthority, h⟩ := bind_eq_ok_iff.mp h
  cases h
  obtain ⟨htext, hfront⟩ := readAuthority_spec hauthority
  have hread : ∀ cs, Unmarked cs → Unmarked (readPath k cs) := fun cs _ => unmarked_readPath k cs
  refine (readFrom_withPath hscheme (fun _ e => Option.some.inj e ▸ htext) hread).of_subset ?_
  refine List.append_subset.mpr ⟨?_, (List.dropWhile_suffix _).subset⟩
  exact fun c hmem => (List.takeWhile_prefix _).subset (hfront hmem)

/-- The host of a file has no marks. -/
lemma unmarked_of_readFileHost {cs : List Char} {a : Authority} (h : readFileHost cs = .ok a) :
    Unmarked (authorityText a) := by
  rw [readFileHost] at h
  split at h
  · cases h
    exact unmarked_authorityText unmarked_nil unmarked_nil
  · obtain ⟨host, hhost, h⟩ := bind_eq_ok_iff.mp h
    cases h
    refine unmarked_authorityText unmarked_nil ?_
    dsimp only
    split
    · exact unmarked_nil
    · exact Host.unmarked_of_readSpecial hhost

/-- A URL of a file is read from its characters. -/
lemma readFile_spec {cs : List Char} {u : Url} (h : readFile cs = .ok u) : ReadFrom u cs := by
  have honPath : ∀ a rest, Unmarked (authorityText a) →
      ReadFrom (withPath "file" .file (some a) (readPath .file) rest) rest :=
    fun a rest ha => readFrom_withPath (by decide) (fun _ e => Option.some.inj e ▸ ha)
      fun cs _ => unmarked_readPath .file cs
  have hnone : Unmarked (authorityText ⟨[], .name [], none⟩) := by decide
  unfold readFile at h
  dsimp only at h
  split at h
  · rename_i first second rest
    have hrest : rest ⊆ first :: second :: rest := fun c hmem => by simp [hmem]
    -- a host may follow two slashes only, and the letter of a drive is none
    split at h
    · split at h
      · cases h
        exact (honPath _ _ hnone).of_subset hrest
      · obtain ⟨a, ha, h⟩ := bind_eq_ok_iff.mp h
        cases h
        refine (honPath _ _ ?_).of_subset fun c hmem => hrest (List.mem_of_mem_drop hmem)
        split
        · exact hnone
        · exact unmarked_of_readFileHost ha
    · cases h
      exact honPath _ _ hnone
  · cases h
    exact honPath _ _ hnone

/-- A URL of a plain scheme is read from its characters. -/
lemma readPlain_spec {scheme : String} {cs : List Char} {u : Url}
    (hscheme : Unmarked scheme.toList) (h : readPlain scheme cs = .ok u) : ReadFrom u cs := by
  unfold readPlain at h
  split at h
  · rename_i rest
    refine (readHierarchical_spec hscheme h).of_subset fun c hmem => ?_
    exact List.mem_cons_of_mem _ (List.mem_cons_of_mem _ hmem)
  · cases h
    exact readFrom_withPath hscheme nofun fun cs _ => unmarked_readPath .plain cs
  · cases h
    exact readFrom_withPath hscheme nofun fun cs hcs => hcs.encodeWith

/-- A letter of ASCII that is no mark is none in lower case. -/
lemma unmarked_toLower {c : Char} (hascii : c.toNat < 0x80) (h : Unmarked [c]) :
    Unmarked [c.toLower] := by
  have hall : ∀ n < 0x80, Unmarked [Char.ofNat n] → Unmarked [(Char.ofNat n).toLower] := by decide
  have hchar := hall c.toNat hascii
  rw [Char.ofNat_toNat] at hchar
  exact hchar h

/-- The characters of a scheme are no marks. -/
lemma unmarked_schemePart {c : Char}
    (h : (c.isAlphanum || c = '+' || c = '-' || c = '.') = true) : Unmarked [c.toLower] := by
  simp only [Bool.or_eq_true, decide_eq_true_eq] at h
  rcases h with ((h | rfl) | rfl) | rfl
  · refine unmarked_toLower (Text.toNat_lt_of_isAlphanum h) ⟨?_, ?_⟩
    · intro hmem
      rw [← List.mem_singleton.mp hmem] at h
      cases h
    · intro hmem
      rw [← List.mem_singleton.mp hmem] at h
      cases h
  · decide
  · decide
  · decide

/-- The scheme has no marks, and what follows it is of the characters of the URL. -/
lemma scheme?_spec {cs rest : List Char} {scheme : String} (h : scheme? cs = some (scheme, rest)) :
    Unmarked scheme.toList ∧ rest ⊆ cs := by
  unfold scheme? at h
  dsimp only at h
  split at h
  · rename_i c letters rest htake hdrop
    split at h
    · cases h
      refine ⟨?_, fun d hd => (List.dropWhile_suffix _).subset (hdrop ▸ List.mem_cons_of_mem _ hd)⟩
      rw [String.toList_ofList, List.map_eq_flatMap]
      refine unmarked_flatMap fun d hd => unmarked_schemePart ?_
      rw [← htake] at hd
      have hpart := List.mem_takeWhile_imp hd
      exact hpart
    · cases h
  · cases h

/-- Cleaning adds no character. -/
lemma clean_subset (s : String) : clean s ⊆ s.toList := by
  intro c hmem
  have hinner := (List.mem_filter.mp hmem).1
  have houter := (List.dropWhile_suffix _).subset (List.mem_reverse.mp hinner)
  exact (List.dropWhile_suffix _).subset (List.mem_reverse.mp houter)

/-- A URL that was read has its marks where they belong. -/
theorem readFrom_of_read {s : String} {u : Url} (h : read s = .ok u) : ReadFrom u s.toList := by
  unfold read at h
  split at h
  · cases h
  rename_i scheme rest hscheme
  obtain ⟨hunmarked, hrest⟩ := scheme?_spec hscheme
  have hsub : rest ⊆ s.toList := fun c hmem => clean_subset s (hrest hmem)
  split at h
  · exact (readFile_spec h).of_subset hsub
  · refine (readHierarchical_spec hunmarked h).of_subset fun c hmem => ?_
    exact hsub ((List.dropWhile_suffix _).subset hmem)
  · exact (readPlain_spec hunmarked h).of_subset hsub

/-- The query of a URL is found in its text. -/
lemma queryOf_text {u : Url} (hfront : Unmarked u.front) (hquery : ∀ q, u.query = some q → '#' ∉ q) :
    queryOf u.text = String.ofList (u.query.getD []) := by
  -- so the text is cut at the fragment and nowhere before it
  have hmarks : '#' ∉ u.front ++ marked '?' u.query := by
    intro hmem
    cases List.mem_append.mp hmem with
    | inl hmem => exact hfront.2 hmem
    | inr hmem =>
      cases hq : u.query with
      | none =>
        rw [hq] at hmem
        cases hmem
      | some q =>
        rw [hq] at hmem
        cases List.mem_cons.mp hmem with
        | inl e => cases e
        | inr hmem => exact hquery q hq hmem
  have hcut : (cutAt '#' u.text.toList).1 = u.front ++ marked '?' u.query := by
    rw [text, String.toList_ofList]
    cases u.fragment with
    | none => rw [marked, List.append_nil, cutAt_of_not_mem hmarks]
    | some fragment => rw [marked, cutAt_append hmarks]
  rw [queryOf]
  dsimp only
  rw [hcut]
  cases u.query with
  | none =>
    rw [marked, List.append_nil, cutAt_of_not_mem hfront.1]
    rfl
  | some q =>
    rw [marked, cutAt_append hfront.1]
    rfl

/-- Pairs that are appended to a URL stand behind its query in the text. -/
theorem queryOf_appendPairs {s : String} {u : Url} (h : read s = .ok u)
    (pairs : List (String × String)) :
    queryOf (u.appendPairs pairs).text =
      String.ofList (Form.appendPairs (u.query.getD []) pairs) := by
  obtain ⟨hfront, hquery, -⟩ := readFrom_of_read h
  have hhash : '#' ∉ u.query.getD [] := by
    cases hq : u.query with
    | none => exact List.not_mem_nil
    | some q => exact hquery q hq
  refine queryOf_text hfront fun q hq => ?_
  cases hq
  exact Form.not_mem_appendPairs hhash (by decide) (by decide) (by decide) pairs

end PagedListing.Web.Url

import Mathlib.Data.List.DropRight
import PagedListing.Proofs.Web.Url

/-!
# Origins

The text in front of a path decides whether a URL can be read: once a slash follows the origin, what
comes behind it makes no difference (`exists_readBehind_path_iff`). An origin that is a URL by itself
is one with a path behind it as well, unless it has an at sign in the place of its host
(`exists_readBehind_of_origin`).
-/

namespace PagedListing.Web.Url
open PagedListing.Steps

/-! ## What is passed over -/

/-- Whether a character is passed over at the ends of a URL. -/
def isOuter (c : Char) : Bool :=
  c.toNat ≤ 0x20

/-- Whether a character stays in a URL wherever it stands. -/
def isKept (c : Char) : Bool :=
  c ≠ '\t' && c ≠ '\n' && c ≠ '\r'

/-- A text is cleaned at both ends, and then throughout. -/
lemma clean_eq (s : String) :
    clean s = ((s.toList.dropWhile isOuter).rdropWhile isOuter).filter isKept := rfl

/-- What is passed over at the end of a text ends at a character that stays. -/
lemma rdropWhile_append {p : Char → Bool} {c : Char} (hc : p c = false) (front back : List Char) :
    (front ++ c :: back).rdropWhile p = front ++ c :: back.rdropWhile p := by
  induction back using List.reverseRecOn with
  | nil => rw [List.rdropWhile_concat_neg _ _ _ (by simp [hc]), List.rdropWhile_nil]
  | append_singleton back last ih =>
    by_cases hlast : p last = true
    · rw [← List.cons_append, ← List.append_assoc, List.rdropWhile_concat_pos _ _ _ hlast, ih,
        List.rdropWhile_concat_pos _ _ _ hlast]
    · rw [← List.cons_append, ← List.append_assoc, List.rdropWhile_concat_neg _ _ _ hlast,
        List.rdropWhile_concat_neg _ _ _ hlast]
      simp

/-- Behind a character that is no blank, blanks are passed over at the end of what follows. -/
lemma clean_append {first c : Char} (hfirst : isOuter first = false) (hc : isOuter c = false)
    (front back : List Char) :
    clean (String.ofList (first :: front ++ c :: back)) =
      (first :: front).filter isKept ++ (c :: back.rdropWhile isOuter).filter isKept := by
  rw [clean_eq, String.toList_ofList, List.cons_append,
    List.dropWhile_cons_of_neg (by simp [hfirst]), ← List.cons_append, rdropWhile_append hc,
    List.filter_append]

/-- Letters are not passed over. -/
lemma isOuter_of_isAlpha {c : Char} (h : c.isAlpha = true) : isOuter c = false := by
  have h : (decide (c.val ≥ 'A'.val ∧ c.val ≤ 'Z'.val) ||
      (decide (c.val ≥ 'a'.val) && decide (c.val ≤ 'z'.val))) = true := h
  simp only [ge_iff_le, Bool.or_eq_true, Bool.and_eq_true, decide_eq_true_eq,
    UInt32.le_iff_toNat_le, Char.toNat_val, Char.reduceToNat] at h
  rw [isOuter, decide_eq_false_iff_not]
  omega

/-- Letters stay in a URL. -/
lemma isKept_of_isAlpha {c : Char} (h : c.isAlpha = true) : isKept c = true := by
  simp only [isKept, Bool.and_eq_true, decide_eq_true_eq]
  refine ⟨⟨?_, ?_⟩, ?_⟩
  all_goals
    rintro rfl
    cases h

/-! ## What stands behind the scheme -/

/-- The URL of a scheme, of which the characters after the colon are given. -/
def readBehind (scheme : String) (rest : List Char) : Except UrlProblem Url :=
  match SchemeKind.ofScheme scheme with
  | .file => readFile rest
  | .special => readHierarchical scheme .special (rest.dropWhile SchemeKind.special.isSlash)
  | .plain => readPlain scheme rest

/-- The scheme of letters. -/
def schemeOf (letters : List Char) : String :=
  String.ofList (letters.map Char.toLower)

/-- Whether a character may stand in a scheme. -/
def isSchemePart (c : Char) : Bool :=
  c.isAlphanum || c = '+' || c = '-' || c = '.'

/-- The letters before a colon are the scheme. -/
lemma scheme?_append {letters : List Char} (hne : letters ≠ [])
    (hletters : ∀ c ∈ letters, c.isAlpha = true) (rest : List Char) :
    scheme? (letters ++ ':' :: rest) = some (schemeOf letters, rest) := by
  have hpart : ∀ c ∈ letters, isSchemePart c = true := by
    intro c hc
    simp [isSchemePart, Char.isAlphanum, hletters c hc]
  have hcolon : ¬ isSchemePart ':' = true := by decide
  have htake : (letters ++ ':' :: rest).takeWhile isSchemePart = letters := by
    rw [List.takeWhile_append_of_pos hpart, List.takeWhile_cons_of_neg hcolon, List.append_nil]
  have hdrop : (letters ++ ':' :: rest).dropWhile isSchemePart = ':' :: rest := by
    rw [List.dropWhile_append_of_pos hpart, List.dropWhile_cons_of_neg hcolon]
  unfold isSchemePart at htake hdrop
  simp only [scheme?, htake, hdrop]
  cases letters with
  | nil => exact absurd rfl hne
  | cons c letters => exact if_pos (hletters c List.mem_cons_self)

/-- A URL with slashes behind a scheme of letters: blanks count up to the end of what follows them. -/
theorem read_of_letters {letters : List Char} (hne : letters ≠ [])
    (hletters : ∀ c ∈ letters, c.isAlpha = true) (back : List Char) :
    read (String.ofList (letters ++ ':' :: '/' :: '/' :: back)) =
      readBehind (schemeOf letters)
        ('/' :: '/' :: (back.rdropWhile isOuter).filter isKept) := by
  have hclean : clean (String.ofList (letters ++ ':' :: '/' :: '/' :: back)) =
      letters ++ ':' :: '/' :: '/' :: (back.rdropWhile isOuter).filter isKept := by
    have hkept : letters.filter isKept = letters :=
      List.filter_eq_self.mpr fun c hc => isKept_of_isAlpha (hletters c hc)
    have hmarks : ([':', '/'].filter isKept) = [':', '/'] := by decide
    cases letters with
    | nil => exact absurd rfl hne
    | cons first letters =>
      have hfirst := isOuter_of_isAlpha (hletters first List.mem_cons_self)
      have happend := clean_append hfirst (show isOuter '/' = false by decide)
        (letters ++ [':', '/']) back
      rw [← List.cons_append, List.filter_append, hkept, hmarks, List.filter_cons_of_pos rfl]
        at happend
      simpa using happend
  rw [read, hclean, scheme?_append hne hletters]
  rfl

/-! ## Paths -/

variable {scheme : String} {k : SchemeKind}

/-- A URL can be read if its authority can. -/
lemma exists_readHierarchical_iff (cs : List Char) :
    (∃ url, readHierarchical scheme k cs = .ok url) ↔
      ∃ x, readAuthority scheme k (cs.takeWhile (!k.endsAuthority ·))
        (cs.dropWhile (!k.endsAuthority ·)).isEmpty = .ok x := by
  constructor
  · rintro ⟨url, h⟩
    obtain ⟨x, hx, -⟩ := bind_eq_ok_iff.mp h
    exact ⟨x, hx⟩
  · rintro ⟨x, hx⟩
    exact ⟨_, bind_eq_ok_iff.mpr ⟨x, hx, rfl⟩⟩

/-- The authority ends at a slash. -/
lemma endsAuthority_slash (k : SchemeKind) : k.endsAuthority '/' = true := by
  cases k <;> rfl

/-- The authority ends at the slash at the latest. -/
lemma takeWhile_path (g p : List Char) :
    (g ++ '/' :: p).takeWhile (!k.endsAuthority ·) = g.takeWhile (!k.endsAuthority ·) := by
  rw [List.takeWhile_append, List.takeWhile_cons_of_neg (by simp [endsAuthority_slash]),
    List.append_nil]
  split
  · rename_i hall
    exact ((List.takeWhile_prefix _).eq_of_length hall).symm
  · rfl

/-- With a slash behind it the authority is not the end. -/
lemma isEmpty_dropWhile_path (g p : List Char) :
    ((g ++ '/' :: p).dropWhile (!k.endsAuthority ·)).isEmpty = false := by
  rw [List.dropWhile_append, List.dropWhile_cons_of_neg (by simp [endsAuthority_slash])]
  split
  · rfl
  · simp

/-- With a path behind it an authority is read on its own. -/
lemma exists_readHierarchical_path_iff (g p : List Char) :
    (∃ url, readHierarchical scheme k (g ++ '/' :: p) = .ok url) ↔
      ∃ x, readAuthority scheme k (g.takeWhile (!k.endsAuthority ·)) false = .ok x := by
  rw [exists_readHierarchical_iff, takeWhile_path, isEmpty_dropWhile_path]

/-- A URL of a file can be read if it names a drive or a host. -/
lemma exists_readFile_iff (rest : List Char) :
    (∃ url, readFile ('/' :: '/' :: rest) = .ok url) ↔
      isDriveLetter (rest.takeWhile (!SchemeKind.file.endsAuthority ·)) = true ∨
        ∃ a, readFileHost (rest.takeWhile (!SchemeKind.file.endsAuthority ·)) = .ok a := by
  rw [readFile]
  dsimp only
  rw [if_pos ⟨rfl, rfl⟩]
  split
  · rename_i hdrive
    exact ⟨fun _ => .inl hdrive, fun _ => ⟨_, rfl⟩⟩
  · rename_i hdrive
    constructor
    · rintro ⟨url, h⟩
      obtain ⟨a, ha, -⟩ := bind_eq_ok_iff.mp h
      exact .inr ⟨a, ha⟩
    · rintro (h | ⟨a, ha⟩)
      · exact absurd h hdrive
      · exact ⟨_, bind_eq_ok_iff.mpr ⟨a, ha, rfl⟩⟩

/-- The slashes before an authority are passed over up to its first other character. -/
lemma dropWhile_slashes {g : List Char} (h : ∃ c ∈ g, SchemeKind.special.isSlash c = false)
    (back : List Char) :
    ('/' :: '/' :: (g ++ back)).dropWhile SchemeKind.special.isSlash =
      g.dropWhile SchemeKind.special.isSlash ++ back := by
  have hne : ¬ (g.dropWhile SchemeKind.special.isSlash).isEmpty = true := by
    rw [List.isEmpty_iff, List.dropWhile_eq_nil_iff]
    obtain ⟨c, hc, hslash⟩ := h
    intro hall
    rw [hall c hc] at hslash
    cases hslash
  rw [List.dropWhile_cons_of_pos rfl, List.dropWhile_cons_of_pos rfl, List.dropWhile_append,
    if_neg hne]

/-- What stands behind the slash after an origin makes no difference. -/
theorem exists_readBehind_path_iff {g : List Char}
    (hg : SchemeKind.ofScheme scheme = .special → ∃ c ∈ g, SchemeKind.special.isSlash c = false)
    (p q : List Char) :
    (∃ url, readBehind scheme ('/' :: '/' :: (g ++ '/' :: p)) = .ok url) ↔
      ∃ url, readBehind scheme ('/' :: '/' :: (g ++ '/' :: q)) = .ok url := by
  unfold readBehind
  cases hkind : SchemeKind.ofScheme scheme with
  | file =>
    dsimp only
    rw [exists_readFile_iff, exists_readFile_iff, takeWhile_path, takeWhile_path]
  | special =>
    dsimp only
    rw [dropWhile_slashes (hg hkind), dropWhile_slashes (hg hkind),
      exists_readHierarchical_path_iff, exists_readHierarchical_path_iff]
  | plain =>
    show (∃ url, readHierarchical scheme .plain (g ++ '/' :: p) = .ok url) ↔
      ∃ url, readHierarchical scheme .plain (g ++ '/' :: q) = .ok url
    rw [exists_readHierarchical_path_iff, exists_readHierarchical_path_iff]

/-! ## Origins without a path -/

/-- Only a lone at sign has an empty user and nothing behind it. -/
lemma eq_of_splitUser {cs : List Char} (h : splitUser cs = (some [], [])) : cs = ['@'] := by
  have hcut := List.takeWhile_append_dropWhile (p := fun c => decide (c ≠ '@')) (l := cs.reverse)
  unfold splitUser at h
  dsimp only at h
  split at h
  · cases h
  · rename_i c before hdrop
    have hc : c = '@' := by
      have hhead := List.head?_dropWhile_not (fun c => decide (c ≠ '@')) cs.reverse
      rw [hdrop] at hhead
      simpa using hhead
    simp only [Prod.mk.injEq, Option.some.injEq, List.reverse_eq_nil_iff] at h
    obtain ⟨rfl, htake⟩ := h
    rw [htake, hdrop, hc] at hcut
    exact List.reverse_eq_iff.mp hcut.symm

/-- A lone at sign in the place of an authority is read at the end of a URL only, and of no special
scheme. Nothing else depends on the end. -/
lemma readAuthority_of_end {cs : List Char} {x : Authority × List Char}
    (h : readAuthority scheme k cs true = .ok x) (hat : k.isSpecial = true ∨ cs ≠ ['@']) :
    readAuthority scheme k cs false = .ok x := by
  have hlone := @eq_of_splitUser cs
  unfold readAuthority at h ⊢
  generalize splitUser cs = split at h hlone ⊢
  obtain ⟨before, after⟩ := split
  dsimp only at h ⊢
  obtain ⟨-, h⟩ := unless_throw_eq_ok_iff.mp h
  refine unless_throw_eq_ok_iff.mpr ⟨?_, h⟩
  rintro ⟨rfl, rfl, -⟩
  cases hat with
  | inl hspecial =>
    obtain ⟨hhost, -⟩ := unless_throw_eq_ok_iff.mp h
    exact hhost ⟨hspecial, rfl⟩
  | inr hne => exact hne (hlone rfl)

/-- If nothing is left behind what is taken, all is taken. -/
lemma takeWhile_of_isEmpty_dropWhile {p : Char → Bool} {cs : List Char}
    (h : (cs.dropWhile p).isEmpty = true) : cs.takeWhile p = cs := by
  have hcut := List.takeWhile_append_dropWhile (p := p) (l := cs)
  rwa [List.isEmpty_iff.mp h, List.append_nil] at hcut

/-- A URL that can be read can be read with a path behind it. -/
lemma exists_readHierarchical_path {g : List Char} {url : Url}
    (h : readHierarchical scheme k g = .ok url) (hat : k.isSpecial = true ∨ g ≠ ['@'])
    (p : List Char) : ∃ url, readHierarchical scheme k (g ++ '/' :: p) = .ok url := by
  obtain ⟨x, hx⟩ := (exists_readHierarchical_iff g).mp ⟨url, h⟩
  refine (exists_readHierarchical_path_iff g p).mpr ⟨x, ?_⟩
  cases hend : (g.dropWhile (!k.endsAuthority ·)).isEmpty with
  | false =>
    rw [hend] at hx
    exact hx
  | true =>
    have hall := takeWhile_of_isEmpty_dropWhile hend
    rw [hend] at hx
    refine readAuthority_of_end hx (hat.imp id ?_)
    rw [hall]
    exact id

/-- An origin that is a URL has an authority behind its slashes if its scheme is special. -/
lemma exists_host_of_special {g : List Char} {url : Url}
    (h : readBehind scheme ('/' :: '/' :: g) = .ok url)
    (hkind : SchemeKind.ofScheme scheme = .special) :
    ∃ c ∈ g, SchemeKind.special.isSlash c = false := by
  by_contra hnone
  have hall : ∀ c ∈ '/' :: '/' :: g, SchemeKind.special.isSlash c = true := by
    intro c hc
    rw [List.mem_cons, List.mem_cons] at hc
    rcases hc with rfl | rfl | hc
    · rfl
    · rfl
    · by_contra hslash
      exact hnone ⟨c, hc, Bool.eq_false_iff.mpr hslash⟩
  rw [readBehind, hkind] at h
  dsimp only at h
  rw [List.dropWhile_eq_nil_iff.mpr hall] at h
  cases h

/-- An origin that is a URL is one with a path behind it, too, unless a lone at sign stands for its
host. -/
theorem exists_readBehind_of_origin {g : List Char} {url : Url}
    (h : readBehind scheme ('/' :: '/' :: g) = .ok url) (hat : g ≠ ['@']) (p : List Char) :
    ∃ url, readBehind scheme ('/' :: '/' :: (g ++ '/' :: p)) = .ok url := by
  have hspecial := exists_host_of_special h
  unfold readBehind at h ⊢
  cases hkind : SchemeKind.ofScheme scheme with
  | file =>
    rw [hkind] at h
    refine (exists_readFile_iff _).mpr ?_
    rw [takeWhile_path]
    exact (exists_readFile_iff g).mp ⟨url, h⟩
  | special =>
    have hg := dropWhile_slashes (hspecial hkind)
    have hg' := hg []
    rw [List.append_nil, List.append_nil] at hg'
    rw [hkind] at h
    dsimp only at h ⊢
    rw [hg'] at h
    rw [hg]
    exact exists_readHierarchical_path h (.inl rfl) p
  | plain =>
    rw [hkind] at h
    exact exists_readHierarchical_path (k := .plain) h (.inr hat) p

end PagedListing.Web.Url

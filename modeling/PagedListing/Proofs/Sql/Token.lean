import Mathlib.Data.List.TakeWhile
import Mathlib.Tactic.Lemma
import PagedListing.Schema
import PagedListing.Sql.Identifier

/-!
# Tokens of statements

A text between marks, in which each mark is doubled, is read back as it was and up to its end, whatever
characters it has (`readMarked?_doubleMarks`); a quoted name is such a text
(`readIdentifier?_quote`). Reading the tokens of a text undoes writing them, if of two tokens side by
side one at least is a single sign (`tokens?_write`).
-/

namespace PagedListing.Sql

/-! ## Texts between marks -/

/-- The characters of a text with every mark doubled. -/
def doubleMarks (mark : Char) (cs : List Char) : List Char :=
  cs.flatMap fun c => if c = mark then [mark, mark] else [c]

/-- The text up to the closing mark, and what follows. -/
def readMarked? (mark : Char) : List Char → Option (List Char × List Char)
  | [] => none
  | [c] => if c = mark then some ([], []) else none
  | c :: d :: cs =>
    if c ≠ mark then (readMarked? mark (d :: cs)).map fun (text, rest) => (c :: text, rest)
    else if d ≠ mark then some ([], d :: cs)
    else (readMarked? mark cs).map fun (text, rest) => (mark :: text, rest)

/-- A character other than the mark is taken into the text. -/
lemma readMarked?_of_ne {mark c : Char} (h : c ≠ mark) (cs : List Char) :
    readMarked? mark (c :: cs) = (readMarked? mark cs).map fun (text, rest) => (c :: text, rest) := by
  cases cs with
  | nil => simp [readMarked?, h]
  | cons d cs => simp [readMarked?, h]

/-- A mark that stands alone closes the text. -/
lemma readMarked?_close {mark : Char} {rest : List Char} (h : rest.head? ≠ some mark) :
    readMarked? mark (mark :: rest) = some ([], rest) := by
  cases rest with
  | nil => simp [readMarked?]
  | cons d rest =>
    have hd : d ≠ mark := fun e => h (congrArg some e)
    simp [readMarked?, hd]

/-- Two marks stand for one. -/
lemma readMarked?_double (mark : Char) (cs : List Char) :
    readMarked? mark (mark :: mark :: cs) =
      (readMarked? mark cs).map fun (text, rest) => (mark :: text, rest) := by
  simp [readMarked?]

/-- A text between marks is read back, and the reading ends where it ends: no run of marks in the
text, or at its end, is taken for the closing mark. -/
theorem readMarked?_doubleMarks (mark : Char) (cs : List Char) {rest : List Char}
    (h : rest.head? ≠ some mark) :
    readMarked? mark (doubleMarks mark cs ++ mark :: rest) = some (cs, rest) := by
  induction cs with
  | nil => exact readMarked?_close h
  | cons c cs ih =>
    rw [doubleMarks, List.flatMap_cons, ← doubleMarks]
    by_cases hc : c = mark
    · -- the doubled mark is read as one, also where the closing mark is next
      subst hc
      rw [if_pos rfl]
      show readMarked? c (c :: c :: (doubleMarks c cs ++ c :: rest)) = _
      rw [readMarked?_double, ih]
      rfl
    · rw [if_neg hc]
      show readMarked? mark (c :: (doubleMarks mark cs ++ mark :: rest)) = _
      rw [readMarked?_of_ne hc, ih]
      rfl

/-- What follows a text between marks is shorter. -/
lemma length_readMarked? {mark : Char} {cs text rest : List Char}
    (h : readMarked? mark cs = some (text, rest)) : rest.length < cs.length := by
  fun_induction readMarked? mark cs generalizing text with
  | case1 => cases h
  | case2 =>
    cases h
    exact Nat.zero_lt_one
  | case3 => cases h
  | case4 c d cs _ ih =>
    obtain ⟨⟨inner, after⟩, hread, h⟩ := Option.map_eq_some_iff.mp h
    cases h
    exact Nat.lt_succ_of_lt (ih hread)
  | case5 c d cs =>
    cases h
    exact Nat.lt_succ_self _
  | case6 c d cs _ _ ih =>
    obtain ⟨⟨inner, after⟩, hread, h⟩ := Option.map_eq_some_iff.mp h
    cases h
    exact Nat.lt_succ_of_lt (Nat.lt_succ_of_lt (ih hread))

/-- Quotes are doubled as any mark is. -/
lemma doubleQuotes_eq (cs : List Char) : doubleQuotes cs = doubleMarks '"' cs := by
  induction cs with
  | nil => rfl
  | cons c cs ih =>
    rw [doubleQuotes, ih, doubleMarks, doubleMarks, List.flatMap_cons]
    split <;> rfl

/-- Quoted text is read as between any marks. -/
lemma readQuoted?_eq (cs : List Char) : readQuoted? cs = readMarked? '"' cs := by
  fun_induction readQuoted? cs with
  | case1 => rfl
  | case2 cs ih => rw [ih, readMarked?_double]
  | case3 cs hcs =>
    refine (readMarked?_close fun hhead => ?_).symm
    obtain ⟨rest, rfl⟩ := List.head?_eq_some_iff.mp hhead
    exact hcs rest rfl
  | case4 c cs _ hc ih => rw [ih, readMarked?_of_ne fun e => hc e]

/-- A quoted name is the name with its quotes doubled, between quotes. -/
lemma toList_quote_eq (name : String) :
    (quote name).toList = '"' :: (doubleMarks '"' name.toList ++ ['"']) := by
  rw [quote, String.toList_ofList, doubleQuotes_eq, List.cons_append]

/-- A quoted name is read back whatever characters it has, and so is the text behind it. -/
theorem readIdentifier?_quote (name : String) {rest : List Char} (h : rest.head? ≠ some '"') :
    readIdentifier? ((quote name).toList ++ rest) = some (name.toList, rest) := by
  rw [toList_quote_eq, List.cons_append, readIdentifier?, readQuoted?_eq, List.append_assoc]
  exact readMarked?_doubleMarks '"' name.toList h

/-! ## Tokens -/

/-- A token of a statement: a name or a literal between marks, a word, or a sign, as which a blank
counts too. -/
inductive Token where
  | name (s : String)
  | literal (s : String)
  | word (s : String)
  | sign (c : Char)
  deriving DecidableEq

/-- Whether a character is a token by itself. -/
def isSignChar (c : Char) : Bool :=
  !isIdentifierRest c && c ≠ '"' && c ≠ '\''

/-- The token that begins with a character, and what follows. -/
def token? (c : Char) (cs : List Char) : Option (Token × List Char) :=
  if c = '"' then (readQuoted? cs).map fun (text, rest) => (.name (String.ofList text), rest)
  else if c = '\'' then
    (readMarked? '\'' cs).map fun (text, rest) => (.literal (String.ofList text), rest)
  else if isIdentifierRest c then
    some (.word (String.ofList (c :: cs.takeWhile isIdentifierRest)), cs.dropWhile isIdentifierRest)
  else some (.sign c, cs)

/-- Reading a token leaves no more characters than there were. -/
lemma length_token? {c : Char} {cs rest : List Char} {t : Token}
    (h : token? c cs = some (t, rest)) : rest.length ≤ cs.length := by
  rw [token?] at h
  split_ifs at h
  · rw [readQuoted?_eq] at h
    obtain ⟨⟨text, after⟩, hread, h⟩ := Option.map_eq_some_iff.mp h
    cases h
    exact (length_readMarked? hread).le
  · obtain ⟨⟨text, after⟩, hread, h⟩ := Option.map_eq_some_iff.mp h
    cases h
    exact (length_readMarked? hread).le
  · cases h
    exact (List.dropWhile_suffix _).length_le
  · cases h
    exact le_rfl

/-- The tokens of a text. -/
def tokens? : List Char → Option (List Token)
  | [] => some []
  | c :: cs =>
    match _h : token? c cs with
    | some (t, rest) => (tokens? rest).map (t :: ·)
    | none => none
  termination_by cs => cs.length
  decreasing_by exact Nat.lt_succ_of_le (length_token? ‹_›)

/-- The first token of a text is the first of its tokens. -/
lemma tokens?_cons {c : Char} {cs rest : List Char} {t : Token} (h : token? c cs = some (t, rest)) :
    tokens? (c :: cs) = (tokens? rest).map (t :: ·) := by
  rw [tokens?]
  split
  · rename_i htoken
    rw [h] at htoken
    cases htoken
    rfl
  · rename_i htoken
    rw [h] at htoken
    cases htoken

namespace Token

/-- The characters of a token. -/
def write : Token → List Char
  | name s => '"' :: (doubleMarks '"' s.toList ++ ['"'])
  | literal s => '\'' :: (doubleMarks '\'' s.toList ++ ['\''])
  | word s => s.toList
  | sign c => [c]

/-- Whether a token is a sign. -/
def isSign : Token → Bool
  | sign _ => true
  | _ => false

/-- Whether a word and a sign have characters of their own kind. -/
def isValid : Token → Bool
  | name _ | literal _ => true
  | word s => !s.toList.isEmpty && s.toList.all isIdentifierRest
  | sign c => isSignChar c

end Token

/-- Whether tokens stay apart when they are written side by side. -/
def spaced : List Token → Bool
  | [] => true
  | t :: ts => t.isValid && (t.isSign || ts.head?.all Token.isSign) && spaced ts

/-- A token stays apart from those behind it if it is a sign or a sign comes next. -/
lemma spaced_cons {t : Token} {ts : List Token} :
    spaced (t :: ts) = true ↔
      t.isValid = true ∧ (t.isSign = true ∨ ts.head?.all Token.isSign = true) ∧ spaced ts = true := by
  rw [spaced, Bool.and_eq_true, Bool.and_eq_true, Bool.or_eq_true, and_assoc]

/-- Tokens stay apart that have a sign between them. -/
lemma spaced_append {us vs : List Token} {c : Char} (hus : spaced us = true)
    (hc : isSignChar c = true) (hvs : spaced vs = true) :
    spaced (us ++ .sign c :: vs) = true := by
  induction us with
  | nil => exact spaced_cons.mpr ⟨hc, .inl rfl, hvs⟩
  | cons t us ih =>
    obtain ⟨ht, hnext, hus⟩ := spaced_cons.mp hus
    refine spaced_cons.mpr ⟨ht, hnext.imp_right fun hnext => ?_, ih hus⟩
    cases us with
    | nil => rfl
    | cons u us => exact hnext

/-- A character of identifiers is none of the marks. -/
lemma ne_of_isIdentifierRest {c mark : Char} (h : isIdentifierRest c = true)
    (hmark : isIdentifierRest mark = false) : c ≠ mark := by
  rintro rfl
  rw [hmark] at h
  cases h

/-- A token is read back if it is a sign or what follows begins with one. -/
lemma token?_write {t : Token} (ht : t.isValid = true) {rest : List Char}
    (hrest : t.isSign = true ∨ ∀ c, rest.head? = some c → isSignChar c = true) :
    ∃ c cs, t.write ++ rest = c :: cs ∧ token? c cs = some (t, rest) := by
  cases t with
  | name s =>
    have hhead : rest.head? ≠ some '"' := fun h => nomatch (hrest.resolve_left nofun) _ h
    refine ⟨'"', doubleMarks '"' s.toList ++ '"' :: rest, by simp [Token.write], ?_⟩
    rw [token?, if_pos rfl, readQuoted?_eq, readMarked?_doubleMarks _ _ hhead]
    show some (Token.name (String.ofList s.toList), rest) = _
    rw [String.ofList_toList]
  | literal s =>
    have hhead : rest.head? ≠ some '\'' := fun h => nomatch (hrest.resolve_left nofun) _ h
    refine ⟨'\'', doubleMarks '\'' s.toList ++ '\'' :: rest, by simp [Token.write], ?_⟩
    rw [token?, if_neg (by decide), if_pos rfl, readMarked?_doubleMarks _ _ hhead]
    show some (Token.literal (String.ofList s.toList), rest) = _
    rw [String.ofList_toList]
  | word s =>
    simp only [Token.isValid, Bool.and_eq_true, Bool.not_eq_true', List.isEmpty_eq_false_iff] at ht
    obtain ⟨hne, hall⟩ := ht
    obtain ⟨c, cs, hs⟩ := List.exists_cons_of_ne_nil hne
    rw [hs, List.all_cons, Bool.and_eq_true] at hall
    obtain ⟨hc, hcs⟩ := hall
    have hcs := List.all_eq_true.mp hcs
    have hstop : ∀ d, rest.head? = some d → isIdentifierRest d = false := by
      intro d hd
      have hsign := (hrest.resolve_left nofun) d hd
      simp only [isSignChar, Bool.and_eq_true, Bool.not_eq_true'] at hsign
      exact hsign.1.1
    -- the word ends where the sign behind it begins
    have htake : rest.takeWhile isIdentifierRest = [] ∧ rest.dropWhile isIdentifierRest = rest := by
      cases rest with
      | nil => exact ⟨rfl, rfl⟩
      | cons d rest => simp [hstop d rfl]
    refine ⟨c, cs ++ rest, by rw [Token.write, hs, List.cons_append], ?_⟩
    rw [token?, if_neg (ne_of_isIdentifierRest hc rfl), if_neg (ne_of_isIdentifierRest hc rfl),
      if_pos hc, List.takeWhile_append_of_pos hcs, List.dropWhile_append_of_pos hcs, htake.1, htake.2,
      List.append_nil, ← hs, String.ofList_toList]
  | sign c =>
    simp only [Token.isValid, isSignChar, Bool.and_eq_true, Bool.not_eq_true', decide_eq_true_eq] at ht
    obtain ⟨⟨hrest, hquote⟩, hmark⟩ := ht
    refine ⟨c, rest, rfl, ?_⟩
    rw [token?, if_neg hquote, if_neg hmark, if_neg (by rw [hrest]; exact Bool.false_ne_true)]

/-- Tokens that begin with a sign are written with a sign at their front. -/
lemma isSignChar_of_head? {ts : List Token} (h : spaced ts = true)
    (hsign : ts.head?.all Token.isSign = true) :
    ∀ c, (ts.flatMap Token.write).head? = some c → isSignChar c = true := by
  intro c hc
  cases ts with
  | nil => cases hc
  | cons t ts =>
    cases t with
    | sign d =>
      cases hc
      exact (spaced_cons.mp h).1
    | name _ | literal _ | word _ => cases hsign

/-- Reading the tokens of a text undoes writing them. -/
theorem tokens?_write {ts : List Token} (h : spaced ts = true) :
    tokens? (ts.flatMap Token.write) = some ts := by
  induction ts with
  | nil => rw [List.flatMap_nil, tokens?]
  | cons t ts ih =>
    obtain ⟨ht, hnext, hts⟩ := spaced_cons.mp h
    obtain ⟨c, cs, htext, htoken⟩ := token?_write ht (hnext.imp_right (isSignChar_of_head? hts))
    rw [List.flatMap_cons, htext, tokens?_cons htoken, ih hts, Option.map_some]

end PagedListing.Sql

import PagedListing.Proofs.Sql.Statement
import PagedListing.Proofs.Sql.Token

/-!
# Names read from statements

A statement is a list of clauses, each with the word that it begins with. No other word of a statement
begins a clause, whatever the names are, for names are tokens by themselves. So a reader of tokens finds
in each clause the names that were written in it (`Select.namesIn_tokens`).
-/

namespace PagedListing.Sql

/-! ## Readers of tokens -/

/-- The words with which the clauses of a statement begin. -/
def clauseWords : List String := ["SELECT", "FROM", "WHERE", "ORDER", "LIMIT", "OFFSET"]

/-- The names in the clauses that begin with a word. The tokens may begin inside such a clause. -/
def namesIn (word : String) : Bool → List Token → List String
  | _, [] => []
  | inside, .word w :: ts =>
    if w ∈ clauseWords then namesIn word (w = word) ts else namesIn word inside ts
  | inside, .name s :: ts => if inside then s :: namesIn word inside ts else namesIn word inside ts
  | inside, .literal _ :: ts => namesIn word inside ts
  | inside, .sign _ :: ts => namesIn word inside ts

namespace Token

/-- Whether a token begins a clause. -/
def opensClause : Token → Bool
  | word s => s ∈ clauseWords
  | _ => false

/-- The name that a token is. -/
def names : Token → List String
  | name s => [s]
  | _ => []

end Token

/-- Tokens inside a clause. -/
structure Inert (ts : List Token) : Prop where
  spaced : spaced ts = true
  inner : ts.all (!·.opensClause) = true

/-- A reader inside of a clause takes the name that a token is, and goes on. -/
lemma namesIn_cons {t : Token} (h : t.opensClause = false) (word : String) (inside : Bool)
    (ts : List Token) :
    namesIn word inside (t :: ts) = (if inside then t.names else []) ++ namesIn word inside ts := by
  cases t with
  | name s => cases inside <;> rfl
  | literal s => cases inside <;> rfl
  | word w =>
    have hw : w ∉ clauseWords := of_decide_eq_false h
    rw [namesIn, if_neg hw]
    cases inside <;> rfl
  | sign c => cases inside <;> rfl

/-- Inside a clause a reader finds the names that stand there, or none if the clause is another one. -/
lemma namesIn_append {body : List Token} (h : body.all (!·.opensClause) = true) (word : String)
    (inside : Bool) (rest : List Token) :
    namesIn word inside (body ++ rest) =
      (if inside then body.flatMap Token.names else []) ++ namesIn word inside rest := by
  induction body with
  | nil => cases inside <;> rfl
  | cons t body ih =>
    rw [List.all_cons, Bool.and_eq_true, Bool.not_eq_true'] at h
    obtain ⟨ht, hbody⟩ := h
    rw [List.cons_append, namesIn_cons ht, ih hbody]
    cases inside with
    | false => rfl
    | true => exact (List.append_assoc _ _ _).symm

namespace Inert

/-- There may be nothing inside a clause. -/
lemma nil : Inert [] := ⟨rfl, rfl⟩

/-- Tokens inside a clause with a sign between them are inside a clause. -/
lemma append {us vs : List Token} {c : Char} (hus : Inert us) (hc : isSignChar c = true)
    (hvs : Inert vs) : Inert (us ++ .sign c :: vs) where
  spaced := spaced_append hus.spaced hc hvs.spaced
  inner := by
    rw [List.all_append, List.all_cons, hus.inner, hvs.inner]
    rfl

end Inert

/-! ## Lists of items -/

/-- What is mapped to joined lists is what is mapped to each of them, joined by what is mapped to the
separator. -/
lemma flatMap_intercalate {α β : Type} (f : α → List β) (separator : List α) (l : List (List α)) :
    (separator.intercalate l).flatMap f =
      (separator.flatMap f).intercalate (l.map fun item => item.flatMap f) := by
  induction l with
  | nil => rfl
  | cons first l ih =>
    cases l with
    | nil => simp
    | cons second l =>
      rw [List.intercalate_cons_cons, List.flatMap_append, List.flatMap_append, ih, List.map_cons,
        List.map_cons, List.map_cons, List.intercalate_cons_cons]

/-- Items joined by a separator that keeps its neighbours apart are inside a clause if each item is. -/
lemma Inert.intercalate {separator : List Token}
    (hseparator : ∀ us vs, Inert us → Inert vs → Inert (us ++ separator ++ vs)) {l : List (List Token)}
    (h : ∀ item ∈ l, Inert item) : Inert (separator.intercalate l) := by
  induction l with
  | nil => exact Inert.nil
  | cons first l ih =>
    obtain ⟨hfirst, hrest⟩ := List.forall_mem_cons.mp h
    cases l with
    | nil =>
      rw [List.intercalate_singleton]
      exact hfirst
    | cons second l =>
      rw [List.intercalate_cons_cons]
      exact hseparator _ _ hfirst (ih hrest)

/-- A comma and a blank. -/
def comma : List Token := [.sign ',', .sign ' ']

/-- The word that joins conditions, between blanks. -/
def conjunction : List Token := [.sign ' ', .word "AND", .sign ' ']

/-- Tokens inside a clause with a comma between them are inside a clause. -/
lemma Inert.append_comma {us vs : List Token} (hus : Inert us) (hvs : Inert vs) :
    Inert (us ++ comma ++ vs) := by
  rw [comma, List.append_assoc]
  exact hus.append rfl (Inert.nil.append rfl hvs)

/-- The word that joins conditions is inside a clause. -/
lemma inert_and : Inert [.word "AND"] := ⟨rfl, rfl⟩

/-- Tokens inside a clause that are joined as conditions are inside a clause. -/
lemma Inert.append_conjunction {us vs : List Token} (hus : Inert us) (hvs : Inert vs) :
    Inert (us ++ conjunction ++ vs) := by
  rw [conjunction, List.append_assoc]
  exact hus.append rfl (inert_and.append rfl hvs)

/-- Items with commas between them have the names of the items. -/
lemma names_comma {α : Type} {tokens : α → List Token} {name : α → String}
    (h : ∀ a, (tokens a).flatMap Token.names = [name a]) (l : List α) :
    (comma.intercalate (l.map tokens)).flatMap Token.names = l.map name := by
  induction l with
  | nil => rfl
  | cons first l ih =>
    cases l with
    | nil =>
      rw [List.map_singleton, List.intercalate_singleton, h]
      rfl
    | cons second l =>
      have hcomma : comma.flatMap Token.names = [] := rfl
      rw [List.map_cons, List.map_cons, List.intercalate_cons_cons, List.flatMap_append,
        List.flatMap_append, ← List.map_cons (f := tokens), ih, h, hcomma]
      rfl

/-! ## Tokens of conditions -/

/-- The tokens of a place. -/
def Place.tokens : Place → List Token
  | plain _ => [.sign '?']
  | timestamp _ =>
    [.word "CAST", .sign '(', .sign '?', .sign ' ', .word "AS", .sign ' ', .word "TIMESTAMP", .sign ')']

/-- The tokens of a condition. -/
def Condition.tokens : Condition → List Token
  | compare column relation place =>
    .name column :: .sign ' ' :: (relationSign relation).toList.map Token.sign ++
      .sign ' ' :: place.tokens
  | between column low high =>
    [.name column, .sign ' ', .word "BETWEEN"] ++ .sign ' ' :: (low.tokens ++ conjunction ++ high.tokens)
  | among column places =>
    [.name column, .sign ' ', .word "IN", .sign ' '] ++ .sign '(' ::
      (comma.intercalate (places.map Place.tokens) ++ .sign ')' :: [])
  | like column ignoreCase _ =>
    [.name column, .sign ' ', .word (if ignoreCase then "ILIKE" else "LIKE"), .sign ' ', .sign '?',
      .sign ' ', .word "ESCAPE", .sign ' ', .literal "\\"]

/-- A place is inside a clause. -/
lemma Place.inert (place : Place) : Inert place.tokens := by
  cases place with
  | plain _ => exact ⟨rfl, rfl⟩
  | timestamp _ => exact ⟨rfl, rfl⟩

/-- A condition is inside a clause. -/
lemma Condition.inert (c : Condition) : Inert c.tokens := by
  cases c with
  | compare column relation place =>
    have hfront : Inert (.name column :: .sign ' ' :: (relationSign relation).toList.map Token.sign) := by
      cases relation <;> exact ⟨rfl, rfl⟩
    exact hfront.append rfl place.inert
  | between column low high =>
    have hfront : Inert [.name column, .sign ' ', .word "BETWEEN"] := ⟨rfl, rfl⟩
    exact hfront.append rfl (low.inert.append_conjunction high.inert)
  | among column places =>
    have hfront : Inert [.name column, .sign ' ', .word "IN", .sign ' '] := ⟨rfl, rfl⟩
    have hplaces : Inert (comma.intercalate (places.map Place.tokens)) :=
      Inert.intercalate (fun _ _ => Inert.append_comma) (List.forall_mem_map.mpr fun place _ => place.inert)
    exact hfront.append rfl (hplaces.append rfl Inert.nil)
  | like column ignoreCase pattern => cases ignoreCase <;> exact ⟨rfl, rfl⟩

/-- A place is written as its text. -/
lemma Place.write_tokens (place : Place) :
    place.tokens.flatMap Token.write = place.text.toList := by
  cases place <;> simp [tokens, text, Token.write]

/-- Items are written with what is between them if each is written as its text. -/
lemma write_intercalate {α : Type} {separator : List Token} {between : String}
    (hseparator : separator.flatMap Token.write = between.toList) {tokens : α → List Token}
    {text : α → String} (h : ∀ a, (tokens a).flatMap Token.write = (text a).toList) (l : List α) :
    (separator.intercalate (l.map tokens)).flatMap Token.write =
      (String.intercalate between (l.map text)).toList := by
  rw [flatMap_intercalate, hseparator, String.toList_intercalate, List.map_map, List.map_map]
  exact congrArg _ (List.map_congr_left fun a _ => h a)

/-- Signs are written as they stand. -/
lemma write_signs (cs : List Char) : (cs.map Token.sign).flatMap Token.write = cs := by
  rw [List.flatMap_map]
  exact List.flatMap_singleton' cs

/-- A comma is written with a blank behind it. -/
lemma write_comma : comma.flatMap Token.write = ", ".toList := rfl

/-- The word that joins conditions is written between blanks. -/
lemma write_conjunction : conjunction.flatMap Token.write = " AND ".toList := rfl

/-- A condition is written as its text. -/
lemma Condition.write_tokens (c : Condition) : c.tokens.flatMap Token.write = c.text.toList := by
  cases c with
  | compare column relation place =>
    simp [tokens, text, Token.write, toList_quote_eq, Place.write_tokens, write_signs]
  | between column low high =>
    simp [tokens, text, Token.write, toList_quote_eq, Place.write_tokens, write_conjunction]
  | among column places =>
    simp [tokens, text, Token.write, toList_quote_eq, write_intercalate write_comma Place.write_tokens]
  | like column ignoreCase pattern =>
    cases ignoreCase <;> simp [tokens, text, Token.write, toList_quote_eq, doubleMarks]

/-! ## Clauses -/

/-- A part of a statement: the word with which it begins, and what follows behind a blank. -/
structure Clause where
  word : String
  body : List Token

namespace Clause

/-- The tokens of a clause: its word, a blank and its body. -/
def tokens (c : Clause) : List Token :=
  .word c.word :: .sign ' ' :: c.body

/-- Clauses behind another one. -/
def behind (cs : List Clause) : List Token :=
  cs.flatMap fun c => .sign ' ' :: c.tokens

/-- Clauses behind others are written behind them. -/
lemma behind_append (cs ds : List Clause) : behind (cs ++ ds) = behind cs ++ behind ds :=
  List.flatMap_append

/-- A clause begins with a word for clauses, and no other such word is in it. -/
structure Proper (c : Clause) : Prop where
  word : c.word ∈ clauseWords
  body : Inert c.body

variable {c : Clause} {cs : List Clause}

/-- The tokens of a clause stay apart. -/
lemma Proper.spaced_tokens (h : c.Proper) : spaced c.tokens = true := by
  have hwords : ∀ w ∈ clauseWords, spaced [.word w] = true := by decide
  exact spaced_append (hwords _ h.word) rfl h.body.spaced

/-- A reader finds the names of a clause if it is one of the word, and then those behind it. -/
lemma Proper.namesIn_append (h : c.Proper) (word : String) (inside : Bool) (rest : List Token) :
    namesIn word inside (c.tokens ++ rest) =
      (if c.word = word then c.body.flatMap Token.names else []) ++
        namesIn word (c.word = word) rest := by
  have hopen : namesIn word inside (c.tokens ++ rest) =
      namesIn word (c.word = word) (c.body ++ rest) := if_pos h.word
  rw [hopen, Sql.namesIn_append h.body.inner]
  simp only [decide_eq_true_eq]

/-- Clauses behind tokens that stay apart stay apart from them. -/
lemma spaced_behind {us : List Token} (hus : spaced us = true) (h : ∀ c ∈ cs, c.Proper) :
    spaced (us ++ behind cs) = true := by
  induction cs generalizing us with
  | nil =>
    rw [behind, List.flatMap_nil, List.append_nil]
    exact hus
  | cons c cs ih =>
    obtain ⟨hc, hcs⟩ := List.forall_mem_cons.mp h
    rw [behind, List.flatMap_cons, ← behind, ← List.append_assoc]
    exact ih (spaced_append hus rfl hc.spaced_tokens) hcs

/-- The names in the clauses that begin with a word. -/
def namesOf (word : String) (cs : List Clause) : List String :=
  cs.flatMap fun c => if c.word = word then c.body.flatMap Token.names else []

/-- In clauses that stand one behind another a reader finds the names of those of the word. -/
lemma namesIn_behind (h : ∀ c ∈ cs, c.Proper) (word : String) (inside : Bool) :
    namesIn word inside (behind cs) = namesOf word cs := by
  induction cs generalizing inside with
  | nil => rfl
  | cons c cs ih =>
    obtain ⟨hc, hcs⟩ := List.forall_mem_cons.mp h
    rw [behind, List.flatMap_cons, ← behind, List.cons_append, namesIn, hc.namesIn_append, ih hcs]
    rfl

/-- The clause of conditions, if there are any. -/
def ofConditions (conditions : List Condition) : List Clause :=
  if conditions.isEmpty then []
  else [⟨"WHERE", conjunction.intercalate (conditions.map Condition.tokens)⟩]

/-- The tokens of a column of an ordering. -/
def entryTokens (entry : String × Direction) : List Token :=
  [.name entry.1, .sign ' ', .word entry.2.keyword, .sign ' ', .word "NULLS", .sign ' ', .word "LAST"]

/-- The clause of an ordering, if it has a column. -/
def ofOrder (order : List (String × Direction)) : List Clause :=
  if order.isEmpty then []
  else [⟨"ORDER", .word "BY" :: .sign ' ' :: comma.intercalate (order.map entryTokens)⟩]

/-- The clause of a number, if there is one. -/
def ofNumber (word : String) (n : Option Nat) : List Clause :=
  n.elim [] fun n => [⟨word, [.word n.repr]⟩]

/-- The clause of conditions is proper. -/
lemma proper_ofConditions {conditions : List Condition} :
    ∀ c ∈ ofConditions conditions, c.Proper := by
  have hbody : Inert (conjunction.intercalate (conditions.map Condition.tokens)) :=
    Inert.intercalate (fun _ _ => Inert.append_conjunction) (List.forall_mem_map.mpr fun c _ => c.inert)
  rw [ofConditions]
  split
  · nofun
  · exact List.forall_mem_singleton.mpr ⟨(by decide : "WHERE" ∈ clauseWords), hbody⟩

/-- The clause of an ordering is proper. -/
lemma proper_ofOrder {order : List (String × Direction)} : ∀ c ∈ ofOrder order, c.Proper := by
  have hentry : ∀ entry, Inert (entryTokens entry) := by
    rintro ⟨name, direction⟩
    have hkeyword : Inert [.word direction.keyword] := by
      cases direction with
      | ascending => exact (⟨rfl, rfl⟩ : Inert [.word "ASC"])
      | descending => exact (⟨rfl, rfl⟩ : Inert [.word "DESC"])
    have hname : Inert [.name name] := ⟨rfl, rfl⟩
    have hnulls : Inert [.word "NULLS", .sign ' ', .word "LAST"] := ⟨rfl, rfl⟩
    exact hname.append rfl (hkeyword.append rfl hnulls)
  have hentries : Inert (comma.intercalate (order.map entryTokens)) :=
    Inert.intercalate (fun _ _ => Inert.append_comma) (List.forall_mem_map.mpr fun entry _ => hentry entry)
  have hby : Inert [.word "BY"] := ⟨rfl, rfl⟩
  rw [ofOrder]
  split
  · nofun
  · exact List.forall_mem_singleton.mpr
      ⟨(by decide : "ORDER" ∈ clauseWords), hby.append rfl hentries⟩

/-- A number begins no clause: each of those words has a letter in it. -/
lemma inert_number (n : Nat) : Inert [.word n.repr] := by
  have hdigits : n.repr.toList.all Char.isDigit = true := by
    rw [Nat.toList_repr, List.all_eq_true]
    exact fun c hc => Number.isDigit_of_mem_toDigits hc
  constructor
  · have hne : n.repr.toList ≠ [] := by
      rw [Nat.toList_repr]
      exact Nat.toDigits_ne_nil
    refine spaced_cons.mpr ⟨Bool.and_eq_true_iff.mpr ⟨?_, ?_⟩, .inr rfl, rfl⟩
    · rw [List.isEmpty_eq_false_iff.mpr hne]
      rfl
    · rw [List.all_eq_true] at hdigits ⊢
      intro c hc
      simp [isIdentifierRest, Char.isAlphanum, hdigits c hc]
  · have hwords : ∀ w ∈ clauseWords, w.toList.all Char.isDigit = false := by decide
    have hnumber : n.repr ∉ clauseWords := by
      intro hmem
      rw [hwords _ hmem] at hdigits
      cases hdigits
    simp [Token.opensClause, hnumber]

/-- The clause of a number is proper. -/
lemma proper_ofNumber {word : String} (hword : word ∈ clauseWords) {n : Option Nat} :
    ∀ c ∈ ofNumber word n, c.Proper := by
  cases n with
  | none => nofun
  | some n => exact List.forall_mem_singleton.mpr ⟨hword, inert_number n⟩

/-! ## Clauses as they are written -/

/-- The clause of conditions is written as its text. -/
lemma write_ofConditions (conditions : List Condition) :
    (behind (ofConditions conditions)).flatMap Token.write = (whereText conditions).toList := by
  rw [ofConditions, whereText]
  split
  · rfl
  · simp [behind, tokens, Token.write, write_intercalate write_conjunction Condition.write_tokens]

/-- The clause of an ordering is written as its text. -/
lemma write_ofOrder (order : List (String × Direction)) :
    (behind (ofOrder order)).flatMap Token.write = (Select.orderClause order).toList := by
  have hentry : ∀ entry, (entryTokens entry).flatMap Token.write = (Select.orderText entry).toList := by
    intro entry
    simp [entryTokens, Select.orderText, Token.write, toList_quote_eq]
  rw [ofOrder, Select.orderClause]
  split
  · rfl
  · simp [behind, tokens, Token.write, write_intercalate write_comma hentry]

/-- The clause of a number is written as its text. -/
lemma write_ofNumber (word : String) (n : Option Nat) :
    (behind (ofNumber word n)).flatMap Token.write =
      (Select.numberClause (" " ++ word ++ " ") n).toList := by
  cases n with
  | none => rfl
  | some n => simp [behind, tokens, ofNumber, Select.numberClause, Token.write]

end Clause

namespace Select

variable (s : Select)

/-- The clause of the columns. -/
def columnClause : Clause :=
  ⟨"SELECT", comma.intercalate (s.columns.map fun name => [.name name])⟩

/-- The clauses behind the columns. -/
def clauses : List Clause :=
  [⟨"FROM", [.name s.table]⟩] ++ Clause.ofConditions s.conditions ++ Clause.ofOrder s.order ++
    Clause.ofNumber "LIMIT" (s.limit.map UInt32.toNat) ++
    Clause.ofNumber "OFFSET" (s.offset.map UInt64.toNat)

/-- The tokens of a statement. -/
def tokens : List Token :=
  s.columnClause.tokens ++ Clause.behind s.clauses

/-- The clause of the columns is proper. -/
lemma proper_columnClause : s.columnClause.Proper where
  word := (by decide : "SELECT" ∈ clauseWords)
  body := by
    have hname : ∀ name, Inert [.name name] := fun _ => ⟨rfl, rfl⟩
    exact Inert.intercalate (fun _ _ => Inert.append_comma) (List.forall_mem_map.mpr fun name _ => hname name)

/-- The clauses behind the columns are proper. -/
lemma proper_clauses : ∀ c ∈ s.clauses, c.Proper := by
  have htable : Clause.Proper ⟨"FROM", [.name s.table]⟩ :=
    ⟨(by decide : "FROM" ∈ clauseWords), rfl, rfl⟩
  simp only [clauses, List.forall_mem_append, List.forall_mem_singleton]
  refine ⟨⟨⟨⟨htable, Clause.proper_ofConditions⟩, Clause.proper_ofOrder⟩, ?_⟩, ?_⟩
  · exact Clause.proper_ofNumber (by decide)
  · exact Clause.proper_ofNumber (by decide)

/-- The clause of the columns is written as its text. -/
lemma write_columnClause : s.columnClause.tokens.flatMap Token.write =
    ("SELECT " ++ String.intercalate ", " (s.columns.map quote)).toList := by
  have hname : ∀ name, [Token.name name].flatMap Token.write = (quote name).toList := by
    intro name
    simp [Token.write, toList_quote_eq]
  simp [columnClause, Clause.tokens, Token.write, write_intercalate write_comma hname]

/-- The text of a statement is that of its tokens. -/
lemma write_tokens : s.tokens.flatMap Token.write = s.text.toList := by
  have htable : (Clause.behind [⟨"FROM", [.name s.table]⟩]).flatMap Token.write =
      (" FROM " ++ quote s.table).toList := by
    simp [Clause.behind, Clause.tokens, Token.write, toList_quote_eq]
  rw [text_eq, front, back, tokens, clauses]
  simp only [Clause.behind_append, List.flatMap_append, write_columnClause, htable, Clause.write_ofConditions,
    Clause.write_ofOrder, Clause.write_ofNumber, String.toList_append, List.append_assoc]
  rfl

/-- A statement of any names is read as its tokens. -/
theorem tokens?_text : tokens? s.text.toList = some s.tokens := by
  rw [← write_tokens]
  exact tokens?_write (Clause.spaced_behind s.proper_columnClause.spaced_tokens s.proper_clauses)

end Select

namespace Count
open Clause

variable (s : Count)

/-- The clause of the count. -/
def countClause : Clause :=
  ⟨"SELECT", [.word "COUNT", .sign '(', .sign '*', .sign ')']⟩

/-- The clauses behind the count. -/
def clauses : List Clause :=
  [⟨"FROM", [.name s.table]⟩] ++ ofConditions s.conditions

/-- The tokens of a statement. -/
def tokens : List Token :=
  countClause.tokens ++ behind s.clauses

/-- The clause of the count is proper. -/
lemma proper_countClause : countClause.Proper :=
  ⟨(by decide : "SELECT" ∈ clauseWords), rfl, rfl⟩

/-- The clauses behind the count are proper. -/
lemma proper_clauses : ∀ c ∈ s.clauses, c.Proper := by
  have htable : Clause.Proper ⟨"FROM", [.name s.table]⟩ :=
    ⟨(by decide : "FROM" ∈ clauseWords), rfl, rfl⟩
  exact List.forall_mem_append.mpr ⟨List.forall_mem_singleton.mpr htable, proper_ofConditions⟩

/-- The text of a statement is that of its tokens. -/
lemma write_tokens : s.tokens.flatMap Token.write = s.text.toList := by
  have htable : (behind [⟨"FROM", [.name s.table]⟩]).flatMap Token.write =
      (" FROM " ++ quote s.table).toList := by
    simp [behind, Clause.tokens, Token.write, toList_quote_eq]
  have hcount : countClause.tokens.flatMap Token.write = "SELECT COUNT(*)".toList := rfl
  rw [text_eq, tokens, clauses]
  simp only [behind_append, List.flatMap_append, hcount, htable, write_ofConditions,
    String.toList_append, List.append_assoc]
  rfl

/-- A statement of any names is read as its tokens. -/
theorem tokens?_text : tokens? s.text.toList = some s.tokens := by
  rw [← write_tokens]
  exact tokens?_write (spaced_behind proper_countClause.spaced_tokens s.proper_clauses)

end Count

/-! ## Names that are read -/

namespace Clause

/-- The names in clauses behind others come behind theirs. -/
lemma namesOf_append (word : String) (cs ds : List Clause) :
    namesOf word (cs ++ ds) = namesOf word cs ++ namesOf word ds :=
  List.flatMap_append

/-- Conditions have no names for another word. -/
lemma namesOf_ofConditions {word : String} (h : "WHERE" ≠ word) (conditions : List Condition) :
    namesOf word (ofConditions conditions) = [] := by
  rw [ofConditions]
  split
  · rfl
  · simp [namesOf, h]

/-- An ordering has the names of its fields. -/
lemma namesOf_ofOrder (word : String) (order : List (String × Direction)) :
    namesOf word (ofOrder order) = if "ORDER" = word then order.map (·.1) else [] := by
  have hentries : (comma.intercalate (order.map entryTokens)).flatMap Token.names =
      order.map (·.1) :=
    names_comma (fun _ => rfl) order
  rw [ofOrder]
  split
  · rename_i hnone
    rw [List.isEmpty_iff.mp hnone]
    simp [namesOf]
  · simp [namesOf, Token.names, hentries]

/-- A number has no names. -/
lemma namesOf_ofNumber (word keyword : String) (n : Option Nat) :
    namesOf word (ofNumber keyword n) = [] := by
  cases n with
  | none => rfl
  | some n => simp [namesOf, ofNumber, Token.names]

end Clause

namespace Select

variable (s : Select)

/-- The clause of the columns has their names. -/
lemma names_columnClause : s.columnClause.body.flatMap Token.names = s.columns := by
  have hnames : (comma.intercalate (s.columns.map fun name => [.name name])).flatMap Token.names =
      s.columns.map id :=
    names_comma (fun _ => rfl) s.columns
  rw [columnClause, hnames, List.map_id]

/-- The names in the clauses of a word are those that were written in them. -/
lemma namesIn_tokens {word : String} (h : "WHERE" ≠ word) :
    namesIn word false s.tokens = (if "SELECT" = word then s.columns else []) ++
      (if "FROM" = word then [s.table] else []) ++
        if "ORDER" = word then s.order.map (·.1) else [] := by
  have htable : Clause.namesOf word [⟨"FROM", [.name s.table]⟩] =
      if "FROM" = word then [s.table] else [] := by
    simp [Clause.namesOf, Token.names]
  rw [tokens, s.proper_columnClause.namesIn_append, Clause.namesIn_behind s.proper_clauses,
    names_columnClause, clauses]
  simp only [Clause.namesOf_append, htable, Clause.namesOf_ofConditions h, Clause.namesOf_ofOrder,
    Clause.namesOf_ofNumber, List.append_nil, List.append_assoc]
  rfl

end Select

/-- No name breaks out of its quotes. A quoted name is read back whatever characters it has, and in a
statement for any schema, valid or not, the columns, the table and the ordering have the names that were
written. -/
theorem names_readBack :
    (∀ (name : String) (rest : List Char), rest.head? ≠ some '"' →
      readIdentifier? ((quote name).toList ++ rest) = some (name.toList, rest)) ∧
    ∀ (schema : Schema) (options : FindOptions) (s : Select),
      Select.ofOptions schema options = .ok s →
        ∃ ts, tokens? s.text.toList = some ts ∧ namesIn "SELECT" false ts = schema.fieldNames ∧
          namesIn "FROM" false ts = [schema.name] ∧
          namesIn "ORDER" false ts = options.order.names := by
  refine ⟨fun name rest => readIdentifier?_quote name, fun schema options s hs => ?_⟩
  obtain ⟨_, -, hs⟩ := Steps.bind_eq_ok_iff.mp hs
  cases hs
  refine ⟨_, Select.tokens?_text _, ?_, ?_, ?_⟩
  · simp [Select.namesIn_tokens]
  · simp [Select.namesIn_tokens]
  · simp [Select.namesIn_tokens, OrderedMap.names, entryNames]

/-- A schema whose names have quotes, keywords and other signs of statements in them. -/
def markedSchema : Schema where
  name := "a\"; DROP TABLE b"
  fields := [⟨"\"", .text⟩, ⟨"x\", \"y", .integer⟩, ⟨" FROM ", .text⟩]

/-- Options that order such a schema by one of its names. -/
def markedOptions : FindOptions where
  order := .ofList [("x\", \"y", .descending)]

/-- The statement for such a schema has the names in it, and no others. -/
theorem names_readBack_marked :
    readIdentifier? ((quote "\"").toList ++ [',']) = some (['"'], [',']) ∧
      ∃ s ts, Select.ofOptions markedSchema markedOptions = .ok s ∧
        s.text = "SELECT \"\"\"\", \"x\"\", \"\"y\", \" FROM \" FROM \"a\"\"; DROP TABLE b\" " ++
          "ORDER BY \"x\"\", \"\"y\" DESC NULLS LAST" ∧
        tokens? s.text.toList = some ts ∧
        namesIn "SELECT" false ts = ["\"", "x\", \"y", " FROM "] ∧
        namesIn "FROM" false ts = ["a\"; DROP TABLE b"] ∧ namesIn "ORDER" false ts = ["x\", \"y"] := by
  obtain ⟨hname, hnames⟩ := names_readBack
  obtain ⟨ts, hts, hcolumns, htable, horder⟩ := hnames markedSchema markedOptions _ rfl
  exact ⟨hname "\"" [','] (by decide), _, ts, rfl, by decide +kernel, hts, hcolumns, htable, horder⟩

end PagedListing.Sql

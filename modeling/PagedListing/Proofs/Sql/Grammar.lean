import Mathlib.Computability.Language
import Mathlib.Data.List.Chain
import PagedListing.Proofs.Sql.Statement

/-!
# The grammar of statements

The statements as a formal language over their characters, with the lists that may stand between the
brackets of a membership as a parameter. All statements whose names are identifiers and that have a
column are in the language if those lists may be empty (`Select.text_mem`, `Count.text_mem`). If they may
not, a statement is in the language exactly if none of its conditions is a membership without members
(`Select.text_mem_iff`, `Count.text_mem_iff`): such a condition leaves a pair of brackets with nothing
in it, which no text of that language has (`AllSealed.select`).
-/

namespace PagedListing.Sql
open scoped Computability

/-! ## Languages of parts of statements -/

namespace Grammar

/-- A text as it stands. -/
def literal (s : String) : Language Char :=
  {s.toList}

/-- At least one item, with a separator between any two. -/
def listed (separator : String) (item : Language Char) : Language Char :=
  item * (literal separator * item)∗

/-- An identifier between quotes. -/
def name : Language Char :=
  {w | ∃ s, isIdentifier s = true ∧ w = '"' :: (s.toList ++ ['"'])}

/-- A decimal number. -/
def number : Language Char :=
  {w | w ≠ [] ∧ ∀ c ∈ w, c.isDigit = true}

/-- A place for a value. -/
def place : Language Char :=
  literal "?" + literal "CAST(? AS TIMESTAMP)"

/-- A list of places. -/
def placeList : Language Char :=
  listed ", " place

/-- The sign of a comparison. -/
def sign : Language Char :=
  literal "=" + literal "<>" + literal ">" + literal ">=" + literal "<" + literal "<="

/-- A comparison with a value. -/
def comparison : Language Char :=
  name * literal " " * sign * literal " " * place

/-- Two bounds, both included. -/
def range : Language Char :=
  name * literal " BETWEEN " * place * literal " AND " * place

/-- A membership in a list. -/
def membership (list : Language Char) : Language Char :=
  name * literal " IN (" * list * literal ")"

/-- A search for a pattern. -/
def search : Language Char :=
  name * (literal " LIKE " + literal " ILIKE ") * place * literal " ESCAPE '\\'"

/-- A condition on a column. -/
def condition (list : Language Char) : Language Char :=
  comparison + range + membership list + search

/-- A keyword and a list of items, if there are any. -/
def clause (keyword separator : String) (item : Language Char) : Language Char :=
  1 + literal keyword * listed separator item

/-- A keyword and a number, or neither. -/
def numberClause (keyword : String) : Language Char :=
  1 + literal keyword * number

/-- The conditions on the columns, if there are any. -/
def conditions (list : Language Char) : Language Char :=
  clause " WHERE " " AND " (condition list)

/-- A column of an ordering. -/
def entry : Language Char :=
  name * literal " " * (literal "ASC" + literal "DESC") * literal " NULLS LAST"

/-- The statements for records. -/
def select (list : Language Char) : Language Char :=
  literal "SELECT " * listed ", " name * literal " FROM " * name * conditions list *
    (clause " ORDER BY " ", " entry * numberClause " LIMIT " * numberClause " OFFSET ")

/-- The statements for the number of records. -/
def count (list : Language Char) : Language Char :=
  literal "SELECT COUNT(*) FROM " * name * conditions list

end Grammar

/-! ## Texts of the languages -/

section
open Grammar Language

/-- A text is in the language of itself. -/
lemma mem_literal (s : String) : s.toList ∈ literal s :=
  rfl

/-- A joined list is its first member and then the others, each behind a separator. -/
lemma intercalate_cons (separator first : List Char) (rest : List (List Char)) :
    separator.intercalate (first :: rest) = first ++ (rest.map (separator ++ ·)).flatten := by
  induction rest generalizing first with
  | nil => rw [List.intercalate_singleton, List.map_nil, List.flatten_nil, List.append_nil]
  | cons second rest ih =>
    rw [List.intercalate_cons_cons, ih, List.map_cons, List.flatten_cons, List.append_assoc,
      List.append_assoc]

/-- Items of a language make a list of it, unless there are none. -/
lemma mem_listed (separator : String) {item : Language Char} {α : Type} {text : α → String}
    {l : List α} (hne : l ≠ []) (hl : ∀ a ∈ l, (text a).toList ∈ item) :
    (String.intercalate separator (l.map text)).toList ∈ listed separator item := by
  obtain ⟨a, l, rfl⟩ := List.exists_cons_of_ne_nil hne
  rw [String.toList_intercalate, List.map_cons, List.map_cons, intercalate_cons]
  refine append_mem_mul (hl a List.mem_cons_self) (join_mem_kstar ?_)
  intro w hw
  simp only [List.map_map, List.mem_map, Function.comp_apply] at hw
  obtain ⟨b, hb, rfl⟩ := hw
  exact append_mem_mul (mem_literal separator) (hl b (List.mem_cons_of_mem a hb))

/-- A quoted identifier is in the language of names. -/
lemma mem_name {s : String} (h : isIdentifier s = true) : (quote s).toList ∈ name :=
  ⟨s, h, toList_quote h⟩

/-- The digits of a number are in the language of numbers. -/
lemma mem_number (n : Nat) : Nat.toDigits 10 n ∈ number :=
  ⟨Nat.toDigits_ne_nil, fun _ hc => Number.isDigit_of_mem_toDigits hc⟩

/-- The text of a place is in the language of places. -/
lemma mem_place (p : Place) : p.text.toList ∈ place := by
  cases p with
  | plain _ => exact .inl rfl
  | timestamp _ => exact .inr rfl

/-- The sign of a relation is in the language of signs. -/
lemma mem_sign (relation : Relation) : (relationSign relation).toList ∈ sign := by
  cases relation with
  | equal => exact .inl (.inl (.inl (.inl (.inl rfl))))
  | unequal => exact .inl (.inl (.inl (.inl (.inr rfl))))
  | more => exact .inl (.inl (.inl (.inr rfl)))
  | moreOrEqual => exact .inl (.inl (.inr rfl))
  | less => exact .inl (.inr rfl)
  | lessOrEqual => exact .inr rfl

/-- The places of a membership make a list of a language; other conditions have no list. -/
def Condition.ListsIn (list : Language Char) : Condition → Prop
  | .among _ places => (String.intercalate ", " (places.map Place.text)).toList ∈ list
  | _ => True

/-- A condition is filled unless it is a membership without members. -/
def Condition.Filled (c : Condition) : Prop :=
  ∀ column, c ≠ .among column []

/-- Places make a list of places, unless there are none. -/
lemma mem_placeList {l : List Place} (hne : l ≠ []) :
    (String.intercalate ", " (l.map Place.text)).toList ∈ placeList :=
  mem_listed ", " hne fun p _ => mem_place p

/-- A filled condition has a list of places. -/
lemma Condition.listsIn_of_filled {c : Condition} (h : c.Filled) : c.ListsIn placeList := by
  cases c with
  | among column l =>
    refine mem_placeList ?_
    rintro rfl
    exact h column rfl
  | compare _ _ _ | between _ _ _ | like _ _ _ => trivial

/-- Every condition has a list of places if the list may be empty. -/
lemma Condition.listsIn_any (c : Condition) : c.ListsIn (1 + placeList) := by
  cases c with
  | among column l =>
    cases l with
    | nil => exact .inl rfl
    | cons p l => exact .inr (mem_placeList (List.cons_ne_nil p l))
  | compare _ _ _ | between _ _ _ | like _ _ _ => trivial

/-- The text of a condition is in the language of conditions with its list. -/
lemma Condition.text_mem {c : Condition} {list : Language Char} (h : isIdentifier c.column = true)
    (hc : c.ListsIn list) : c.text.toList ∈ condition list := by
  cases c with
  | compare column relation p =>
    simp only [text, String.toList_append]
    have hfront := append_mem_mul (append_mem_mul (mem_name h) (mem_literal " ")) (mem_sign relation)
    have hsign := append_mem_mul hfront (mem_literal " ")
    exact .inl (.inl (.inl (append_mem_mul hsign (mem_place p))))
  | between column low high =>
    simp only [text, String.toList_append]
    have hfront := append_mem_mul (mem_name h) (mem_literal " BETWEEN ")
    have hlow := append_mem_mul (append_mem_mul hfront (mem_place low)) (mem_literal " AND ")
    exact .inl (.inl (.inr (append_mem_mul hlow (mem_place high))))
  | among column places =>
    simp only [text, String.toList_append]
    have hfront := append_mem_mul (append_mem_mul (mem_name h) (mem_literal " IN (")) hc
    exact .inl (.inr (append_mem_mul hfront (mem_literal ")")))
  | like column ignoreCase pattern =>
    have htext : (like column ignoreCase pattern).text.toList = (quote column).toList ++
        (if ignoreCase then " ILIKE " else " LIKE ").toList ++ "?".toList ++
          " ESCAPE '\\'".toList := by
      cases ignoreCase <;> simp [text]
    have hkeyword : (if ignoreCase then " ILIKE " else " LIKE ").toList ∈
        literal " LIKE " + literal " ILIKE " := by
      cases ignoreCase with
      | false => exact .inl rfl
      | true => exact .inr rfl
    have hplace : "?".toList ∈ place := .inl rfl
    have hfront := append_mem_mul (append_mem_mul (mem_name h) hkeyword) hplace
    rw [htext]
    exact .inr (append_mem_mul hfront (mem_literal _))

/-- Items of a language make a clause of it, or no clause if there are none. -/
lemma mem_clause (keyword separator : String) {item : Language Char} {α : Type} {text : α → String}
    {l : List α} (hl : ∀ a ∈ l, (text a).toList ∈ item) :
    (if l.isEmpty then "" else keyword ++ String.intercalate separator (l.map text)).toList ∈
      clause keyword separator item := by
  split
  · exact .inl rfl
  · rename_i hne
    rw [String.toList_append]
    exact .inr (append_mem_mul (mem_literal keyword)
      (mem_listed separator (mt List.isEmpty_iff.mpr hne) hl))

/-- The text of conditions is in the language of their lists. -/
lemma whereText_mem {l : List Condition} {list : Language Char}
    (h : ∀ c ∈ l, isIdentifier c.column = true) (hl : ∀ c ∈ l, c.ListsIn list) :
    (whereText l).toList ∈ conditions list :=
  mem_clause " WHERE " " AND " fun c hc => Condition.text_mem (h c hc) (hl c hc)

/-- The text of a column of an ordering is in the language of entries. -/
lemma Select.orderText_mem {item : String × Direction} (h : isIdentifier item.1 = true) :
    (orderText item).toList ∈ entry := by
  have hkeyword : item.2.keyword.toList ∈ literal "ASC" + literal "DESC" := by
    cases item.2 with
    | ascending => exact .inl rfl
    | descending => exact .inr rfl
  simp only [orderText, String.toList_append]
  exact append_mem_mul (append_mem_mul (append_mem_mul (mem_name h) (mem_literal " ")) hkeyword)
    (mem_literal _)

/-- The text of a bound, if there is one, is in the language of number clauses. -/
lemma Select.numberClause_mem (keyword : String) (n : Option Nat) :
    (numberClause keyword n).toList ∈ Grammar.numberClause keyword := by
  cases n with
  | none => exact .inl rfl
  | some n =>
    rw [numberClause, Option.elim_some, String.toList_append, Nat.toList_repr]
    exact .inr (append_mem_mul (mem_literal keyword) (mem_number n))

/-- The end of a statement is an ordering and two number clauses, or some of them. -/
lemma Select.back_mem {s : Select} (h : s.Named) :
    s.back.toList ∈ clause " ORDER BY " ", " entry * Grammar.numberClause " LIMIT " *
      Grammar.numberClause " OFFSET " := by
  have horder : (orderClause s.order).toList ∈ clause " ORDER BY " ", " entry :=
    mem_clause " ORDER BY " ", " fun item hitem => orderText_mem (h.order item hitem)
  rw [back, String.toList_append, String.toList_append]
  exact append_mem_mul (append_mem_mul horder (numberClause_mem _ _)) (numberClause_mem _ _)

/-- The front of a statement is its columns and its table. -/
lemma Select.front_mem {s : Select} (h : s.Named) (hcolumns : s.columns ≠ []) :
    s.front.toList ∈ literal "SELECT " * listed ", " name * literal " FROM " * name := by
  have hlist := mem_listed ", " hcolumns fun column hcolumn =>
    mem_name (h.columns column hcolumn)
  simp only [front, String.toList_append]
  exact append_mem_mul (append_mem_mul (append_mem_mul (mem_literal _) hlist) (mem_literal " FROM "))
    (mem_name h.table)

/-- A statement for records is in the language of the lists of its memberships. -/
theorem Select.text_mem {s : Select} {list : Language Char} (h : s.Named) (hcolumns : s.columns ≠ [])
    (hlists : ∀ c ∈ s.conditions, c.ListsIn list) : s.text.toList ∈ Grammar.select list := by
  rw [text_eq, String.toList_append, String.toList_append]
  exact append_mem_mul (append_mem_mul (front_mem h hcolumns) (whereText_mem h.conditions hlists))
    (back_mem h)

/-- So is a statement for the number of records. -/
theorem Count.text_mem {s : Count} {list : Language Char} (htable : isIdentifier s.table = true)
    (hconditions : ∀ c ∈ s.conditions, isIdentifier c.column = true)
    (hlists : ∀ c ∈ s.conditions, c.ListsIn list) : s.text.toList ∈ Grammar.count list := by
  rw [text_eq, String.toList_append, String.toList_append]
  exact append_mem_mul (append_mem_mul (mem_literal "SELECT COUNT(*) FROM ") (mem_name htable))
    (whereText_mem hconditions hlists)

end

/-! ## Brackets -/

/-- No bracket of a text is closed right behind where it opens, nor can it be by a text around. -/
structure Sealed (w : List Char) : Prop where
  chain : w.IsChain fun a b => ¬ (a = '(' ∧ b = ')')
  head : w.head? ≠ some ')'
  last : w.getLast? ≠ some '('

/-- Whether a text is sealed is decided by its brackets. -/
instance (w : List Char) : Decidable (Sealed w) :=
  decidable_of_iff (w.IsChain (fun a b => ¬ (a = '(' ∧ b = ')')) ∧ w.head? ≠ some ')' ∧
    w.getLast? ≠ some '(') ⟨fun ⟨h, h', h''⟩ => ⟨h, h', h''⟩, fun h => ⟨h.chain, h.head, h.last⟩⟩

namespace Sealed

variable {u v w : List Char}

/-- A text of two sealed texts is sealed. -/
lemma append (hu : Sealed u) (hv : Sealed v) : Sealed (u ++ v) where
  chain := by
    refine List.isChain_append.mpr ⟨hu.chain, hv.chain, ?_⟩
    rintro a ha b - ⟨rfl, -⟩
    exact hu.last ha
  head := by
    rw [List.head?_append]
    cases hhead : u.head? with
    | none => exact hv.head
    | some a =>
      rw [Option.some_or, ← hhead]
      exact hu.head
  last := by
    rw [List.getLast?_append]
    cases hlast : v.getLast? with
    | none => exact hu.last
    | some a =>
      rw [Option.some_or, ← hlast]
      exact hv.last

/-- Brackets around a sealed text seal it, unless it is empty. -/
lemma brackets (hw : Sealed w) (hne : w ≠ []) : Sealed ('(' :: w ++ [')']) where
  chain := by
    refine List.isChain_append.mpr
      ⟨List.isChain_cons.mpr ⟨?_, hw.chain⟩, List.isChain_singleton _, ?_⟩
    · rintro b hb ⟨-, rfl⟩
      exact hw.head hb
    · rintro a ha b - ⟨rfl, -⟩
      obtain ⟨c, cs, rfl⟩ := List.exists_cons_of_ne_nil hne
      rw [List.getLast?_cons_cons] at ha
      exact hw.last ha
  head := by simp
  last := by
    rw [List.getLast?_concat]
    decide

/-- A text without brackets is sealed. -/
lemma of_not_mem (h : ∀ c ∈ w, c ≠ '(' ∧ c ≠ ')') : Sealed w where
  chain := by
    refine List.Pairwise.isChain (List.pairwise_of_forall_mem_list ?_)
    rintro a ha b - ⟨rfl, -⟩
    exact (h _ ha).1 rfl
  head := by
    intro e
    exact (h _ (List.mem_of_mem_head? e)).2 rfl
  last := by
    intro e
    exact (h _ (List.mem_of_mem_getLast? e)).1 rfl

/-- A sealed text has no empty brackets. -/
lemma not_emptyBrackets (h : Sealed w) : ¬ ['(', ')'] <:+: w := by
  intro hbrackets
  have hpair := h.chain.infix hbrackets
  simp at hpair

end Sealed

section
open Grammar Language

/-- A language of sealed texts. -/
def AllSealed (L : Language Char) : Prop :=
  ∀ w ∈ L, Sealed w

namespace AllSealed

variable {L M : Language Char}

/-- Sealed texts behind sealed texts are sealed. -/
lemma mul (hL : AllSealed L) (hM : AllSealed M) : AllSealed (L * M) := by
  intro w hw
  obtain ⟨u, hu, v, hv, rfl⟩ := mem_mul.mp hw
  exact (hL u hu).append (hM v hv)

/-- The texts of two languages are sealed if those of each are. -/
lemma add (hL : AllSealed L) (hM : AllSealed M) : AllSealed (L + M) :=
  fun w hw => hw.elim (hL w) (hM w)

/-- The empty text is sealed. -/
lemma one : AllSealed 1 := by
  rintro w rfl
  decide

/-- Sealed texts one behind another are sealed. -/
lemma kstar (hL : AllSealed L) : AllSealed L∗ := by
  intro w hw
  obtain ⟨words, rfl, hwords⟩ := mem_kstar.mp hw
  clear hw
  induction words with
  | nil => exact one [] rfl
  | cons u words ih =>
    rw [List.flatten_cons]
    exact (hL u (hwords u List.mem_cons_self)).append
      (ih fun v hv => hwords v (List.mem_cons_of_mem u hv))

/-- A text that is sealed is the only one of its language. -/
lemma literal {s : String} (h : Sealed s.toList) : AllSealed (literal s) := by
  rintro w rfl
  exact h

/-- Lists of sealed items are sealed if the separator is. -/
lemma listed {separator : String} (hL : AllSealed L) (h : Sealed separator.toList) :
    AllSealed (listed separator L) :=
  hL.mul ((literal h).mul hL).kstar

/-- Names are sealed. -/
lemma name : AllSealed name := by
  rintro w ⟨s, hs, rfl⟩
  refine .of_not_mem fun c hc => ?_
  have hopen := not_mem_of_isIdentifier hs (show isIdentifierRest '(' = false from rfl)
  have hclose := not_mem_of_isIdentifier hs (show isIdentifierRest ')' = false from rfl)
  constructor
  · rintro rfl
    simp [hopen] at hc
  · rintro rfl
    simp [hclose] at hc

/-- Numbers are sealed. -/
lemma number : AllSealed number := by
  rintro w ⟨-, hdigits⟩
  refine .of_not_mem fun c hc => ?_
  have hdigit := hdigits c hc
  constructor
  · rintro rfl
    cases hdigit
  · rintro rfl
    cases hdigit

/-- Places are sealed. -/
lemma place : AllSealed place :=
  (literal (by decide)).add (literal (by decide))

/-- Signs are sealed. -/
lemma sign : AllSealed sign :=
  (((((literal (by decide)).add (literal (by decide))).add (literal (by decide))).add
    (literal (by decide))).add (literal (by decide))).add (literal (by decide))

/-- The brackets around a list that is not empty are no sealed text on their own. -/
lemma membership : AllSealed (membership placeList) := by
  intro w hw
  obtain ⟨front, hfront, close, rfl, rfl⟩ := mem_mul.mp hw
  obtain ⟨opened, hopened, list, hlist, rfl⟩ := mem_mul.mp hfront
  obtain ⟨column, hcolumn, opening, rfl, rfl⟩ := mem_mul.mp hopened
  have hne : list ≠ [] := by
    obtain ⟨first, hfirst, rest, -, rfl⟩ := mem_mul.mp hlist
    rintro e
    obtain ⟨rfl, -⟩ := List.append_eq_nil_iff.mp e
    rcases hfirst with h | h
    · cases h
    · cases h
  have hbrackets := (listed place (by decide) list hlist).brackets hne
  have hopening : " IN (".toList = " IN ".toList ++ ['('] := by decide
  have hclose : ")".toList = [')'] := rfl
  have hfront := name.mul (literal (by decide)) _ (append_mem_mul hcolumn (mem_literal " IN "))
  rw [hopening, hclose, List.append_assoc, List.append_assoc, List.append_assoc,
    List.singleton_append, ← List.append_assoc]
  exact hfront.append hbrackets

/-- Conditions are sealed if their lists are not empty. -/
lemma condition : AllSealed (condition placeList) := by
  have hcomparison : AllSealed comparison :=
    (((name.mul (literal (by decide))).mul sign).mul (literal (by decide))).mul place
  have hrange : AllSealed range :=
    (((name.mul (literal (by decide))).mul place).mul (literal (by decide))).mul place
  have hsearch : AllSealed search :=
    ((name.mul ((literal (by decide)).add (literal (by decide)))).mul place).mul (literal (by decide))
  exact ((hcomparison.add hrange).add membership).add hsearch

/-- Clauses of sealed items are sealed if the keyword and the separator are. -/
lemma clause {keyword separator : String} (hL : AllSealed L) (hkeyword : Sealed keyword.toList)
    (hseparator : Sealed separator.toList) : AllSealed (clause keyword separator L) :=
  one.add ((literal hkeyword).mul (hL.listed hseparator))

/-- Number clauses are sealed if the keyword is. -/
lemma numberClause {keyword : String} (h : Sealed keyword.toList) :
    AllSealed (numberClause keyword) :=
  one.add ((literal h).mul number)

/-- Statements for records are sealed if no list is empty. -/
lemma select : AllSealed (select placeList) := by
  have hentry : AllSealed entry :=
    ((name.mul (literal (by decide))).mul ((literal (by decide)).add (literal (by decide)))).mul
      (literal (by decide))
  have hfront : AllSealed (Grammar.literal "SELECT " * Grammar.listed ", " Grammar.name *
      Grammar.literal " FROM " * Grammar.name) :=
    (((literal (by decide)).mul (name.listed (by decide))).mul (literal (by decide))).mul name
  have hback : AllSealed (Grammar.clause " ORDER BY " ", " entry * Grammar.numberClause " LIMIT " *
      Grammar.numberClause " OFFSET ") :=
    ((hentry.clause (by decide) (by decide)).mul (numberClause (by decide))).mul
      (numberClause (by decide))
  exact (hfront.mul (condition.clause (by decide) (by decide))).mul hback

/-- Statements for the number of records are sealed if no list is empty. -/
lemma count : AllSealed (count placeList) :=
  ((literal (by decide)).mul name).mul (condition.clause (by decide) (by decide))

end AllSealed

end

/-! ## Well-formed statements -/

/-- A membership without members ends in empty brackets. -/
lemma Condition.emptyBrackets_among (column : String) :
    ['(', ')'] <:+: (among column []).text.toList :=
  ⟨(quote column).toList ++ " IN ".toList, [], by simp [text]⟩

/-- A member is a part of a joined list. -/
lemma isPart_intercalate {w : List Char} {l : List (List Char)} (separator : List Char) (h : w ∈ l) :
    w <:+: separator.intercalate l := by
  obtain ⟨first, rest, rfl⟩ := List.exists_cons_of_ne_nil (List.ne_nil_of_mem h)
  rw [intercalate_cons]
  cases List.mem_cons.mp h with
  | inl e =>
    subst e
    exact (List.prefix_append _ _).isInfix
  | inr hrest =>
    have hitem : separator ++ w ∈ rest.map (separator ++ ·) := List.mem_map_of_mem hrest
    exact (List.suffix_append separator w).isInfix.trans
      ((List.infix_of_mem_flatten hitem).trans (List.suffix_append _ _).isInfix)

/-- A condition is a part of the text of all conditions. -/
lemma isPart_whereText {c : Condition} {l : List Condition} (h : c ∈ l) :
    c.text.toList <:+: (whereText l).toList := by
  have hne : ¬ l.isEmpty = true := by
    rw [List.isEmpty_iff]
    exact List.ne_nil_of_mem h
  have hmem : c.text.toList ∈ l.map (String.toList ∘ Condition.text) := List.mem_map.mpr ⟨c, h, rfl⟩
  rw [whereText, if_neg hne, String.toList_append, String.toList_intercalate, List.map_map]
  exact (isPart_intercalate _ hmem).trans (List.suffix_append _ _).isInfix

/-- Conditions in a sealed text are filled. -/
lemma filled_of_sealed {w : List Char} {l : List Condition} (hw : Sealed w)
    (hpart : (whereText l).toList <:+: w) : ∀ c ∈ l, c.Filled := by
  rintro _ hc column rfl
  have hbrackets := Condition.emptyBrackets_among column
  exact hw.not_emptyBrackets (hbrackets.trans ((isPart_whereText hc).trans hpart))

/-- A statement for records has no empty lists if and only if its conditions are filled. -/
theorem Select.text_mem_iff {s : Select} (h : s.Named) (hcolumns : s.columns ≠ []) :
    s.text.toList ∈ Grammar.select Grammar.placeList ↔ ∀ c ∈ s.conditions, c.Filled := by
  constructor
  · intro hmem
    rw [text_eq, String.toList_append, String.toList_append] at hmem
    exact filled_of_sealed (AllSealed.select _ hmem) ⟨_, _, rfl⟩
  · exact fun hfilled => text_mem h hcolumns fun c hc => Condition.listsIn_of_filled (hfilled c hc)

/-- A statement for the number of records has no empty lists if and only if its conditions are filled. -/
theorem Count.text_mem_iff {s : Count} (htable : isIdentifier s.table = true)
    (hconditions : ∀ c ∈ s.conditions, isIdentifier c.column = true) :
    s.text.toList ∈ Grammar.count Grammar.placeList ↔ ∀ c ∈ s.conditions, c.Filled := by
  constructor
  · intro hmem
    rw [text_eq, String.toList_append, String.toList_append] at hmem
    exact filled_of_sealed (AllSealed.count _ hmem) (List.suffix_append _ _).isInfix
  · exact fun hfilled =>
      text_mem htable hconditions fun c hc => Condition.listsIn_of_filled (hfilled c hc)

/-- The condition of a predicate is filled unless the predicate is a membership without members. -/
lemma Condition.filled_ofPredicate_iff (column : String) (p : Predicate) :
    (ofPredicate column p).Filled ↔ p ≠ .among [] := by
  cases p with
  | among values =>
    cases values with
    | nil => exact ⟨fun h => absurd rfl (h column), fun h => absurd rfl h⟩
    | cons value values => exact ⟨fun _ => nofun, fun _ => nofun⟩
  | compare _ _ | between _ _ | like _ _ => exact ⟨fun _ => nofun, fun _ => nofun⟩

/-- The conditions of filters are filled if no filter is a membership without members. -/
lemma filled_conditionsOf_iff (filters : FilterSet) :
    (∀ c ∈ conditionsOf filters, c.Filled) ↔ ∀ item ∈ filters.entries, item.2 ≠ .among [] := by
  rw [conditionsOf, List.forall_mem_map]
  exact forall₂_congr fun item _ => Condition.filled_ofPredicate_iff item.1 item.2

/-- The statements of find options on a valid schema are well-formed if the list of a membership may be
empty. If it may not, they are well-formed if and only if no filter is a membership without members. -/
theorem statements_mem_iff {schema : Schema} {options : FindOptions}
    (hschema : schema.validate = .ok ())
    (h : ∀ name ∈ namedFields options.filters options.order, schema.declares name = true) :
    ∃ select count, Select.ofOptions schema options = .ok select ∧
      Count.ofOptions schema options = .ok count ∧
      select.text.toList ∈ Grammar.select (1 + Grammar.placeList) ∧
      count.text.toList ∈ Grammar.count (1 + Grammar.placeList) ∧
      (select.text.toList ∈ Grammar.select Grammar.placeList ↔
        ∀ item ∈ options.filters.entries, item.2 ≠ .among []) ∧
      (count.text.toList ∈ Grammar.count Grammar.placeList ↔
        ∀ item ∈ options.filters.entries, item.2 ≠ .among []) := by
  obtain ⟨hselect, hcount⟩ := ofOptions_eq h
  have hnamed := named_of_declares hschema h
  have hcolumns := Schema.fieldNames_ne_nil hschema
  have hfilled := filled_conditionsOf_iff options.filters
  refine ⟨_, _, hselect, hcount, ?_, ?_, ?_, ?_⟩
  · exact Select.text_mem hnamed hcolumns fun c _ => c.listsIn_any
  · exact Count.text_mem hnamed.table hnamed.conditions fun c _ => c.listsIn_any
  · exact (Select.text_mem_iff hnamed hcolumns).trans hfilled
  · exact (Count.text_mem_iff hnamed.table hnamed.conditions).trans hfilled

/-- The statements for the talks of some numbers whose title has a text in it have no empty lists. -/
theorem statements_mem_talks :
    ∃ select count, Select.ofOptions talks (talksLike "lean" 1 2 ⟨0, 0⟩) = .ok select ∧
      Count.ofOptions talks (talksLike "lean" 1 2 ⟨0, 0⟩) = .ok count ∧
      select.text.toList ∈ Grammar.select Grammar.placeList ∧
      count.text.toList ∈ Grammar.count Grammar.placeList := by
  have hschema : talks.validate = .ok () := by decide
  have hdeclared : ∀ name ∈ namedFields (talksLike "lean" 1 2 ⟨0, 0⟩).filters
      (talksLike "lean" 1 2 ⟨0, 0⟩).order, talks.declares name = true := by decide
  have hfilters : ∀ item ∈ (talksLike "lean" 1 2 ⟨0, 0⟩).filters.entries, item.2 ≠ .among [] := by
    decide
  obtain ⟨select, count, hselect, hcount, -, -, hmem, hmem'⟩ := statements_mem_iff hschema hdeclared
  exact ⟨select, count, hselect, hcount, hmem.mpr hfilters, hmem'.mpr hfilters⟩

/-- The talks of no number at all. -/
def noTalks : FindOptions where
  filters := .ofList [("id", .among [])]

/-- The statements for the talks of no number at all have an empty list. -/
theorem statements_not_mem_noTalks :
    talks.validate = .ok () ∧ noTalks.filters.names = ["id"] ∧ talks.declares "id" = true ∧
      ∃ select count, Select.ofOptions talks noTalks = .ok select ∧
        Count.ofOptions talks noTalks = .ok count ∧
        select.text = "SELECT \"id\", \"title\", \"at\" FROM \"talks\" WHERE \"id\" IN ()" ∧
        select.text.toList ∉ Grammar.select Grammar.placeList ∧
        count.text = "SELECT COUNT(*) FROM \"talks\" WHERE \"id\" IN ()" ∧
        count.text.toList ∉ Grammar.count Grammar.placeList := by
  refine ⟨by decide, rfl, by decide, _, _, rfl, rfl, by decide, ?_, by decide, ?_⟩
  · intro hmem
    exact (AllSealed.select _ hmem).not_emptyBrackets ⟨
      "SELECT \"id\", \"title\", \"at\" FROM \"talks\" WHERE \"id\" IN ".toList, [], by decide⟩
  · intro hmem
    exact (AllSealed.count _ hmem).not_emptyBrackets ⟨
      "SELECT COUNT(*) FROM \"talks\" WHERE \"id\" IN ".toList, [], by decide⟩

end PagedListing.Sql

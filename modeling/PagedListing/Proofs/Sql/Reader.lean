import PagedListing.Proofs.Sql.Clause

/-!
# Statements read from their texts

A reader of statements knows the language of an engine, with comparisons and directions of its own, and
nothing of the trees that statements are written from. It reads the tokens of a text and takes the bound
values in the order of the question marks; no token and no value may be left. The text of a statement is
read with its parameters as the same tests, keys and bounds, each value at its own place
(`Select.read?_text`, `Count.read?_text`).
-/

namespace PagedListing.Sql
open PagedListing.Number (natOfDigits?)
open PagedListing.Steps (bind_eq)

/-! ## The language -/

/-- The comparisons of the language. -/
inductive Comparator where
  | equal
  | unequal
  | above
  | atLeast
  | below
  | atMost
  deriving DecidableEq

/-- A value in a test: a bound value as it is, or cast to a timestamp. -/
inductive Scalar where
  | bound (value : Param)
  | cast (value : Param)
  deriving DecidableEq

/-- A test of the cell in a column. -/
inductive Test where
  | comparison (column : String) (comparator : Comparator) (value : Scalar)
  | range (column : String) (low high : Scalar)
  | membership (column : String) (values : List Scalar)
  | search (column : String) (ignoreCase : Bool) (pattern : Param)
  deriving DecidableEq

/-- The direction of a key of an ordering. -/
inductive Sense where
  | rising
  | falling
  deriving DecidableEq

/-- A statement of the language: for the rows that pass some tests, or for their number. -/
inductive Statement where
  | rows (columns : List String) (table : String) (tests : List Test) (keys : List (String × Sense))
      (limit offset : Option Nat)
  | count (table : String) (tests : List Test)
  deriving DecidableEq

/-! ## Reading -/

/-- A step of reading: it takes tokens from the front, and the values of the places among them. -/
abbrev Reader := StateT (List Token × List Param) Option

namespace Reader

variable {α : Type}

/-- Take some tokens if they come next. -/
def accept (ts : List Token) : Reader Bool := fun (rest, values) =>
  if ts <+: rest then some (true, rest.drop ts.length, values) else some (false, rest, values)

/-- Take some tokens. -/
def expect (ts : List Token) : Reader Unit := do
  if ← accept ts then return () else failure

/-- A name between quotes. -/
def name : Reader String := fun
  | (.name s :: rest, values) => some (s, rest, values)
  | _ => none

/-- The word that comes next, if one does. -/
def word : Reader (Option String) := fun
  | (.word w :: rest, values) => some (some w, rest, values)
  | input => some (none, input)

/-- A number. -/
def number : Reader Nat := fun
  | (.word w :: rest, values) => (natOfDigits? 0 w.toList).map fun n => (n, rest, values)
  | _ => none

/-- The value bound to a place. -/
def place : Reader Param := fun
  | (.sign '?' :: rest, value :: values) => some (value, rest, values)
  | _ => none

/-- A bound value, or the cast of one to a timestamp. -/
def scalar : Reader Scalar := do
  if ← accept [.word "CAST", .sign '('] then
    let value ← place
    expect [.sign ' ', .word "AS", .sign ' ', .word "TIMESTAMP", .sign ')']
    return .cast value
  else return .bound (← place)

/-- A comparison. -/
def comparator : Reader Comparator := fun
  | (.sign '=' :: rest, values) => some (.equal, rest, values)
  | (.sign '<' :: .sign '>' :: rest, values) => some (.unequal, rest, values)
  | (.sign '<' :: .sign '=' :: rest, values) => some (.atMost, rest, values)
  | (.sign '<' :: rest, values) => some (.below, rest, values)
  | (.sign '>' :: .sign '=' :: rest, values) => some (.atLeast, rest, values)
  | (.sign '>' :: rest, values) => some (.above, rest, values)
  | _ => none

/-- Items with a separator between any two, no more than a number of them. -/
def items (separator : List Token) (item : Reader α) : Nat → Reader (List α)
  | 0 => failure
  | n + 1 => do
    let first ← item
    if ← accept separator then return first :: (← items separator item n) else return [first]

/-- At least one item, with a separator between any two. -/
def list (separator : List Token) (item : Reader α) : Reader (List α) := fun input =>
  items separator item (input.1.length + 1) input

/-- The bounds of a range. -/
def range (column : String) : Reader Test := do
  let low ← scalar
  expect [.sign ' ', .word "AND", .sign ' ']
  return .range column low (← scalar)

/-- The values of a membership behind the opening bracket; there may be none. -/
def members : Reader (List Scalar) := do
  if ← accept [.sign ')'] then return []
  let values ← list [.sign ',', .sign ' '] scalar
  expect [.sign ')']
  return values

/-- The pattern of a search, in which a backslash escapes. -/
def search (column : String) (ignoreCase : Bool) : Reader Test := do
  let pattern ← place
  expect [.sign ' ', .word "ESCAPE", .sign ' ', .literal "\\"]
  return .search column ignoreCase pattern

/-- A test of a column. -/
def test : Reader Test := do
  let column ← name
  expect [.sign ' ']
  match ← word with
  | some "IN" =>
    expect [.sign ' ', .sign '(']
    return .membership column (← members)
  | some "BETWEEN" =>
    expect [.sign ' ']
    range column
  | some "LIKE" =>
    expect [.sign ' ']
    search column false
  | some "ILIKE" =>
    expect [.sign ' ']
    search column true
  | some _ => failure
  | none =>
    let comparator ← comparator
    expect [.sign ' ']
    return .comparison column comparator (← scalar)

/-- A direction. -/
def sense : Reader Sense := fun
  | (.word "ASC" :: rest, values) => some (.rising, rest, values)
  | (.word "DESC" :: rest, values) => some (.falling, rest, values)
  | _ => none

/-- A key of an ordering that puts missing cells last. -/
def key : Reader (String × Sense) := do
  let column ← name
  expect [.sign ' ']
  let sense ← sense
  expect [.sign ' ', .word "NULLS", .sign ' ', .word "LAST"]
  return (column, sense)

/-- The name of the table. -/
def source : Reader String := do
  expect [.sign ' ', .word "FROM", .sign ' ']
  name

/-- The tests of the rows; without any, all rows pass. -/
def tests : Reader (List Test) := do
  if ← accept [.sign ' ', .word "WHERE", .sign ' '] then
    list [.sign ' ', .word "AND", .sign ' '] test
  else return []

/-- The keys of the ordering, if there is one. -/
def keys : Reader (List (String × Sense)) := do
  if ← accept [.sign ' ', .word "ORDER", .sign ' ', .word "BY", .sign ' '] then
    list [.sign ',', .sign ' '] key
  else return []

/-- The number behind a word, if the word comes next. -/
def bound (w : String) : Reader (Option Nat) := do
  if ← accept [.sign ' ', .word w, .sign ' '] then return some (← number) else return none

/-- The rest of a statement for rows. -/
def selected : Reader Statement := do
  let columns ← list [.sign ',', .sign ' '] name
  let table ← source
  let tests ← tests
  let keys ← keys
  let limit ← bound "LIMIT"
  let offset ← bound "OFFSET"
  return .rows columns table tests keys limit offset

/-- The rest of a statement for the number of rows. -/
def counted : Reader Statement := do
  let table ← source
  return .count table (← tests)

/-- A statement. -/
def statement : Reader Statement := do
  expect [.word "SELECT", .sign ' ']
  if ← accept [.word "COUNT", .sign '(', .sign '*', .sign ')'] then counted else selected

end Reader

/-- The statement of a text, with values bound to its places in their order. -/
def Statement.read? (text : String) (values : List Param) : Option Statement := do
  match ← Reader.statement (← tokens? text.toList, values) with
  | (s, [], []) => return s
  | _ => none

/-! ## What statements are read as -/

/-- The comparison that the sign of a relation is. -/
def Comparator.ofRelation : Relation → Comparator
  | .equal => equal
  | .unequal => unequal
  | .more => above
  | .moreOrEqual => atLeast
  | .less => below
  | .lessOrEqual => atMost

/-- The value that stands at a place. -/
def Scalar.ofPlace : Place → Scalar
  | .plain value => bound value
  | .timestamp value => cast (.text value)

/-- The test that a condition is read as. -/
def Test.ofCondition : Condition → Test
  | .compare column relation place => comparison column (.ofRelation relation) (.ofPlace place)
  | .between column low high => range column (.ofPlace low) (.ofPlace high)
  | .among column places => membership column (places.map Scalar.ofPlace)
  | .like column ignoreCase pattern => search column ignoreCase (.text pattern)

/-- The direction that a keyword is. -/
def Sense.ofDirection : Direction → Sense
  | .ascending => rising
  | .descending => falling

/-- The statement for records, as it is read. -/
def Statement.ofSelect (s : Select) : Statement :=
  rows s.columns s.table (s.conditions.map Test.ofCondition)
    (s.order.map fun entry => (entry.1, Sense.ofDirection entry.2)) (s.limit.map UInt32.toNat)
    (s.offset.map UInt64.toNat)

/-- The statement for the number of records, as it is read. -/
def Statement.ofCount (s : Count) : Statement :=
  count s.table (s.conditions.map Test.ofCondition)

/-! ## Steps of reading -/

namespace Reader

variable {α β : Type} {p : Reader α} {ts rest : List Token} {values more : List Param}

/-- A step takes some tokens and values and has a result, whatever comes behind them. -/
def Takes (p : Reader α) (ts : List Token) (values : List Param) (a : α) : Prop :=
  ∀ rest more, p (ts ++ rest, values ++ more) = some (a, rest, more)

/-- Tokens that come next are accepted. -/
lemma accept_append (ts rest : List Token) (values : List Param) :
    accept ts (ts ++ rest, values) = some (true, rest, values) := by
  rw [accept, if_pos (List.prefix_append ts rest), List.drop_left]

/-- Tokens that do not come next are not accepted. -/
lemma accept_of_absent (h : ¬ ts <+: rest) (values : List Param) :
    accept ts (rest, values) = some (false, rest, values) :=
  if_neg h

/-- Expected tokens are taken. -/
lemma expect_append (ts rest : List Token) (values : List Param) :
    expect ts (ts ++ rest, values) = some ((), rest, values) := by
  rw [expect, bind_eq (accept_append ts rest values)]
  rfl

/-- Items are read up to what follows the last one, if that is no separator. -/
lemma items_eq {separator : List Token} {tokens : β → List Token} {values : β → List Param}
    {result : β → α} {l : List β} (hne : l ≠ []) (hl : ∀ b ∈ l, Takes p (tokens b) (values b) (result b))
    (hrest : ¬ separator <+: rest) (more : List Param) {n : Nat} (hn : l.length ≤ n) :
    items separator p n (separator.intercalate (l.map tokens) ++ rest, l.flatMap values ++ more) =
      some (l.map result, rest, more) := by
  -- on the items: a separator behind one of them tells that another one comes
  induction l generalizing n with
  | nil => exact absurd rfl hne
  | cons first l ih =>
    obtain ⟨hfirst, hl⟩ := List.forall_mem_cons.mp hl
    obtain ⟨n, rfl⟩ : ∃ m, n = m + 1 := ⟨n - 1, by simp at hn; omega⟩
    cases l with
    | nil =>
      rw [List.map_singleton, List.intercalate_singleton, List.flatMap_singleton, items,
        bind_eq (hfirst rest more), bind_eq (accept_of_absent hrest more)]
      rfl
    | cons second l =>
      have hseparated : separator.intercalate ((first :: second :: l).map tokens) ++ rest =
          tokens first ++ (separator ++ (separator.intercalate ((second :: l).map tokens) ++ rest)) := by
        rw [List.map_cons, List.map_cons, List.intercalate_cons_cons, List.append_assoc,
          List.append_assoc]
      have hnext := ih (List.cons_ne_nil _ _) hl (Nat.le_of_succ_le_succ hn)
      rw [hseparated, List.flatMap_cons, List.append_assoc, items, bind_eq (hfirst _ _),
        bind_eq (accept_append _ _ _)]
      show (items separator p n >>= fun after => pure (result first :: after)) _ = _
      rw [bind_eq hnext]
      rfl

/-- A list has at most one item more than tokens. -/
lemma length_le_intercalate {separator : List Token} (hne : separator ≠ []) (l : List (List Token)) :
    l.length ≤ (separator.intercalate l).length + 1 := by
  induction l with
  | nil => exact Nat.zero_le _
  | cons first l ih =>
    cases l with
    | nil => exact Nat.succ_le_succ (Nat.zero_le _)
    | cons second l =>
      have hpos := List.length_pos_iff.mpr hne
      rw [List.intercalate_cons_cons, List.length_append, List.length_append, List.length_cons]
      omega

/-- A list is read up to what follows it, if that is no separator. -/
lemma list_eq {separator : List Token} (hseparator : separator ≠ []) {tokens : β → List Token}
    {values : β → List Param} {result : β → α} {l : List β} (hne : l ≠ [])
    (hl : ∀ b ∈ l, Takes p (tokens b) (values b) (result b)) (hrest : ¬ separator <+: rest)
    (more : List Param) :
    list separator p (separator.intercalate (l.map tokens) ++ rest, l.flatMap values ++ more) =
      some (l.map result, rest, more) := by
  refine items_eq hne hl hrest more ?_
  have hlength := length_le_intercalate hseparator (l.map tokens)
  rw [List.length_map] at hlength
  rw [List.length_append]
  omega

/-! ## Tests and keys -/

/-- A name is taken as its token. -/
lemma takes_name (s : String) : Takes name [.name s] [] s :=
  fun _ _ => rfl

/-- A place is read with its value. -/
lemma takes_place (place : Place) : Takes scalar place.tokens [place.param] (.ofPlace place) := by
  intro rest more
  cases place with
  | plain _ => rfl
  | timestamp _ => rfl

/-- A list begins as its first item does. -/
lemma exists_intercalate_cons (separator first : List Token) (l : List (List Token)) :
    ∃ after, separator.intercalate (first :: l) = first ++ after := by
  cases l with
  | nil => exact ⟨[], by rw [List.intercalate_singleton, List.append_nil]⟩
  | cons second l => exact ⟨_, by rw [List.intercalate_cons_cons, List.append_assoc]⟩

/-- The values of a membership are read up to its closing bracket, also if there are none. -/
lemma takes_members (places : List Place) :
    Takes members (comma.intercalate (places.map Place.tokens) ++ [.sign ')'])
      (places.map Place.param) (places.map Scalar.ofPlace) := by
  intro rest more
  cases places with
  | nil => rfl
  | cons first others =>
    -- no value begins with the closing bracket, which is tried before them
    have hopen : ¬ [.sign ')'] <+:
        comma.intercalate ((first :: others).map Place.tokens) ++ ([.sign ')'] ++ rest) := by
      obtain ⟨after, hafter⟩ := exists_intercalate_cons comma first.tokens (others.map Place.tokens)
      rw [List.map_cons, hafter]
      cases first with
      | plain _ => simp [Place.tokens]
      | timestamp _ => simp [Place.tokens]
    have hclosed : ¬ comma <+: [.sign ')'] ++ rest := by simp [comma]
    have hlist := list_eq (List.cons_ne_nil _ _) (List.cons_ne_nil first others)
      (fun place _ => takes_place place) hclosed more
    rw [← List.map_eq_flatMap] at hlist
    rw [List.append_assoc, members, bind_eq (accept_of_absent hopen _)]
    refine (bind_eq hlist).trans ?_
    rw [bind_eq (expect_append _ _ _)]
    rfl

/-- A condition is read as its test, with its values. -/
lemma takes_condition (c : Condition) : Takes test c.tokens c.params (.ofCondition c) := by
  intro rest more
  cases c with
  | compare column relation place =>
    cases relation <;> cases place <;> rfl
  | between column low high =>
    cases low <;> cases high <;> rfl
  | among column places =>
    show (members >>= fun values => pure (Test.membership column values))
      ((comma.intercalate (places.map Place.tokens) ++ [.sign ')']) ++ rest,
        places.map Place.param ++ more) = _
    rw [bind_eq (takes_members places rest more)]
    rfl
  | like column ignoreCase pattern => cases ignoreCase <;> rfl

/-- A column of an ordering is read as its key. -/
lemma takes_entry (entry : String × Direction) :
    Takes key (Clause.entryTokens entry) [] (entry.1, .ofDirection entry.2) := by
  obtain ⟨column, direction⟩ := entry
  cases direction with
  | ascending => exact fun _ _ => rfl
  | descending => exact fun _ _ => rfl

/-! ## Clauses -/

/-- Nothing comes next, or a clause that begins with one of some words. -/
def ClauseNext (words : List String) (rest : List Token) : Prop :=
  rest = [] ∨ ∃ w ∈ words, ∃ after, rest = .sign ' ' :: .word w :: after

/-- Clauses of some words begin with one of them, if there are any. -/
lemma clauseNext_behind {words : List String} {cs : List Clause} (h : ∀ c ∈ cs, c.word ∈ words) :
    ClauseNext words (Clause.behind cs) := by
  cases cs with
  | nil => exact .inl rfl
  | cons c cs => exact .inr ⟨c.word, h c List.mem_cons_self, _, rfl⟩

namespace ClauseNext

variable {words : List String}

/-- No other word comes next. -/
lemma not_word (h : ClauseNext words rest) {w : String} (hw : w ∉ words) (after : List Token) :
    ¬ .sign ' ' :: .word w :: after <+: rest := by
  obtain rfl | ⟨v, hv, others, rfl⟩ := h
  · exact fun hfront => List.cons_ne_nil _ _ (List.prefix_nil.mp hfront)
  · intro hfront
    simp only [List.cons_prefix_cons, Token.word.injEq, true_and] at hfront
    exact hw (hfront.1 ▸ hv)

/-- No comma comes next. -/
lemma not_comma (h : ClauseNext words rest) : ¬ comma <+: rest := by
  obtain rfl | ⟨v, -, others, rfl⟩ := h
  · simp [comma]
  · simp [comma]

end ClauseNext

/-- A clause is written behind a blank, and its body behind another one. -/
lemma behind_singleton (c : Clause) (rest : List Token) :
    Clause.behind [c] ++ rest = [.sign ' ', .word c.word, .sign ' '] ++ (c.body ++ rest) := by
  simp [Clause.behind, Clause.tokens]

/-- The clause of conditions is read as their tests. -/
lemma tests_eq {words : List String} (hwhere : "WHERE" ∉ words) (hand : "AND" ∉ words)
    (conditions : List Condition) (h : ClauseNext words rest) (more : List Param) :
    tests (Clause.behind (Clause.ofConditions conditions) ++ rest,
        conditions.flatMap Condition.params ++ more) =
      some (conditions.map Test.ofCondition, rest, more) := by
  cases conditions with
  | nil =>
    show tests (rest, more) = _
    rw [tests, bind_eq (accept_of_absent (h.not_word hwhere _) more)]
    rfl
  | cons first others =>
    rw [Clause.ofConditions, if_neg (by simp), behind_singleton, tests, bind_eq (accept_append _ _ _)]
    -- the separator of conditions begins as a clause does, with a word that no clause has
    exact list_eq (List.cons_ne_nil _ _) (List.cons_ne_nil first others)
      (fun c _ => takes_condition c) (h.not_word hand [.sign ' ']) more

/-- The clause of an ordering is read as its keys. -/
lemma keys_eq {words : List String} (horder : "ORDER" ∉ words) (order : List (String × Direction))
    (h : ClauseNext words rest) (more : List Param) :
    keys (Clause.behind (Clause.ofOrder order) ++ rest, more) =
      some (order.map fun entry => (entry.1, Sense.ofDirection entry.2), rest, more) := by
  cases order with
  | nil =>
    show keys (rest, more) = _
    rw [keys, bind_eq (accept_of_absent (h.not_word horder _) more)]
    rfl
  | cons first others =>
    have hlist := list_eq (List.cons_ne_nil _ _) (List.cons_ne_nil first others)
      (fun entry _ => takes_entry entry) h.not_comma more
    rw [List.flatMap_eq_nil_iff.mpr fun _ _ => rfl] at hlist
    rw [Clause.ofOrder, if_neg (by simp), behind_singleton]
    show keys ([.sign ' ', .word "ORDER", .sign ' ', .word "BY", .sign ' '] ++ _, more) = _
    rw [keys, bind_eq (accept_append _ _ _)]
    exact hlist

/-- The clause of a number is read as the number. -/
lemma bound_eq {words : List String} {w : String} (hw : w ∉ words) (n : Option Nat)
    (h : ClauseNext words rest) (more : List Param) :
    bound w (Clause.behind (Clause.ofNumber w n) ++ rest, more) = some (n, rest, more) := by
  cases n with
  | none =>
    show bound w (rest, more) = _
    rw [bound, bind_eq (accept_of_absent (h.not_word hw _) more)]
    rfl
  | some n =>
    have hnumber : number (.word n.repr :: rest, more) = some (n, rest, more) := by
      rw [number, Nat.toList_repr, Number.natOfDigits?_toDigits]
      rfl
    show bound w (Clause.behind [⟨w, [.word n.repr]⟩] ++ rest, more) = _
    rw [behind_singleton, bound, bind_eq (accept_append _ _ _)]
    exact bind_eq hnumber

/-- The clause of the table is read as its name. -/
lemma takes_source (table : String) : Takes source (Clause.behind [⟨"FROM", [.name table]⟩]) [] table :=
  fun _ _ => rfl

end Reader

/-! ## Whole statements -/

namespace Clause

/-- The clause of an ordering begins with its word. -/
lemma word_ofOrder {order : List (String × Direction)} : ∀ c ∈ ofOrder order, c.word = "ORDER" := by
  rw [ofOrder]
  split
  · exact List.forall_mem_nil _
  · exact List.forall_mem_singleton.mpr rfl

/-- The clause of a number begins with its word. -/
lemma word_ofNumber {word : String} {n : Option Nat} : ∀ c ∈ ofNumber word n, c.word = word := by
  cases n with
  | none => exact List.forall_mem_nil _
  | some n => exact List.forall_mem_singleton.mpr rfl

end Clause

namespace Select
open Clause

variable (s : Select)

/-- The clauses behind the ordering. -/
def boundClauses : List Clause :=
  ofNumber "LIMIT" (s.limit.map UInt32.toNat) ++ ofNumber "OFFSET" (s.offset.map UInt64.toNat)

/-- The clauses behind the conditions. -/
def backClauses : List Clause :=
  ofOrder s.order ++ s.boundClauses

/-- The clauses of the bounds begin with their words. -/
lemma word_boundClauses : ∀ c ∈ s.boundClauses, c.word ∈ ["LIMIT", "OFFSET"] := by
  intro c hc
  obtain hc | hc := List.mem_append.mp hc
  · simp [word_ofNumber c hc]
  · simp [word_ofNumber c hc]

/-- The clauses behind the conditions begin with their words. -/
lemma word_backClauses : ∀ c ∈ s.backClauses, c.word ∈ ["ORDER", "LIMIT", "OFFSET"] := by
  intro c hc
  obtain hc | hc := List.mem_append.mp hc
  · simp [word_ofOrder c hc]
  · exact List.mem_cons_of_mem _ (s.word_boundClauses c hc)

/-- The clauses of a statement are the table, the conditions and those behind them. -/
lemma behind_clauses : behind s.clauses =
    behind [⟨"FROM", [.name s.table]⟩] ++ (behind (ofConditions s.conditions) ++ behind s.backClauses) := by
  simp only [clauses, backClauses, boundClauses, behind_append, List.append_assoc]

/-- The columns are read up to the clauses behind them. -/
lemma columns_eq {s : Select} (h : s.columns ≠ []) :
    Reader.list comma Reader.name (s.columnClause.body ++ behind s.clauses, s.params) =
      some (s.columns, behind s.clauses, s.params) := by
  have hnext : Reader.ClauseNext ["FROM"] (behind s.clauses) :=
    .inr ⟨"FROM", List.mem_singleton_self _, _, s.behind_clauses⟩
  have hlist := Reader.list_eq (List.cons_ne_nil _ _) h (fun name _ => Reader.takes_name name)
    hnext.not_comma s.params
  rw [List.flatMap_eq_nil_iff.mpr fun _ _ => rfl, List.map_id'] at hlist
  exact hlist

/-- The conditions are read with all values, up to the clauses behind them. -/
lemma tests_eq :
    Reader.tests (behind (ofConditions s.conditions) ++ behind s.backClauses, s.params) =
      some (s.conditions.map Test.ofCondition, behind s.backClauses, []) := by
  have htests := Reader.tests_eq (by decide) (by decide) s.conditions
    (Reader.clauseNext_behind s.word_backClauses) []
  rw [List.append_nil] at htests
  exact htests

/-- The ordering and the bounds are read up to the end. -/
lemma selected_back {β : Type} (f : List (String × Sense) → Option Nat → Option Nat → Reader β) :
    (do f (← Reader.keys) (← Reader.bound "LIMIT") (← Reader.bound "OFFSET"))
        (behind s.backClauses, []) =
      f (s.order.map fun entry => (entry.1, .ofDirection entry.2)) (s.limit.map UInt32.toNat)
        (s.offset.map UInt64.toNat) ([], []) := by
  have hkeys := Reader.keys_eq (by decide) s.order
    (Reader.clauseNext_behind s.word_boundClauses) []
  have hoffset : ∀ c ∈ ofNumber "OFFSET" (s.offset.map UInt64.toNat), c.word ∈ ["OFFSET"] :=
    fun c hc => List.mem_singleton.mpr (word_ofNumber c hc)
  have hlimit := Reader.bound_eq (by decide : "LIMIT" ∉ ["OFFSET"]) (s.limit.map UInt32.toNat)
    (Reader.clauseNext_behind hoffset) []
  have hend := Reader.bound_eq (List.not_mem_nil : "OFFSET" ∉ []) (s.offset.map UInt64.toNat)
    (.inl rfl) []
  rw [List.append_nil] at hend
  rw [backClauses, behind_append, bind_eq hkeys, boundClauses, behind_append, bind_eq hlimit,
    bind_eq hend]

/-- The tokens of a statement are read as its parts. -/
lemma statement_tokens {s : Select} (h : s.columns ≠ []) :
    Reader.statement (s.tokens, s.params) = some (.ofSelect s, [], []) := by
  have htokens : s.tokens = [.word "SELECT", .sign ' '] ++ (s.columnClause.body ++ behind s.clauses) :=
    rfl
  -- the columns begin with a name, so they are not taken for a count
  have hnumber : ¬ [.word "COUNT", .sign '(', .sign '*', .sign ')'] <+:
      s.columnClause.body ++ behind s.clauses := by
    obtain ⟨first, others, hcolumns⟩ := List.exists_cons_of_ne_nil h
    obtain ⟨after, hafter⟩ := Reader.exists_intercalate_cons comma [.name first]
      (others.map fun name => [.name name])
    rw [columnClause, hcolumns, List.map_cons, hafter]
    simp
  have htable := Reader.takes_source s.table (behind (ofConditions s.conditions) ++ behind s.backClauses)
    s.params
  rw [← behind_clauses, List.nil_append] at htable
  rw [htokens, Reader.statement, bind_eq (Reader.expect_append _ _ _),
    bind_eq (Reader.accept_of_absent hnumber _)]
  show Reader.selected _ = _
  rw [Reader.selected]
  refine (bind_eq (columns_eq h)).trans ?_
  rw [bind_eq htable, bind_eq s.tests_eq, s.selected_back]
  rfl

/-- The text of a statement is read, with its parameters, as what it was written from. -/
theorem read?_text {s : Select} (h : s.columns ≠ []) :
    Statement.read? s.text s.params = some (.ofSelect s) := by
  rw [Statement.read?, tokens?_text]
  show (Reader.statement (s.tokens, s.params)).bind _ = _
  rw [statement_tokens h]
  rfl

example :
    Statement.read? ("SELECT \"id\" FROM \"a\"\"b\" WHERE \"id\" IN (?, ?) AND " ++
        "\"at\" BETWEEN CAST(? AS TIMESTAMP) AND CAST(? AS TIMESTAMP) " ++
        "ORDER BY \"at\" DESC NULLS LAST LIMIT 2 OFFSET 4")
      [.integer 1, .integer 2, .text "1970-01-01", .text "1970-01-02"] =
    some (.rows ["id"] "a\"b"
      [.membership "id" [.bound (.integer 1), .bound (.integer 2)],
        .range "at" (.cast (.text "1970-01-01")) (.cast (.text "1970-01-02"))]
      [("at", .falling)] (some 2) (some 4)) := by
  decide +kernel

end Select

namespace Count
open Clause

variable (s : Count)

/-- The tokens of a statement are read as its parts. -/
lemma statement_tokens : Reader.statement (s.tokens, s.params) = some (.ofCount s, [], []) := by
  have htokens : s.tokens = [.word "SELECT", .sign ' '] ++
      ([.word "COUNT", .sign '(', .sign '*', .sign ')'] ++
        (behind [⟨"FROM", [.name s.table]⟩] ++ behind (ofConditions s.conditions))) := by
    rw [tokens, clauses, behind_append]
    rfl
  have htable := Reader.takes_source s.table (behind (ofConditions s.conditions)) s.params
  have htests := Reader.tests_eq List.not_mem_nil List.not_mem_nil s.conditions (.inl rfl) []
  rw [List.append_nil, List.append_nil] at htests
  rw [htokens, Reader.statement, bind_eq (Reader.expect_append _ _ _),
    bind_eq (Reader.accept_append _ _ _)]
  show Reader.counted _ = _
  rw [Reader.counted]
  refine (bind_eq htable).trans ?_
  refine (bind_eq htests).trans ?_
  rfl

/-- The text of a statement is read, with its parameters, as what it was written from. -/
theorem read?_text : Statement.read? s.text s.params = some (.ofCount s) := by
  rw [Statement.read?, tokens?_text]
  show (Reader.statement (s.tokens, s.params)).bind _ = _
  rw [statement_tokens]
  rfl

end Count

end PagedListing.Sql

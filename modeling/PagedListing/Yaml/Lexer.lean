import PagedListing.Yaml.Token

/-!
# Tokens of a text

The tokens are found from left to right. A block collection begins where a sign stands to the right of
the open collections, and ends where a line stands to the left of it. Whether a scalar or a collection
is a key is seen only at the colon that follows it, so that the lexer remembers where the last possible
key of each level stands, and puts the token of a key before it when the colon comes.
-/

namespace PagedListing.Yaml

/-- A place where a key may stand: among the tokens and in the text. -/
structure PossibleKey where
  /-- Whether there can only be a key here. -/
  required : Bool
  place : Nat
  line : Nat
  column : Nat
  index : Nat

/-- A key is on one line and has at most 1024 characters before its colon. -/
def PossibleKey.isStale (k : PossibleKey) (p : Cursor) : Bool :=
  k.line < p.line || k.index + 1024 < p.index

/-- What has been read of a text. -/
structure Lexer where
  position : Cursor
  tokens : Array Token := #[]
  /-- The columns of the open block collections, the innermost first. -/
  indents : List Nat := []
  /-- The possible key of this level. -/
  key : Option PossibleKey := none
  /-- The possible keys around the open flow collections, the innermost first. -/
  outer : List (Option PossibleKey) := []
  /-- Whether a key may begin here. -/
  keyAllowed : Bool := true

namespace Lexer

/-- Whether a flow collection is open. -/
def inFlow (s : Lexer) : Bool :=
  !s.outer.isEmpty

/-- The column of the innermost block collection, or one before the first. -/
def indent (s : Lexer) : Int :=
  match s.indents with
  | [] => -1
  | n :: _ => n

/-- Add a token that ends at a position. -/
def push (s : Lexer) (token : Token) (p : Cursor) : Lexer :=
  { s with tokens := s.tokens.push token, position := p }

/-- Give up the possible key of this level. -/
def dropKey (s : Lexer) : Except String Lexer :=
  if s.key.any (·.required) then .error "could not find expected ':'"
  else .ok { s with key := none }

/-- Give up the possible keys whose colon comes too late. -/
def dropStale (s : Lexer) : Except String Lexer :=
  let stale (k : PossibleKey) : Bool := k.isStale s.position
  if (s.key :: s.outer).any (·.any fun k => k.required && stale k) then
    .error "could not find expected ':'"
  else
    .ok { s with
      key := s.key.filter (!stale ·)
      outer := s.outer.map (·.filter (!stale ·)) }

/-- Remember that a key may begin here. -/
def noteKey (s : Lexer) : Except String Lexer :=
  if s.keyAllowed then do
    let p := s.position
    let required := !s.inFlow && s.indent == p.column
    let s ← s.dropKey
    return { s with key := some ⟨required, s.tokens.size, p.line, p.column, p.index⟩ }
  else .ok s

/-- Begin a block collection at a column that is to the right of all that are open. -/
def openBlock (s : Lexer) (column place : Nat) (token : Token) : Lexer :=
  if !s.inFlow && s.indent < column then
    { s with
      indents := column :: s.indents
      tokens := s.tokens.insertIdxIfInBounds place token }
  else s

/-- End the block collections to the right of a column. -/
def closeBlocks (s : Lexer) (column : Int) : Lexer :=
  if s.inFlow then s
  else
    let count := (s.indents.takeWhile fun n : Nat => column < n).length
    { s with
      indents := s.indents.drop count
      tokens := s.tokens ++ Array.replicate count .blockEnd }

/-- Pass over blanks, comments and empty lines. A tab may not stand where a block may begin. -/
def skipBlanks : Nat → Lexer → Lexer
  | 0, s => s
  | fuel + 1, s =>
    let tabs := s.inFlow || !s.keyAllowed
    let p := if s.position.column = 0 ∧ s.position.at? '\uFEFF' then s.position.skip else s.position
    let p := (p.takeWhile fun c => c = ' ' || (tabs && c = '\t')).2
    let p := if p.at? '#' then (p.takeWhile (!isBreak ·)).2 else p
    if p.atBreak then
      skipBlanks fuel { s with position := p.skipBreak, keyAllowed := s.keyAllowed || !s.inFlow }
    else { s with position := p }

/-! ## Signs -/

/-- A directive or the mark of a document, which ends all block collections. -/
def outside (s : Lexer) (token : Token) (p : Cursor) : Except String Lexer := do
  let s ← (s.closeBlocks (-1)).dropKey
  return { s.push token p with keyAllowed := false }

/-- The beginning of a flow collection. -/
def openFlow (s : Lexer) (token : Token) : Except String Lexer := do
  let s ← s.noteKey
  let s := s.push token s.position.skip
  return { s with outer := s.key :: s.outer, key := none, keyAllowed := true }

/-- The end of a flow collection. -/
def closeFlow (s : Lexer) (token : Token) : Except String Lexer := do
  let s ← s.dropKey
  let s := s.push token s.position.skip
  let s := { s with keyAllowed := false }
  match s.outer with
  | [] => return s
  | key :: outer => return { s with key, outer }

/-- The sign before an entry of a block sequence. -/
def entry (s : Lexer) : Except String Lexer := do
  if !s.inFlow && !s.keyAllowed then
    throw "block sequence entries are not allowed in this context"
  let s := s.openBlock s.position.column s.tokens.size .blockSequence
  let s ← s.dropKey
  return { s.push .entry s.position.skip with keyAllowed := true }

/-- The sign before a key. -/
def explicitKey (s : Lexer) : Except String Lexer := do
  if !s.inFlow && !s.keyAllowed then throw "mapping keys are not allowed in this context"
  let s := s.openBlock s.position.column s.tokens.size .blockMapping
  let s ← s.dropKey
  return { s.push .key s.position.skip with keyAllowed := !s.inFlow }

/-- The sign before a value; what may be a key before it is one. -/
def value (s : Lexer) : Except String Lexer := do
  match s.key with
  | some k =>
    let s := { s with tokens := s.tokens.insertIdxIfInBounds k.place .key, key := none }
    let s := s.openBlock k.column k.place .blockMapping
    return { s.push .value s.position.skip with keyAllowed := false }
  | none =>
    if !s.inFlow && !s.keyAllowed then throw "mapping values are not allowed in this context"
    let s := s.openBlock s.position.column s.tokens.size .blockMapping
    return { s.push .value s.position.skip with keyAllowed := !s.inFlow }

/-- A token that may belong to a key. -/
def word (s : Lexer) (read : Cursor → Except String (Token × Cursor)) : Except String Lexer := do
  let s ← s.noteKey
  let (token, p) ← read s.position
  return { s.push token p with keyAllowed := false }

/-! ## Scalars -/

/-- A plain scalar. A key may follow it if it ends with a line. -/
def plain (s : Lexer) : Except String Lexer := do
  let s ← s.noteKey
  let p := s.position
  let (text, broken, p) ← readPlain s.inFlow (s.indent + 1).toNat (p.rest.length + 1) [] {} p
  return { s.push (.scalar (String.ofList text) .plain) p with keyAllowed := broken }

/-- A quoted scalar. -/
def quoted (s : Lexer) (quote : Char) : Except String Lexer :=
  s.word fun p => do
    let (text, p) ← readQuoted quote (p.rest.length + 1) [] p.skip
    return (.scalar (String.ofList text) .quoted, p)

/-- A block scalar. -/
def block (s : Lexer) (style : ScalarStyle) : Except String Lexer := do
  let s ← s.dropKey
  let (text, p) ← readBlock (style = .folded) s.indent s.position.skip
  return { s.push (.scalar (String.ofList text) style) p with keyAllowed := true }

/-- Whether a plain scalar may begin with a character that is followed by what stands after it. -/
def startsPlain (s : Lexer) (c : Char) : Bool :=
  let p := s.position
  if c = '-' then !p.rest[1]?.any isGap
  else if c = '?' || c = ':' then !s.inFlow && !p.endsWord 1
  else !p.endsWord && !",[]\x7b\x7d#&*!|>'\"%@\x60".toList.contains c

/-! ## The whole text -/

/-- Add the next token, which begins with the given character. -/
def next (s : Lexer) (c : Char) : Except String Lexer := do
  let p := s.position
  if p.column = 0 ∧ c = '%' then
    let (token, p) ← Token.readDirective p
    s.outside token p
  else if p.atMarker '-' then s.outside .documentStart (p.skipMany 3)
  else if p.atMarker '.' then s.outside .documentEnd (p.skipMany 3)
  else match c with
  | '[' => s.openFlow .flowSequence
  | '\x7b' => s.openFlow .flowMapping
  | ']' => s.closeFlow .flowSequenceEnd
  | '\x7d' => s.closeFlow .flowMappingEnd
  | ',' => do
    let s ← s.dropKey
    return { s.push .comma p.skip with keyAllowed := true }
  | '*' => s.word fun p => do
    let (name, p) ← Token.readName p
    return (.reference name, p)
  | '&' => s.word fun p => do
    let (name, p) ← Token.readName p
    return (.anchor name, p)
  | '!' => s.word (Token.readTag s.inFlow)
  | '\'' | '"' => s.quoted c
  | _ =>
    if c = '-' ∧ p.endsWord 1 then s.entry
    else if c = '?' ∧ (s.inFlow ∨ p.endsWord 1) then s.explicitKey
    else if c = ':' ∧ (s.inFlow ∨ p.endsWord 1) then s.value
    else if c = '|' ∧ !s.inFlow then s.block .literal
    else if c = '>' ∧ !s.inFlow then s.block .folded
    else if s.startsPlain c then s.plain
    else throw "found character that cannot start any token"

/-- The tokens up to the end of the text. -/
def run (s : Lexer) : Except String (Array Token) := do
  let begun ← (skipBlanks (s.position.rest.length + 1) s).dropStale
  match begun.position.rest with
  | [] => return (← (begun.closeBlocks (-1)).dropKey).tokens
  | c :: _ =>
    let after ← (begun.closeBlocks begun.position.column).next c
    if _shorter : after.position.rest.length < s.position.rest.length then after.run
    else throw "found character that cannot start any token"
termination_by s.position.rest.length

end Lexer

/-- Whether a character may stand in a text. -/
def isPrintable (c : Char) : Bool :=
  let n := c.toNat
  n = 0x9 || n = 0xA || n = 0xD || (0x20 ≤ n && n ≤ 0x7E) || n = 0x85 ||
    (0xA0 ≤ n && n ≤ 0xFFFD) || 0x10000 ≤ n

/-- The tokens of a text, which may begin with the mark of its byte order. -/
def Token.ofText (text : String) : Except String (Array Token) := do
  let chars := match text.toList with
    | '\uFEFF' :: rest => rest
    | chars => chars
  if !chars.all isPrintable then throw "control characters are not allowed"
  Lexer.run { position := { rest := chars } }

end PagedListing.Yaml

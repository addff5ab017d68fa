import PagedListing.Yaml.Cursor

/-!
# Scalars of YAML

Reading plain, quoted and block scalars. In plain and quoted scalars line breaks are folded: a single
one becomes a blank and of several the first is dropped. In a block scalar the lines are kept, or
folded where neither of them begins with a gap; what is kept of the breaks at its end is written
after its mark.
-/

namespace PagedListing.Yaml

/-- How a scalar is written. -/
inductive ScalarStyle where
  | plain
  | quoted
  | literal
  | folded
  deriving DecidableEq, Inhabited

/-- What stands between two words of a scalar: gaps in a line, or breaks with the gaps around them
dropped. -/
structure Gap where
  spaces : List Char := []
  lead : List Char := []
  trail : List Char := []
  broken : Bool := false

namespace Gap

/-- What a gap means in a folded text. -/
def folded (g : Gap) : List Char :=
  if !g.broken then g.spaces
  else if g.lead.head? = some '\n' then
    if g.trail.isEmpty then [' '] else g.trail
  else g.lead ++ g.trail

/-- The gap at a position and the position after it. In a broken line a tab may not stand before the
given column. -/
def read (column : Nat) : Nat → Gap → Cursor → Except String (Gap × Cursor)
  | 0, g, p => .ok (g, p)
  | fuel + 1, g, p =>
    if p.atGap then
      if g.broken then
        if p.at? '\t' ∧ p.column < column then
          .error "found a tab character that violates indentation"
        else read column fuel g p.skip
      else read column fuel { g with spaces := g.spaces ++ p.rest.take 1 } p.skip
    else if p.atBreak then
      let (kept, next) := p.takeBreak
      if g.broken then read column fuel { g with trail := g.trail ++ kept } next
      else read column fuel { g with spaces := [], lead := kept, broken := true } next
    else .ok (g, p)

end Gap

/-! ## Plain scalars -/

/-- A sign that ends or parts flow collections. -/
def isFlowSign (c : Char) : Bool :=
  c = ',' || c = '[' || c = ']' || c = '\x7b' || c = '\x7d'

/-- Whether a plain scalar ends before what stands here. -/
def endsPlain (inFlow : Bool) (p : Cursor) : Bool :=
  p.endsWord || (p.at? ':' && p.endsWord 1) || (inFlow && p.rest.head?.any isFlowSign)

/-- A word of a plain scalar and the position after it. -/
def plainWord (inFlow : Bool) : Nat → List Char → Cursor → Except String (List Char × Cursor)
  | 0, word, p => .ok (word, p)
  | fuel + 1, word, p =>
    if inFlow && p.at? ':' && (p.peek? 1).any (fun c => isFlowSign c || c = '?') then
      .error "found unexpected ':' in a plain scalar"
    else if endsPlain inFlow p then .ok (word, p)
    else plainWord inFlow fuel (word ++ p.rest.take 1) p.skip

/-- A plain scalar that goes on after the text and the gap read so far. It tells whether its last gap
is a line break, and ends where a line is indented less than it has to be. -/
def readPlain (inFlow : Bool) (indent : Nat) :
    Nat → List Char → Gap → Cursor → Except String (List Char × Bool × Cursor)
  | 0, text, g, p => .ok (text, g.broken, p)
  | fuel + 1, text, g, p =>
    if p.atDocumentMarker || p.at? '#' then .ok (text, g.broken, p)
    else do
      let (word, p) ← plainWord inFlow (p.rest.length + 1) [] p
      let text := if word.isEmpty then text else text ++ g.folded ++ word
      let broken := word.isEmpty && g.broken
      if p.atGap || p.atBreak then
        let (g, p) ← Gap.read indent (p.rest.length + 1) {} p
        if !inFlow && p.column < indent then return (text, g.broken, p)
        else readPlain inFlow indent fuel text g p
      else return (text, broken, p)

/-! ## Quoted scalars -/

/-- The value of a hexadecimal digit. -/
def hexValue? (c : Char) : Option Nat :=
  if c.isDigit then some (c.toNat - '0'.toNat)
  else if 'a' ≤ c ∧ c ≤ 'f' then some (c.toNat - 'a'.toNat + 10)
  else if 'A' ≤ c ∧ c ≤ 'F' then some (c.toNat - 'A'.toNat + 10)
  else none

/-- The character of a code point in hexadecimal digits. -/
def codePoint? (digits : List Char) : Option Char := do
  let n ← digits.foldlM (fun n c => (hexValue? c).map (16 * n + ·)) 0
  if n < 0xD800 ∨ (0xE000 ≤ n ∧ n < 0x110000) then some (Char.ofNat n) else none

/-- The character that a letter after a backslash stands for. -/
def escaped? (c : Char) : Option Char :=
  match c with
  | '0' => some '\x00'
  | 'a' => some '\x07'
  | 'b' => some '\x08'
  | 't' => some '\t'
  | '\t' => some '\t'
  | 'n' => some '\n'
  | 'v' => some '\x0b'
  | 'f' => some '\x0c'
  | 'r' => some '\r'
  | 'e' => some '\x1b'
  | ' ' => some ' '
  | '"' => some '"'
  | '/' => some '/'
  | '\\' => some '\\'
  | 'N' => some '\u0085'
  | '_' => some '\u00a0'
  | 'L' => some '\u2028'
  | 'P' => some '\u2029'
  | _ => none

/-- How many hexadecimal digits follow a letter after a backslash. -/
def escapeDigits (c : Char) : Nat :=
  match c with
  | 'x' => 2
  | 'u' => 4
  | 'U' => 8
  | _ => 0

/-- The character after a backslash, and the position after it. -/
def readEscape (p : Cursor) : Except String (Char × Cursor) :=
  match p.peek? with
  | none => .error "found unexpected end of stream"
  | some c =>
    let count := escapeDigits c
    if count = 0 then
      match escaped? c with
      | some e => .ok (e, p.skip)
      | none => .error "found unknown escape character"
    else
      let digits := (p.rest.drop 1).take count
      match digits.length == count, codePoint? digits with
      | true, some e => .ok (e, p.skipMany (count + 1))
      | _, _ => .error "found an invalid character code"

/-- A word of a quoted scalar, whether an escaped line break ends it, and the position after it. -/
def quotedWord (quote : Char) :
    Nat → List Char → Cursor → Except String (List Char × Bool × Cursor)
  | 0, word, p => .ok (word, false, p)
  | fuel + 1, word, p =>
    if p.endsWord then .ok (word, false, p)
    else if quote = '\'' ∧ p.at? '\'' ∧ p.at? '\'' 1 then
      quotedWord quote fuel (word ++ ['\'']) (p.skipMany 2)
    else if p.at? quote then .ok (word, false, p)
    else if quote = '"' ∧ p.at? '\\' then
      if (p.peek? 1).any isBreak then .ok (word, true, p.skip.skipBreak)
      else do
        let (c, p) ← readEscape p.skip
        quotedWord quote fuel (word ++ [c]) p
    else quotedWord quote fuel (word ++ p.rest.take 1) p.skip

/-- A quoted scalar after its opening quote, given the text read so far. -/
def readQuoted (quote : Char) : Nat → List Char → Cursor → Except String (List Char × Cursor)
  | 0, _, _ => .error "found unexpected end of stream"
  | fuel + 1, text, p =>
    if p.atDocumentMarker then .error "found unexpected document indicator"
    else if p.isEnd then .error "found unexpected end of stream"
    else do
      let (word, broken, p) ← quotedWord quote (p.rest.length + 1) [] p
      let text := text ++ word
      if !broken && p.at? quote then return (text, p.skip)
      else
        let (g, p) ← Gap.read 0 (p.rest.length + 1) { broken } p
        readQuoted quote fuel (text ++ g.folded) p

/-! ## Block scalars -/

/-- What becomes of the breaks at the end of a block scalar. -/
inductive Chomping where
  | clip
  | strip
  | keep
  deriving DecidableEq

/-- The sign of a chomping. -/
def chomping? (p : Cursor) : Option Chomping :=
  if p.at? '+' then some .keep else if p.at? '-' then some .strip else none

/-- An indentation that is written after the mark of a block scalar; zero is none. -/
def increment? (p : Cursor) : Except String (Option Nat) :=
  match p.peek? with
  | some '0' => .error "found an indentation indicator equal to 0"
  | some c => .ok (if c.isDigit then some (c.toNat - '0'.toNat) else none)
  | none => .ok none

/-- Chomping and indentation in either order, and the position after them. -/
def blockHeader (p : Cursor) : Except String (Chomping × Option Nat × Cursor) := do
  match chomping? p with
  | some chomping =>
    let p := p.skip
    match ← increment? p with
    | some n => return (chomping, some n, p.skip)
    | none => return (chomping, none, p)
  | none =>
    match ← increment? p with
    | some n =>
      let p := p.skip
      match chomping? p with
      | some chomping => return (chomping, some n, p.skip)
      | none => return (.clip, some n, p)
    | none => return (.clip, none, p)

/-- The breaks before the next line that is not empty, the largest indentation among these lines, and
the position of the line. Without an indentation every blank belongs to it. -/
def blockBreaks (indent : Option Nat) :
    Nat → List Char → Nat → Cursor → Except String (List Char × Nat × Cursor)
  | 0, breaks, most, p => .ok (breaks, most, p)
  | fuel + 1, breaks, most, p =>
    let inside (column : Nat) : Bool := indent.all (column < ·)
    let room := match indent with
      | some n => n - p.column
      | none => p.rest.length
    let spaces := ((p.rest.take room).takeWhile (· = ' ')).length
    let p := p.skipMany spaces
    let most := max most p.column
    if inside p.column && p.at? '\t' then
      .error "found a tab character where an indentation space is expected"
    else if p.atBreak then
      let (kept, p) := p.takeBreak
      blockBreaks indent fuel (breaks ++ kept) most p
    else .ok (breaks, most, p)

/-- The lines of a block scalar after the text so far, the break before, and the breaks after that
one; it tells whether the line before begins with a gap. -/
def blockLines (isFolded : Bool) (indent : Nat) : Nat → List Char → List Char → List Char → Bool →
    Cursor → Except String (List Char × List Char × List Char × Cursor)
  | 0, text, lead, trail, _, p => .ok (text, lead, trail, p)
  | fuel + 1, text, lead, trail, gapBefore, p =>
    if p.column ≠ indent ∨ p.isEnd then .ok (text, lead, trail, p)
    else do
      let gapHere := p.atGap
      let joined :=
        if isFolded && lead.head? = some '\n' && !gapBefore && !gapHere then
          if trail.isEmpty then [' '] else trail
        else lead ++ trail
      let (line, p) := p.takeWhile (!isBreak ·)
      let (lead, p) := p.takeBreak
      let (trail, _, p) ← blockBreaks (some indent) (p.rest.length + 1) [] 0 p
      blockLines isFolded indent fuel (text ++ joined ++ line) lead trail gapHere p

/-- A block scalar after its mark, in a collection of the given indentation. -/
def readBlock (isFolded : Bool) (parent : Int) (p : Cursor) : Except String (List Char × Cursor) := do
  let (chomping, increment, p) ← blockHeader p
  let p := p.skipComment
  if !p.isEnd && !p.atBreak then throw "did not find expected comment or line break"
  let p := p.skipBreak
  let base := parent.toNat
  let wanted := increment.map (base + ·)
  let (trail, most, p) ← blockBreaks wanted (p.rest.length + 1) [] 0 p
  let indent := wanted.getD (max (max most (parent + 1).toNat) 1)
  let (text, lead, trail, p) ← blockLines isFolded indent (p.rest.length + 1) [] [] trail false p
  let text := if chomping = .strip then text else text ++ lead
  return (if chomping = .keep then text ++ trail else text, p)

end PagedListing.Yaml

import PagedListing.Yaml.Lexer
import PagedListing.Yaml.Node

/-!
# Documents from tokens

A node is a reference, or a scalar or a collection that may have an anchor and a tag before it. Where a
node may be left out an empty one stands. A text holds at most one document.
-/

namespace PagedListing.Yaml

/-- What a parser knows: the tokens ahead, the stems of handles, and the anchors. -/
structure ParserState where
  tokens : List Token
  handles : List (String × String) := []
  /-- The numbers of the names of anchors, the last one first. -/
  numbers : List (String × Nat) := []
  anchored : List (Nat × Node) := []

/-- A parser of tokens. -/
abbrev Parser (α : Type) := StateT ParserState (Except String) α

namespace Parser

/-- The token ahead. -/
def peek? : Parser (Option Token) := do
  return (← get).tokens.head?

/-- Pass over a token. -/
def skip : Parser Unit :=
  modify fun s => { s with tokens := s.tokens.drop 1 }

/-- Whether the token ahead is one of some tokens. -/
def isAhead (tokens : List Token) : Parser Bool := do
  return (← peek?).any (tokens.contains ·)

/-- Pass over a token if it is ahead. -/
def accept (token : Token) : Parser Bool := do
  let found ← isAhead [token]
  if found then skip
  return found

/-! ## Anchors and tags -/

/-- The tag with a handle and what follows it. -/
def tagText (handle suffix : String) : Parser String := do
  if handle.isEmpty then return suffix
  match (← get).handles.lookup handle with
  | some stem => return stem ++ suffix
  | none => throw "found undefined tag handle"

/-- An anchor, if one is ahead. -/
def anchor? : Parser (Option String) := do
  match ← peek? with
  | some (.anchor name) =>
    skip
    return some name
  | _ => return none

/-- A tag, if one is ahead. -/
def tag? : Parser (Option String) := do
  match ← peek? with
  | some (.tag handle suffix) =>
    skip
    return some (← tagText handle suffix)
  | _ => return none

/-- An anchor and a tag in either order. -/
def properties : Parser (Option String × Option String) := do
  match ← anchor? with
  | some name => return (some name, ← tag?)
  | none =>
    let tag ← tag?
    return (← anchor?, tag)

/-- Number an anchor by how many names there are. -/
def numberAnchor (name : String) : Parser Nat := do
  let s ← get
  let known := s.numbers.filter (·.1 ≠ name)
  set { s with numbers := (name, s.numbers.length) :: known }
  return s.numbers.length

/-- Remember the node of an anchor. -/
def remember (number : Option Nat) (node : Node) : Parser Unit :=
  match number with
  | some n => modify fun s => { s with anchored := (n, node) :: s.anchored }
  | none => pure ()

/-- The node that a name refers to. -/
def reference (name : String) : Parser Node := do
  match (← get).numbers.lookup name with
  | some n => return .reference n
  | none => throw "unknown anchor"

/-! ## Nodes

Every parser takes a bound for the tokens that it reads. -/

/-- Which collections may begin at a node. -/
structure Place where
  /-- Whether block collections may. -/
  inBlock : Bool
  /-- Whether a block sequence may at the column of the mapping around it. -/
  indentless : Bool := false

/-- A node in a flow collection. -/
def Place.flow : Place := ⟨false, false⟩

/-- A node in a block sequence. -/
def Place.inSequence : Place := ⟨true, false⟩

/-- A node in a block mapping. -/
def Place.inMapping : Place := ⟨true, true⟩

mutual

/-- The node at a place. -/
def node (place : Place) : Nat → Parser Node
  | 0 => throw "did not find expected node content"
  | fuel + 1 => do
    match ← peek? with
    | some (.reference name) =>
      skip
      reference name
    | _ =>
      let (anchor, tag) ← properties
      let number ← anchor.mapM numberAnchor
      let found ← content place (anchor.isSome || tag.isSome) tag fuel
      remember number found
      return found

/-- What follows the anchor and the tag of a node. -/
def content (place : Place) (mayBeEmpty : Bool) (tag : Option String) : Nat → Parser Node
  | 0 => throw "did not find expected node content"
  | fuel + 1 => do
    match ← peek?, place.inBlock, place.indentless with
    | some .entry, _, true => return .sequence (← indentlessItems fuel)
    | some (.scalar text style), _, _ =>
      skip
      return .scalar text style (tag.filter (· ≠ "!"))
    | some .flowSequence, _, _ =>
      skip
      return .sequence (← flowItems true fuel)
    | some .flowMapping, _, _ =>
      skip
      return .mapping (← flowEntries true fuel)
    | some .blockSequence, true, _ =>
      skip
      return .sequence (← blockItems fuel)
    | some .blockMapping, true, _ =>
      skip
      return .mapping (← blockEntries fuel)
    | _, _, _ =>
      if mayBeEmpty then return .scalar "" .plain tag
      else throw "did not find expected node content"

/-- The node at a place, or an empty one before some tokens. -/
def nodeBefore (place : Place) (stops : List Token) : Nat → Parser Node
  | 0 => throw "did not find expected node content"
  | fuel + 1 => do
    if ← isAhead stops then return .empty
    else node place fuel

/-- The value after its sign, or an empty one where there is none. -/
def valueBefore (place : Place) (stops : List Token) : Nat → Parser Node
  | 0 => throw "did not find expected node content"
  | fuel + 1 => do
    if ← accept .value then nodeBefore place stops fuel
    else return .empty

/-- The items of a block sequence. -/
def blockItems : Nat → Parser (List Node)
  | 0 => throw "did not find expected '-' indicator"
  | fuel + 1 => do
    if ← accept .entry then
      let item ← nodeBefore .inSequence [.entry, .blockEnd] fuel
      return item :: (← blockItems fuel)
    else if ← accept .blockEnd then return []
    else throw "did not find expected '-' indicator"

/-- The items of a block sequence at the column of the mapping around it, which ends without a sign. -/
def indentlessItems : Nat → Parser (List Node)
  | 0 => throw "did not find expected '-' indicator"
  | fuel + 1 => do
    if ← accept .entry then
      let item ← nodeBefore .inSequence [.entry, .key, .value, .blockEnd] fuel
      return item :: (← indentlessItems fuel)
    else return []

/-- The entries of a block mapping. -/
def blockEntries : Nat → Parser (List (Node × Node))
  | 0 => throw "did not find expected key"
  | fuel + 1 => do
    if ← accept .key then
      let key ← nodeBefore .inMapping [.key, .value, .blockEnd] fuel
      let value ← valueBefore .inMapping [.key, .value, .blockEnd] fuel
      return (key, value) :: (← blockEntries fuel)
    else if ← accept .blockEnd then return []
    else throw "did not find expected key"

/-- The items of a flow sequence, parted by commas. -/
def flowItems (first : Bool) : Nat → Parser (List Node)
  | 0 => throw "did not find expected ',' or ']'"
  | fuel + 1 => do
    if ← accept .flowSequenceEnd then return []
    if !first then
      if !(← accept .comma) then throw "did not find expected ',' or ']'"
    if ← accept .key then
      let pair ← flowPair fuel
      return .mapping [pair] :: (← flowItems false fuel)
    else if ← accept .flowSequenceEnd then return []
    else
      let item ← node .flow fuel
      return item :: (← flowItems false fuel)

/-- The one entry of a mapping that stands in a flow sequence. Where its key is left out, the token in
its place is passed over. -/
def flowPair : Nat → Parser (Node × Node)
  | 0 => throw "did not find expected ',' or ']'"
  | fuel + 1 => do
    let keyless ← isAhead [.value, .comma, .flowSequenceEnd]
    let key ← nodeBefore .flow [.value, .comma, .flowSequenceEnd] fuel
    if keyless then skip
    return (key, ← valueBefore .flow [.comma, .flowSequenceEnd] fuel)

/-- The entries of a flow mapping, parted by commas. -/
def flowEntries (first : Bool) : Nat → Parser (List (Node × Node))
  | 0 => throw "did not find expected ',' or a brace"
  | fuel + 1 => do
    if ← accept .flowMappingEnd then return []
    if !first then
      if !(← accept .comma) then throw "did not find expected ',' or a brace"
    if ← accept .key then
      let key ← nodeBefore .flow [.value, .comma, .flowMappingEnd] fuel
      let value ← valueBefore .flow [.comma, .flowMappingEnd] fuel
      return (key, value) :: (← flowEntries false fuel)
    else if ← accept .flowMappingEnd then return []
    else
      let key ← node .flow fuel
      return (key, .empty) :: (← flowEntries false fuel)

end

/-! ## Documents -/

/-- The handles that are always known. -/
def standardHandles : List (String × String) :=
  [("!", "!"), ("!!", "tag:yaml.org,2002:")]

/-- The directives before a document, given whether a version is among those before. -/
def directives (versioned : Bool) : Nat → Parser Bool
  | 0 => return versioned
  | fuel + 1 => do
    match ← peek? with
    | some (.version major minor) =>
      if versioned then throw "found duplicate %YAML directive"
      if major ≠ 1 ∨ (minor ≠ 1 ∧ minor ≠ 2) then throw "found incompatible YAML document"
      skip
      directives true fuel
    | some (.tagHandle name stem) =>
      if ((← get).handles.lookup name).isSome then throw "found duplicate %TAG directive"
      skip
      modify fun s => { s with handles := s.handles ++ [(name, stem)] }
      directives versioned fuel
    | _ => return versioned

/-- Whether a token ends a document that has no content. -/
def endsContent : Token → Bool
  | .version _ _ | .tagHandle _ _ | .documentStart | .documentEnd => true
  | _ => false

/-- The node of a document after its directives. -/
def contentNode (fuel : Nat) : Parser Node := do
  if (← peek?).all endsContent then return .empty
  else node .inSequence fuel

/-- The first document, if there is one. A document with directives begins with its mark. -/
def first (fuel : Nat) : Parser (Option Node) := do
  match ← peek? with
  | none => return none
  | some token =>
    let begins := match token with
      | .version _ _ | .tagHandle _ _ | .documentStart => true
      | _ => false
    if begins then
      let _versioned ← directives false fuel
      modify fun s => { s with handles := s.handles ++ standardHandles }
      if !(← accept .documentStart) then throw "did not find expected <document start>"
      return some (← contentNode fuel)
    else
      modify fun s => { s with handles := standardHandles }
      return some (← node .inSequence fuel)

/-- Pass over the marks at the end of a document, after which there may be nothing. -/
def finish : Parser Unit := do
  if (← get).tokens.any (· ≠ .documentEnd) then
    throw "deserializing from YAML containing more than one document is not supported"

end Parser

/-- The document of a text. -/
def Document.ofText (text : String) : Except String Document := do
  let tokens ← Token.ofText text
  let reading : Parser (Option Node) := do
    let root ← Parser.first (4 * tokens.size + 4)
    Parser.finish
    return root
  let (root, state) ← reading.run { tokens := tokens.toList }
  return { root, anchored := state.anchored }

end PagedListing.Yaml

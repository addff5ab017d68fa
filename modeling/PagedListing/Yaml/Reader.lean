import PagedListing.Yaml.Parser
import PagedListing.Number.Integer

/-!
# Values from YAML

What a node says is decided by the value that is wanted: any scalar is a text, a plain scalar may be a
number, and an empty node is a collection without members. A mapping is read by the names of its
fields, of which none may occur twice; other names are passed over.
-/

namespace PagedListing.Yaml

/-- The tag of a type of the language. -/
def coreTag (name : String) : String :=
  "tag:yaml.org,2002:" ++ name

/-- Whether a plain text means nothing. -/
def isNull (text : String) : Bool :=
  ["null", "Null", "NULL", "~"].contains text

/-- A natural number in a base, of one digit at least. -/
def readDigits? (base : Nat) (digits : List Char) : Option Nat :=
  if digits.isEmpty then none
  else digits.foldlM (fun n c => (hexValue? c).bind fun d =>
    if d < base then some (base * n + d) else none) 0

/-- Whether a text of digits begins with a zero that no number begins with. -/
def hasLeadingZero (digits : List Char) : Bool :=
  1 < digits.length && digits.head? = some '0' && digits.all Char.isDigit

/-- A natural number: in hexadecimal, octal or binary digits after their mark, or in decimal digits. -/
def readNatural? (text : String) : Option Nat :=
  let digits := match text.toList with
    | '+' :: rest => rest
    | chars => chars
  match digits with
  | '0' :: 'x' :: rest => readDigits? 16 rest
  | '0' :: 'o' :: rest => readDigits? 8 rest
  | '0' :: 'b' :: rest => readDigits? 2 rest
  | _ => if hasLeadingZero digits then none else readDigits? 10 digits

namespace Document

/-- The text of a scalar. -/
def text (d : Document) (node : Node) : Except String String :=
  match d.resolve node with
  | .scalar text _ _ => .ok text
  | _ => .error "expected a string"

/-- A number of 32 bits. -/
def word (d : Document) (node : Node) : Except String UInt32 :=
  match d.resolve node with
  | .scalar text style tag =>
    let typed := style = .plain ∨ (style = .literal ∧ tag = some (coreTag "int"))
    match readNatural? text with
    | some n =>
      if typed ∧ n < UInt32.size then .ok (UInt32.ofNat n) else .error "expected a number of 32 bits"
    | none => .error "expected a number of 32 bits"
  | _ => .error "expected a number of 32 bits"

/-- Whether a node stands for no value. -/
def isAbsent (d : Document) (node : Node) : Except String Bool :=
  match d.resolve node with
  | .scalar text .plain none => .ok (text.isEmpty || isNull text)
  | .scalar text .plain (some tag) =>
    if tag ≠ coreTag "null" then .ok false
    else if isNull text then .ok true
    else .error "expected null"
  | _ => .ok false

/-- A value that may be absent. -/
def optional {α : Type} (d : Document) (read : Node → Except String α) (node : Node) :
    Except String (Option α) := do
  if ← d.isAbsent node then return none
  else return some (← read node)

/-- The members of a sequence. -/
def items (d : Document) (node : Node) : Except String (List Node) :=
  match d.resolve node with
  | .sequence items => .ok items
  | node => if node.isEmpty then .ok [] else .error "expected a sequence"

/-- The name of a variant: a scalar, or a tag of the document before an empty node. -/
def variant (d : Document) (node : Node) : Except String String :=
  match d.resolve node with
  | .scalar text style tag =>
    match tag.bind (fun t => t.toList.head?.map (·, t)) with
    | some ('!', t) =>
      if style = .plain ∧ (text.isEmpty ∨ isNull text) then .ok (String.ofList (t.toList.drop 1))
      else .error "expected null"
    | _ => .ok text
  | _ => .error "expected a name"

/-- The fields of a mapping by their names. None of the names that are known may occur twice. -/
def fields (d : Document) (known : List String) (node : Node) :
    Except String (List (String × Node)) :=
  match d.resolve node with
  | .mapping entries => do
    let fields ← entries.mapM fun (key, value) => return (← d.text key, value)
    let names := (fields.map (·.1)).filter (known.contains ·)
    if names.eraseDups.length < names.length then throw "duplicate field"
    return fields
  | node => if node.isEmpty then .ok [] else .error "expected a mapping"

end Document

/-- A field that has to be there. -/
def required {α : Type} (fields : List (String × Node)) (name : String)
    (read : Node → Except String α) : Except String α :=
  match fields.lookup name with
  | some node => read node
  | none => .error ("missing field " ++ name)

/-- A field with a value for where it is missing. -/
def withDefault {α : Type} (fields : List (String × Node)) (name : String)
    (read : Node → Except String α) (default : α) : Except String α :=
  match fields.lookup name with
  | some node => read node
  | none => .ok default

end PagedListing.Yaml

import PagedListing.Error

/-!
# Schemas

A schema names an entity and declares its fields with their types. Every field that a request filters
or orders by has to be declared.
-/

namespace PagedListing

/-- A letter of ASCII or an underscore. -/
def isIdentifierStart (c : Char) : Bool :=
  c.isAlpha || c = '_'

/-- A letter or digit of ASCII or an underscore. -/
def isIdentifierRest (c : Char) : Bool :=
  c.isAlphanum || c = '_'

/-- Whether a name can be used for a field or an entity. -/
def isIdentifier (name : String) : Bool :=
  match name.toList with
  | [] => false
  | c :: cs => isIdentifierStart c && cs.all isIdentifierRest

/-- The type of a field. -/
inductive FieldType where
  | integer
  | float
  | text
  | boolean
  | timestamp
  deriving DecidableEq, Inhabited

namespace FieldType

/-- The name of a type. -/
def name : FieldType → String
  | integer => "integer"
  | float => "float"
  | text => "text"
  | boolean => "boolean"
  | timestamp => "timestamp"

/-- All types. -/
def all : List FieldType := [integer, float, text, boolean, timestamp]

/-- The type with a name. -/
def ofName? (name : String) : Option FieldType :=
  all.find? (·.name = name)

/-- Whether fields of the type can be searched for a part of a text. -/
def isTextual (t : FieldType) : Bool :=
  t = text

end FieldType

/-- A declared field. -/
structure Field where
  name : String
  type : FieldType
  deriving DecidableEq, Inhabited

/-- An entity and its fields, in the order in which they are stored. -/
structure Schema where
  name : String
  fields : List Field := []
  deriving DecidableEq, Inhabited

namespace Schema

/-- The schema with a further field. -/
def withField (s : Schema) (name : String) (type : FieldType) : Schema :=
  ⟨s.name, s.fields ++ [⟨name, type⟩]⟩

/-- The first declaration of a field. -/
def field? (s : Schema) (name : String) : Option Field :=
  s.fields.find? (·.name = name)

/-- Whether a field is declared. -/
def declares (s : Schema) (name : String) : Bool :=
  (s.field? name).isSome

/-- The type of a field. -/
def fieldType (s : Schema) (name : String) : Except Error FieldType :=
  match s.field? name with
  | some f => .ok f.type
  | none => .error (.unknownField name)

/-- The names of the fields. -/
def fieldNames (s : Schema) : List String :=
  s.fields.map (·.name)

/-- The first of some names that is not declared is an error. -/
def checkFields (s : Schema) (names : List String) : Except Error Unit :=
  match names.find? (!s.declares ·) with
  | some name => .error (.unknownField name)
  | none => .ok ()

/-- Check the names of fields, and that none is among the names before it. -/
def checkNames (entity : String) : List String → List String → Except Error Unit
  | _, [] => .ok ()
  | seen, name :: rest =>
    if !isIdentifier name then
      .error (.config ("Invalid field name '" ++ name ++ "' in entity '" ++ entity ++ "'"))
    else if name ∈ seen then
      .error (.config ("Duplicate field '" ++ name ++ "' in entity '" ++ entity ++ "'"))
    else checkNames entity (name :: seen) rest

/-- Check that the names are identifiers, that there are fields and that no field occurs twice. -/
def validate (s : Schema) : Except Error Unit :=
  if !isIdentifier s.name then .error (.config ("Invalid entity name '" ++ s.name ++ "'"))
  else if s.fields.isEmpty then .error (.config ("Entity '" ++ s.name ++ "' has no fields"))
  else checkNames s.name [] s.fieldNames

end Schema

end PagedListing

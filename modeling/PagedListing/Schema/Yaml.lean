import PagedListing.Schema
import PagedListing.Yaml.Reader

/-!
# Schemas in YAML

A schema is a mapping with the name of the entity and the sequence of its fields, each a mapping with a
name and a type. The fields may be missing.
-/

namespace PagedListing.Schema

open PagedListing.Yaml

/-- The type that a node names. -/
def readType (d : Document) (node : Node) : Except String FieldType := do
  let name ← d.variant node
  match FieldType.ofName? name with
  | some type => return type
  | none => throw ("unknown type " ++ name)

/-- The field that a node declares. -/
def readField (d : Document) (node : Node) : Except String Field := do
  let fields ← d.fields ["name", "type"] node
  return ⟨← required fields "name" d.text, ← required fields "type" (readType d)⟩

/-- The schema that a document describes. -/
def ofDocument (d : Document) : Except String Schema := do
  let fields ← match d.root with
    | some root => d.fields ["name", "fields"] root
    | none => pure []
  let name ← required fields "name" d.text
  let items ← withDefault fields "fields" d.items []
  return ⟨name, ← items.mapM (readField d)⟩

/-- The schema in a text, if it passes all checks. -/
def ofYaml (text : String) : Except Error Schema := do
  let schema ← ((Document.ofText text).bind ofDocument).mapError Error.yaml
  schema.validate
  return schema

end PagedListing.Schema

import PagedListing.Config
import PagedListing.Yaml.Reader

/-!
# Configuration in YAML

A configuration is a mapping. Every field may be missing and then has its default.
-/

namespace PagedListing.Config

open PagedListing.Yaml

/-- The names of the fields. -/
def fieldNames : List String :=
  ["protocol", "host", "default_take", "max_take", "cursor_order_field"]

/-- The configuration that a document describes. -/
def ofDocument (d : Document) : Except String Config := do
  let base : Config := {}
  let fields ← match d.root with
    | some root => d.fields fieldNames root
    | none => pure []
  return {
    protocol := ← withDefault fields "protocol" d.text base.protocol
    host := ← withDefault fields "host" d.text base.host
    defaultTake := ← withDefault fields "default_take" d.word base.defaultTake
    maxTake := ← withDefault fields "max_take" (d.optional d.word) base.maxTake
    cursorOrderField := ← withDefault fields "cursor_order_field" d.text base.cursorOrderField }

/-- The configuration in a text, if it passes all checks. -/
def ofYaml (text : String) : Except Error Config := do
  let config ← ((Document.ofText text).bind ofDocument).mapError Error.yaml
  config.checked

end PagedListing.Config

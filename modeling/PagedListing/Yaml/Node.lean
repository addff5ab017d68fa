import PagedListing.Yaml.Scalar

/-!
# Nodes of YAML

A document is a tree of scalars, sequences and mappings. A node may refer to another by its anchor, also
to one that it is a part of, so that the nodes with anchors are kept beside the tree.
-/

namespace PagedListing.Yaml

/-- A node. Of the tags only those of scalars have a meaning here. -/
inductive Node where
  | scalar (text : String) (style : ScalarStyle) (tag : Option String)
  | sequence (items : List Node)
  | mapping (entries : List (Node × Node))
  | reference (anchor : Nat)
  deriving Inhabited

namespace Node

/-- What stands where nothing is written. -/
def empty : Node :=
  scalar "" .plain none

/-- Whether nothing is written. -/
def isEmpty : Node → Bool
  | scalar "" .plain _ => true
  | _ => false

end Node

/-- A document. -/
structure Document where
  /-- The tree, if the text is not empty. -/
  root : Option Node
  /-- The nodes with anchors, the last one first. -/
  anchored : List (Nat × Node)

/-- The node that a node stands for. -/
def Document.resolve (d : Document) : Node → Node
  | .reference anchor => (d.anchored.lookup anchor).getD .empty
  | node => node

end PagedListing.Yaml

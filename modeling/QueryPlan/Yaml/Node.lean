/-! # Nodes of a YAML document
A document is a tree of mappings, lists and scalars, with numbers for the anchors in it and for what they
are referred to by. A list or a mapping may have broken off, where its text is malformed. -/

namespace QueryPlan.Yaml

/-- A **node** of a document. -/
inductive Node
  /-- A node that stands at the anchor with a number. -/
  | reference (number : Nat)
  /-- A node with an anchor of its own. -/
  | anchored (number : Nat) (node : Node)
  /-- A scalar, plain or not. -/
  | scalar (text : String) (isPlain : Bool)
  /-- A list of nodes, whole or broken off. -/
  | sequence (items : List Node) (isWhole : Bool)
  /-- A mapping, whole or broken off: its keys and values in turn. -/
  | mapping (parts : List Node) (isWhole : Bool)
  deriving Inhabited

namespace Node

mutual

/-- The nodes with anchors, by number, in the order in which they start. -/
def anchors : Node → List (Nat × Node)
  | .reference _ => []
  | .anchored number node => (number, node) :: node.anchors
  | .scalar _ _ => []
  | .sequence items _ => anchorsOfAll items
  | .mapping parts _ => anchorsOfAll parts

/-- The nodes with anchors in some nodes. -/
def anchorsOfAll : List Node → List (Nat × Node)
  | [] => []
  | node :: nodes => node.anchors ++ anchorsOfAll nodes

end

end Node

end QueryPlan.Yaml

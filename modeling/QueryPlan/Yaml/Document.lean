import QueryPlan.Yaml.Event.Stream
import QueryPlan.Yaml.Node

/-! # YAML documents
A document is built from its events; where it breaks off because it is malformed, what was read up to
there is kept. References are not resolved while the document is built: an anchor gets the number of the
names in use in front of it, a name that is used again counts once, and a reference stands for the last
node of the document whose anchor has its number. -/

namespace QueryPlan.Yaml

/-! ## Open nodes -/

/-- An **open node**: a list or a mapping whose end was not read yet. -/
structure OpenNode where
  /-- Whether it is a mapping. -/
  isMapping : Bool
  /-- The number of its anchor. -/
  number? : Option Nat
  /-- Its parts up to now, the last one first. -/
  parts : List Node

/-- A node at the anchor with a number, or without an anchor. -/
def Node.atAnchor (number? : Option Nat) (node : Node) : Node :=
  match number? with
  | some number => .anchored number node
  | none => node

namespace OpenNode

/-- Adds a part. -/
def push (part : Node) (node : OpenNode) : OpenNode := { node with parts := part :: node.parts }

/-- The node as it is when nothing is added. -/
def close (isWhole : Bool) (node : OpenNode) : Node :=
  Node.atAnchor node.number?
    (if node.isMapping then .mapping node.parts.reverse isWhole
    else .sequence node.parts.reverse isWhole)

end OpenNode

/-! ## Partial documents -/

/-- A **partial document**: a document as far as it was read. -/
structure PartialDocument where
  /-- The root, once its end was read. -/
  root? : Option Node
  /-- The nodes that are open, from the inside out. -/
  openNodes : List OpenNode
  /-- The names of anchors, each once, with the number of its last anchor. -/
  names : List (String × Nat)
  /-- The number of events. -/
  size : Nat

namespace PartialDocument

/-- The document of which nothing was read. -/
def start : PartialDocument := ⟨none, [], [], 0⟩

/-- Adds a node to the innermost open node, or as the root. -/
def push (node : Node) (document : PartialDocument) : PartialDocument :=
  match document.openNodes with
  | [] => { document with root? := some node }
  | inner :: outer => { document with openNodes := inner.push node :: outer }

/-- Gives a number to an anchor. -/
def number (anchor? : Option String) (document : PartialDocument) :
    Option Nat × PartialDocument :=
  match anchor? with
  | some name =>
    let number := document.names.length
    let others := document.names.filter (·.1 != name)
    (some number, { document with names := (name, number) :: others })
  | none => (none, document)

/-- Opens a list or a mapping. -/
def openNode (isMapping : Bool) (anchor? : Option String) (document : PartialDocument) :
    PartialDocument :=
  let (number?, document) := document.number anchor?
  { document with openNodes := ⟨isMapping, number?, []⟩ :: document.openNodes }

/-- Closes the innermost open node. -/
def closeNode (document : PartialDocument) : PartialDocument :=
  match document.openNodes with
  | [] => document
  | inner :: outer => { document with openNodes := outer }.push (inner.close true)

/-- Adds what an event stands for; nothing if it refers to an unknown anchor. -/
def addNode? (event : Event) (document : PartialDocument) : Option PartialDocument :=
  match event with
  | .reference name => do
    return document.push (.reference (← List.lookup name document.names))
  | .scalar anchor? text isPlain =>
    let (number?, document) := document.number anchor?
    some (document.push (Node.atAnchor number? (.scalar text isPlain)))
  | .sequenceStart anchor? => some (document.openNode false anchor?)
  | .mappingStart anchor? => some (document.openNode true anchor?)
  | .sequenceEnd | .mappingEnd => some document.closeNode
  | .documentEnd => some document

/-- Adds the next event. -/
def add? (event : Event) (document : PartialDocument) : Option PartialDocument :=
  (document.addNode? event).map fun document => { document with size := document.size + 1 }

/-- The document behind some events, up to the first that cannot be added, and whether its end is among
them. -/
def addAll (document : PartialDocument) : List Event → PartialDocument × Bool
  | [] => (document, false)
  | .documentEnd :: _ => (document, true)
  | event :: events =>
    match document.add? event with
    | some document => addAll document events
    | none => (document, false)

/-- The node that comes out when a node is added to the innermost of some open nodes and all of them
break off. -/
def breakOff (node : Node) : List OpenNode → Node
  | [] => node
  | inner :: outer => breakOff ((inner.push node).close false) outer

/-- The root as it is when nothing is added. -/
def node? (document : PartialDocument) : Option Node :=
  match document.openNodes with
  | [] => document.root?
  | inner :: outer => some (breakOff (inner.close false) outer)

end PartialDocument

/-! ## Documents -/

/-- A **document** as it was read. -/
structure Document where
  /-- The root, unless the text breaks off in front of it. -/
  root? : Option Node
  /-- The nodes with anchors, by number, the last one first. -/
  anchors : List (Nat × Node)
  /-- The number of events. -/
  size : Nat
  /-- Whether the end of the document was read. -/
  isWhole : Bool

namespace Document

/-- Reads a document as far as it goes. -/
def ofString (text : String) : Document :=
  let (read, isWhole) := PartialDocument.start.addAll (events (ReadableText.ofString text))
  let root? := read.node?
  { root?
    anchors := (root?.elim [] Node.anchors).reverse
    size := read.size
    isWhole }

/-- The largest number of references that a reader of the document may follow: a hundred for each of its
events. -/
def maxReferences (document : Document) : Nat := 100 * document.size

/-- The node that a node stands for, if it is a reference, and the node without its anchor otherwise. -/
def node? (document : Document) : Node → Option Node
  | .reference number => List.lookup number document.anchors
  | .anchored _ node => some node
  | node => some node

end Document

end QueryPlan.Yaml

/-! # Events of a YAML text
A document as a list of events: the scalars in it, and the start and the end of each list and mapping.
The keys and the values of a mapping alternate. Between a start and its end the events of the parts stand
in the order in which they are written, so a document that breaks off has its first events all the
same. -/

namespace QueryPlan.Yaml

/-- An **event**. -/
inductive Event
  /-- A node that stands elsewhere, under the name of an anchor. -/
  | reference (name : String)
  /-- A scalar. -/
  | scalar (anchor? : Option String) (text : String) (isPlain : Bool)
  /-- The start of a list. -/
  | sequenceStart (anchor? : Option String)
  /-- The end of a list. -/
  | sequenceEnd
  /-- The start of a mapping. -/
  | mappingStart (anchor? : Option String)
  /-- The end of a mapping. -/
  | mappingEnd
  /-- The end of the document, behind which nothing follows. -/
  | documentEnd
  deriving DecidableEq

/-- The scalar that stands for a node of which nothing is written. -/
def Event.empty : Event := .scalar none "" true

end QueryPlan.Yaml

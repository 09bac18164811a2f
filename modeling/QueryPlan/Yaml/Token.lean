/-! # Tokens of a YAML text
The smallest parts of a YAML text that have a meaning of their own. Besides the marks that are written in
the text there are tokens for the start and the end of a block and for a key, which the text shows only
by its indentation and by the colon that follows. -/

namespace QueryPlan.Yaml

/-- A **token**. -/
inductive Token
  /-- The end of the text. -/
  | streamEnd
  /-- The version of the format. -/
  | version (major minor : Nat)
  /-- The declaration of a tag handle. -/
  | tagHandle (handle : String)
  /-- The mark in front of a document. -/
  | documentStart
  /-- The mark behind a document. -/
  | documentEnd
  /-- The start of a list in a block. -/
  | blockSequence
  /-- The start of a mapping in a block. -/
  | blockMapping
  /-- The end of a list or a mapping in a block. -/
  | blockEnd
  /-- The bracket in front of a list. -/
  | flowSequence
  /-- The bracket behind a list. -/
  | flowSequenceEnd
  /-- The brace in front of a mapping. -/
  | flowMapping
  /-- The brace behind a mapping. -/
  | flowMappingEnd
  /-- The dash in front of an item. -/
  | item
  /-- The comma between items or entries. -/
  | comma
  /-- The place in front of a key. -/
  | key
  /-- The colon in front of a value. -/
  | value
  /-- The name of an anchor that stands elsewhere. -/
  | reference (name : String)
  /-- The name of the anchor of a node. -/
  | anchor (name : String)
  /-- The tag of a node; its handle is empty when it needs none. -/
  | tag (handle : String)
  /-- A scalar. -/
  | scalar (text : String) (isPlain : Bool)
  deriving DecidableEq

end QueryPlan.Yaml

import QueryPlan.Yaml.Event
import QueryPlan.Yaml.Token.Stream

/-! # Event streams
The events of a document, read one by one from its tokens. Each step looks at one token, or at two, and
at the place that the document has come to: what may stand there next. The places to go on from behind
the open lists and mappings are kept from the inside out. -/

namespace QueryPlan.Yaml

/-- A **place** in a document. -/
inductive Place
  /-- In front of the root, without a mark in front of it. -/
  | root
  /-- In front of the root, behind a mark; the root may be missing. -/
  | content
  /-- Behind the root. -/
  | documentEnd
  /-- In front of an item of a list in a block. -/
  | blockItem
  /-- In front of an item of a list in a block that is indented as far as its key. -/
  | levelItem
  /-- In front of a key in a block. -/
  | blockKey
  /-- In front of a value in a block. -/
  | blockValue
  /-- In front of an item between brackets, the first one or another. -/
  | flowItem (isFirst : Bool)
  /-- In front of the key of an item that is an entry. -/
  | pairKey
  /-- In front of the value of an item that is an entry. -/
  | pairValue
  /-- Behind an item that is an entry. -/
  | pairEnd
  /-- In front of a key between braces, the first one or another. -/
  | flowKey (isFirst : Bool)
  /-- In front of a value between braces. -/
  | flowValue
  /-- In front of the value of a key without a colon. -/
  | missingValue

/-- An **event stream**: the tokens of a document and the place that it has come to. -/
structure EventStream where
  /-- The tokens that were not taken yet. -/
  tokens : TokenStream
  /-- The place. -/
  place : Place
  /-- The places to go on from, from the inside out. -/
  outer : List Place
  /-- The handles that tags may have. -/
  handles : List String

namespace EventStream

/-- The next token, and the stream in which it is known. -/
def peek? (stream : EventStream) : Option (Token × EventStream) := do
  let (token, tokens) ← stream.tokens.peek?
  return (token, { stream with tokens })

/-- The stream behind the next token. -/
def drop (stream : EventStream) : EventStream := { stream with tokens := stream.tokens.drop }

/-- The stream at another place. -/
def moveTo (place : Place) (stream : EventStream) : EventStream := { stream with place }

/-- The stream with a place to go on from. -/
def enter (next : Place) (stream : EventStream) : EventStream :=
  { stream with outer := next :: stream.outer }

/-- The stream at the place to go on from. -/
def leave (stream : EventStream) : EventStream :=
  { stream with place := stream.outer.headD .documentEnd, outer := stream.outer.tail }

/-! ## Nodes -/

/-- Takes an anchor, if there is one. -/
def takeAnchor? (stream : EventStream) : Option (Option String × EventStream) := do
  match ← stream.peek? with
  | (.anchor name, stream) => return (some name, stream.drop)
  | (_, stream) => return (none, stream)

/-- Takes a tag, if there is one, and gives its handle. -/
def takeTag? (stream : EventStream) : Option (Option String × EventStream) := do
  match ← stream.peek? with
  | (.tag handle, stream) => return (some handle, stream.drop)
  | (_, stream) => return (none, stream)

/-- Reads a node, or its start, behind its anchor and its tag. With either of them a node may be
empty. -/
def readContent? (block level hasProperty : Bool) (anchor? : Option String) (stream : EventStream) :
    Option (Event × EventStream) := do
  let bare := if hasProperty then some (.scalar anchor? "" true, stream.leave) else none
  match ← stream.peek? with
  | (.scalar text isPlain, stream) => return (.scalar anchor? text isPlain, stream.drop.leave)
  | (.flowSequence, stream) => return (.sequenceStart anchor?, stream.drop.moveTo (.flowItem true))
  | (.flowMapping, stream) => return (.mappingStart anchor?, stream.drop.moveTo (.flowKey true))
  | (.blockSequence, stream) =>
    if block then return (.sequenceStart anchor?, stream.drop.moveTo .blockItem) else bare
  | (.blockMapping, stream) =>
    if block then return (.mappingStart anchor?, stream.drop.moveTo .blockKey) else bare
  | (.item, stream) =>
    if level then return (.sequenceStart anchor?, stream.moveTo .levelItem) else bare
  | _ => bare

/-- Reads a node, or its start: of a block only where one may stand, and a list that is indented as far
as its key only if `level` says so. -/
def readNode? (block level : Bool) (stream : EventStream) : Option (Event × EventStream) := do
  match ← stream.peek? with
  | (.reference name, stream) => return (.reference name, stream.drop.leave)
  | (_, stream) =>
    -- an anchor and a tag may stand in either order
    let (first?, stream) ← stream.takeAnchor?
    let (handle?, stream) ← stream.takeTag?
    let (second?, stream) ← if first?.isSome then pure (none, stream) else stream.takeAnchor?
    let anchor? := first? <|> second?
    if handle?.all fun handle => handle.isEmpty || stream.handles.contains handle then
      stream.readContent? block level (anchor?.isSome || handle?.isSome) anchor?
    else none

/-- Reads a node and goes on from another place, at once if one of the tokens comes that stand behind a
node of which nothing is written. -/
def readNodeUnless? (ends : List Token) (next : Place) (block level : Bool) (stream : EventStream) :
    Option (Event × EventStream) := do
  let (token, stream) ← stream.peek?
  if ends.contains token then return (.empty, stream.moveTo next)
  else (stream.enter next).readNode? block level

/-- Takes the comma in front of a part that is not the first. -/
def takeComma? (isFirst : Bool) (stream : EventStream) : Option EventStream := do
  if isFirst then return stream
  else
    match ← stream.peek? with
    | (.comma, stream) => return stream.drop
    | _ => none

/-! ## Places -/

/-- Reads what stands at an item of a list in a block. -/
def readBlockItem? (stream : EventStream) : Option (Event × EventStream) := do
  match ← stream.peek? with
  | (.item, stream) => stream.drop.readNodeUnless? [.item, .blockEnd] .blockItem true false
  | (.blockEnd, stream) => return (.sequenceEnd, stream.drop.leave)
  | _ => none

/-- Reads what stands at an item of a list that is indented as far as its key. -/
def readLevelItem? (stream : EventStream) : Option (Event × EventStream) := do
  match ← stream.peek? with
  | (.item, stream) =>
    stream.drop.readNodeUnless? [.item, .key, .value, .blockEnd] .levelItem true false
  | (_, stream) => return (.sequenceEnd, stream.leave)

/-- Reads what stands at a key in a block. -/
def readBlockKey? (stream : EventStream) : Option (Event × EventStream) := do
  match ← stream.peek? with
  | (.key, stream) => stream.drop.readNodeUnless? [.key, .value, .blockEnd] .blockValue true true
  | (.blockEnd, stream) => return (.mappingEnd, stream.drop.leave)
  | _ => none

/-- Reads what stands at a value in a block. -/
def readBlockValue? (stream : EventStream) : Option (Event × EventStream) := do
  match ← stream.peek? with
  | (.value, stream) => stream.drop.readNodeUnless? [.key, .value, .blockEnd] .blockKey true true
  | (_, stream) => return (.empty, stream.moveTo .blockKey)

/-- Reads what stands at an item between brackets. A key makes the item a mapping with one entry. -/
def readFlowItem? (isFirst : Bool) (stream : EventStream) : Option (Event × EventStream) := do
  match ← stream.peek? with
  | (.flowSequenceEnd, stream) => return (.sequenceEnd, stream.drop.leave)
  | (_, stream) =>
    match ← (← stream.takeComma? isFirst).peek? with
    | (.key, stream) => return (.mappingStart none, stream.drop.moveTo .pairKey)
    | (.flowSequenceEnd, stream) => return (.sequenceEnd, stream.drop.leave)
    | (_, stream) => (stream.enter (.flowItem false)).readNode? false false

/-- Reads what stands at the key of an item that is an entry. Where the key is missing, the token that
shows it counts as the key. -/
def readPairKey? (stream : EventStream) : Option (Event × EventStream) := do
  let (token, stream) ← stream.peek?
  if [Token.value, .comma, .flowSequenceEnd].contains token then
    return (.empty, stream.drop.moveTo .pairValue)
  else (stream.enter .pairValue).readNode? false false

/-- Reads what stands at the value of an item that is an entry. -/
def readPairValue? (stream : EventStream) : Option (Event × EventStream) := do
  match ← stream.peek? with
  | (.value, stream) => stream.drop.readNodeUnless? [.comma, .flowSequenceEnd] .pairEnd false false
  | (_, stream) => return (.empty, stream.moveTo .pairEnd)

/-- Reads what stands at a key between braces. A key without a mark has no value. -/
def readFlowKey? (isFirst : Bool) (stream : EventStream) : Option (Event × EventStream) := do
  match ← stream.peek? with
  | (.flowMappingEnd, stream) => return (.mappingEnd, stream.drop.leave)
  | (_, stream) =>
    match ← (← stream.takeComma? isFirst).peek? with
    | (.key, stream) =>
      stream.drop.readNodeUnless? [.value, .comma, .flowMappingEnd] .flowValue false false
    | (.flowMappingEnd, stream) => return (.mappingEnd, stream.drop.leave)
    | (_, stream) => (stream.enter .missingValue).readNode? false false

/-- Reads what stands at a value between braces. -/
def readFlowValue? (stream : EventStream) : Option (Event × EventStream) := do
  match ← stream.peek? with
  | (.value, stream) =>
    stream.drop.readNodeUnless? [.comma, .flowMappingEnd] (.flowKey false) false false
  | (_, stream) => return (.empty, stream.moveTo (.flowKey false))

/-- Goes on to another place with an event, as long as there is a next token. -/
def continueWith? (event : Event) (next : Place) (stream : EventStream) :
    Option (Event × EventStream) := do
  let (_, stream) ← stream.peek?
  return (event, stream.moveTo next)

/-- Reads the root behind a mark, or an empty one if the document ends at once. -/
def readRoot? (stream : EventStream) : Option (Event × EventStream) := do
  match ← stream.peek? with
  | (.version _ _, stream) | (.tagHandle _, stream) | (.documentStart, stream)
  | (.documentEnd, stream) | (.streamEnd, stream) => return (.empty, stream.leave)
  | (_, stream) => stream.readNode? true false

/-- Reads the end of the document. Marks may follow it, but nothing else; at most `fuel` of them. -/
def readDocumentEnd? : (fuel : Nat) → EventStream → Option (Event × EventStream)
  | 0, _ => none
  | fuel + 1, stream => do
    match ← stream.peek? with
    | (.documentEnd, stream) => readDocumentEnd? fuel stream.drop
    | (.streamEnd, stream) => return (.documentEnd, stream)
    | _ => none

/-- The next event, and the stream behind it. -/
def next? (stream : EventStream) : Option (Event × EventStream) :=
  match stream.place with
  | .root => stream.readNode? true false
  | .content => stream.readRoot?
  | .documentEnd => stream.readDocumentEnd? (stream.tokens.cursor.rest.length + 2)
  | .blockItem => stream.readBlockItem?
  | .levelItem => stream.readLevelItem?
  | .blockKey => stream.readBlockKey?
  | .blockValue => stream.readBlockValue?
  | .flowItem isFirst => stream.readFlowItem? isFirst
  | .pairKey => stream.readPairKey?
  | .pairValue => stream.readPairValue?
  | .pairEnd => stream.continueWith? .mappingEnd (.flowItem false)
  | .flowKey isFirst => stream.readFlowKey? isFirst
  | .flowValue => stream.readFlowValue?
  | .missingValue => stream.continueWith? .empty (.flowKey false)

/-! ## The start of a document -/

/-- The handles that need no declaration. -/
def commonHandles : List String := ["!", "!!"]

/-- Reads the directives in front of a document and the mark behind them, at most `fuel` directives.
There is at most one version, which is 1.1 or 1.2, and no handle is declared twice. -/
def readDirectives? : (fuel : Nat) → (hasVersion : Bool) → (handles : List String) → TokenStream →
    Option (List String × TokenStream)
  | 0, _, _, _ => none
  | fuel + 1, hasVersion, handles, tokens => do
    match ← tokens.peek? with
    | (.version major minor, tokens) =>
      if !hasVersion && major == 1 && (minor == 1 || minor == 2) then
        readDirectives? fuel true handles tokens.drop
      else none
    | (.tagHandle handle, tokens) =>
      if handles.contains handle then none
      else readDirectives? fuel hasVersion (handle :: handles) tokens.drop
    | (.documentStart, tokens) => return (handles, tokens.drop)
    | _ => none

/-- The stream of the events of a text with one document. -/
def ofText? (text : ReadableText) : Option EventStream := do
  let (token, tokens) ← (TokenStream.ofText text).peek?
  match token with
  | .streamEnd => return ⟨tokens, .content, [], commonHandles⟩
  | .version _ _ | .tagHandle _ | .documentStart =>
    let (handles, tokens) ← readDirectives? (text.chars.length + 1) false [] tokens
    return ⟨tokens, .content, [], handles ++ commonHandles⟩
  | _ => return ⟨tokens, .root, [], commonHandles⟩

/-- The events of a stream up to the end of the document or to the first fault, at most `fuel` of
them. -/
def toList : (fuel : Nat) → EventStream → List Event
  | 0, _ => []
  | fuel + 1, stream =>
    match stream.next? with
    | some (.documentEnd, _) => [.documentEnd]
    | some (event, stream) => event :: toList fuel stream
    | none => []

end EventStream

/-- The events of a text with one document, up to the first fault. No character of a text stands for
more than 16 events. -/
def events (text : ReadableText) : List Event :=
  ((EventStream.ofText? text).map (EventStream.toList (16 * (text.chars.length + 2)))).getD []

end QueryPlan.Yaml

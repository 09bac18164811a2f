import QueryPlan.Yaml.Property
import QueryPlan.Yaml.Scalar.Block
import QueryPlan.Yaml.Scalar.Plain
import QueryPlan.Yaml.Scalar.Quoted

/-! # Token streams
The tokens of a YAML text are read one by one, as far ahead as needed. A key is known for one only by the
colon behind it, so the tokens from the place of a possible key on wait in a queue until the colon is
found or can no longer come: a key ends on the line on which it starts, and within 1024 bytes. -/

namespace QueryPlan.Yaml

/-- A **possible key**: a place where a key may have started. -/
structure PossibleKey where
  /-- Whether nothing else than a key may stand there. -/
  isRequired : Bool
  /-- The number of the first token of the key. -/
  number : Nat
  /-- The place. -/
  place : Cursor

/-- The largest number of bytes between the start of a key and its colon. -/
def maxKeyLength : Nat := 1024

/-- A **token stream**: the tokens that were read but not taken yet, and the place behind them. The
columns that stand in front of every line of a block are its margin; outside of all blocks it is zero,
and inside one larger by one than the column in which the block starts. -/
structure TokenStream where
  /-- The place behind the tokens that were read. -/
  cursor : Cursor
  /-- The margin of the innermost block. -/
  margin : Nat
  /-- The margins of the blocks around it, from the inside out. -/
  outerMargins : List Nat
  /-- The possible keys that may still get a colon: at the level of the innermost brackets. -/
  possibleKey? : Option PossibleKey
  /-- The same for the levels around it, from the inside out; as many as there are open brackets. -/
  outerKeys : List (Option PossibleKey)
  /-- Whether a key may start at the next token. -/
  allowsKey : Bool
  /-- The tokens that wait. -/
  queue : List Token
  /-- The number of tokens that were taken. -/
  taken : Nat

namespace TokenStream

/-- The stream of the tokens of a text. -/
def ofText (text : ReadableText) : TokenStream where
  cursor := .start text
  margin := 0
  outerMargins := []
  possibleKey? := none
  outerKeys := []
  allowsKey := true
  queue := []
  taken := 0

/-- Whether the stream is between brackets. -/
def isFlow (stream : TokenStream) : Bool := !stream.outerKeys.isEmpty

/-- Adds a token to the end of the queue. -/
def push (token : Token) (stream : TokenStream) : TokenStream :=
  { stream with queue := stream.queue ++ [token] }

/-- Puts a token in front of the token with a number. -/
def insert (number : Nat) (token : Token) (stream : TokenStream) : TokenStream :=
  { stream with queue := stream.queue.insertIdx (number - stream.taken) token }

/-- Moves to another place, behind a token. -/
def pushUpTo (cursor : Cursor) (token : Token) (stream : TokenStream) : TokenStream :=
  { stream.push token with cursor }

/-- Adds a token that is written with some characters. -/
def pushMark (length : Nat) (token : Token) (stream : TokenStream) : TokenStream :=
  stream.pushUpTo (stream.cursor.advance length) token

/-! ## Blocks -/

/-- Opens a block that starts in a column, unless the innermost block starts there or further in; its
token goes in front of the token with a number. Between brackets there are no blocks. -/
def openBlock (column number : Nat) (token : Token) (stream : TokenStream) : TokenStream :=
  if !stream.isFlow && decide (stream.margin ≤ column) then
    { stream.insert number token with
      margin := column + 1
      outerMargins := stream.margin :: stream.outerMargins }
  else stream

/-- The number of the token that comes next into the queue. -/
def nextNumber (stream : TokenStream) : Nat := stream.taken + stream.queue.length

/-- The innermost of some nested margins that is not above a limit, with the ones around it, and the
number of those left. -/
def leaveMargins (limit : Nat) : (margin : Nat) → (outer : List Nat) → Nat × List Nat × Nat
  | margin, [] => (margin, [], 0)
  | margin, next :: outer =>
    if limit < margin then
      let (margin, outer, left) := leaveMargins limit next outer
      (margin, outer, left + 1)
    else (margin, next :: outer, 0)

/-- Closes the blocks whose margin is above a limit. -/
def closeBlocks (limit : Nat) (stream : TokenStream) : TokenStream :=
  if stream.isFlow then stream
  else
    let (margin, outerMargins, left) := leaveMargins limit stream.margin stream.outerMargins
    { stream with
      margin, outerMargins, queue := stream.queue ++ List.replicate left .blockEnd }

/-! ## Possible keys -/

/-- The stream with a possible key given up, which is a fault if nothing else may stand there. -/
def dropKey? (stream : TokenStream) : Option TokenStream :=
  if stream.possibleKey?.elim false PossibleKey.isRequired then none
  else some { stream with possibleKey? := none }

/-- Notes that a key may start here, if one is allowed. At the column of a block nothing else is. -/
def noteKey? (stream : TokenStream) : Option TokenStream :=
  if stream.allowsKey then do
    let stream ← stream.dropKey?
    return { stream with
      possibleKey? := some {
        isRequired := !stream.isFlow && stream.margin == stream.cursor.column + 1
        number := stream.nextNumber
        place := stream.cursor } }
  else some stream

/-- Whether the colon of a possible key can no longer come at a cursor. -/
def isStale (cursor : Cursor) (key : PossibleKey) : Bool :=
  decide (key.place.line < cursor.line) || decide (key.place.offset + maxKeyLength < cursor.offset)

/-- A possible key as it stands at a cursor: given up if its colon can no longer come, which is a fault
if nothing else may stand there. -/
def refreshKey? (cursor : Cursor) (key? : Option PossibleKey) : Option (Option PossibleKey) :=
  match key? with
  | some key =>
    if isStale cursor key then if key.isRequired then none else some none else some key?
  | none => some none

/-- Gives up the possible keys whose colon can no longer come. -/
def refreshKeys? (stream : TokenStream) : Option TokenStream := do
  let outerKeys ← stream.outerKeys.mapM (refreshKey? stream.cursor)
  let possibleKey? ← refreshKey? stream.cursor stream.possibleKey?
  return { stream with possibleKey?, outerKeys }

/-! ## Blanks and comments -/

/-- Skips blanks, comments and line breaks, at most `fuel` characters, and tells whether a key may start
behind them. A key may start on a new line of a block, in front of which a byte order mark may stand.
Tabs do not count as blanks where a key may start in a block, since they cannot indent it. -/
def skipFrom (flow : Bool) : (fuel : Nat) → (inComment allowsKey : Bool) → Cursor → Cursor × Bool
  | 0, _, allowsKey, cursor => (cursor, allowsKey)
  | fuel + 1, inComment, allowsKey, cursor =>
    match cursor.rest with
    | [] => (cursor, allowsKey)
    | c :: _ =>
      if isBreak c then skipFrom flow fuel false (allowsKey || !flow) cursor.step
      else if inComment || c = ' ' || (c = '\t' && (flow || !allowsKey)) ||
          (c = byteOrderMark && cursor.column = 0) then
        skipFrom flow fuel inComment allowsKey cursor.step
      else if c = '#' then skipFrom flow fuel true allowsKey cursor.step
      else (cursor, allowsKey)

/-- Skips blanks, comments and line breaks. -/
def skipGap (stream : TokenStream) : TokenStream :=
  let fuel := stream.cursor.rest.length
  let (cursor, allowsKey) := skipFrom stream.isFlow fuel false stream.allowsKey stream.cursor
  { stream with cursor, allowsKey }

/-! ## Reading one token -/

/-- Reads the end of the text, which ends its last line and all blocks. -/
def readEnd? (stream : TokenStream) : Option TokenStream := do
  let stream := { stream with cursor := stream.cursor.forceLine }
  let stream ← (stream.closeBlocks 0).dropKey?
  return { stream.push .streamEnd with allowsKey := false }

/-- Reads a mark between documents, which ends all blocks. -/
def readMarker? (token : Token) (stream : TokenStream) : Option TokenStream := do
  let stream ← (stream.closeBlocks 0).dropKey?
  return { stream.pushMark 3 token with allowsKey := false }

/-- Reads a directive. -/
def readDirective? (stream : TokenStream) : Option TokenStream := do
  let stream ← (stream.closeBlocks 0).dropKey?
  let (token, next) ← Yaml.readDirective? stream.cursor
  return { stream.pushUpTo next token with allowsKey := false }

/-- Reads an opening bracket or brace. What it opens may be a key, and so may be what follows. -/
def readOpening? (token : Token) (stream : TokenStream) : Option TokenStream := do
  let stream ← stream.noteKey?
  return { stream.pushMark 1 token with
    possibleKey? := none
    outerKeys := stream.possibleKey? :: stream.outerKeys
    allowsKey := true }

/-- Reads a closing bracket or brace. -/
def readClosing? (token : Token) (stream : TokenStream) : Option TokenStream := do
  let stream ← stream.dropKey?
  return { stream.pushMark 1 token with
    possibleKey? := if stream.isFlow then stream.outerKeys.headD none else none
    outerKeys := stream.outerKeys.tail
    allowsKey := false }

/-- Reads a comma between brackets. -/
def readComma? (stream : TokenStream) : Option TokenStream := do
  let stream ← stream.dropKey?
  return { stream.pushMark 1 .comma with allowsKey := true }

/-- Reads the dash in front of an item. -/
def readItem? (stream : TokenStream) : Option TokenStream :=
  if !stream.isFlow && !stream.allowsKey then none
  else do
    let stream ←
      (stream.openBlock stream.cursor.column stream.nextNumber .blockSequence).dropKey?
    return { stream.pushMark 1 .item with allowsKey := true }

/-- Reads the question mark in front of a key. -/
def readKey? (stream : TokenStream) : Option TokenStream :=
  if !stream.isFlow && !stream.allowsKey then none
  else do
    let stream ← (stream.openBlock stream.cursor.column stream.nextNumber .blockMapping).dropKey?
    return { stream.pushMark 1 .key with allowsKey := !stream.isFlow }

/-- Reads the colon in front of a value. It turns the possible key in front of it into a key. -/
def readValue? (stream : TokenStream) : Option TokenStream :=
  match stream.possibleKey? with
  | some key =>
    let stream :=
      (stream.insert key.number .key).openBlock key.place.column key.number .blockMapping
    some { stream.pushMark 1 .value with possibleKey? := none, allowsKey := false }
  | none =>
    if !stream.isFlow && !stream.allowsKey then none
    else
      let stream := stream.openBlock stream.cursor.column stream.nextNumber .blockMapping
      some { stream.pushMark 1 .value with allowsKey := !stream.isFlow }

/-- Reads a reference to an anchor. -/
def readReference? (stream : TokenStream) : Option TokenStream := do
  let stream ← stream.noteKey?
  let (name, next) ← readAnchor? stream.cursor
  return { stream.pushUpTo next (.reference name) with allowsKey := false }

/-- Reads the anchor of a node. -/
def readAnchorOf? (stream : TokenStream) : Option TokenStream := do
  let stream ← stream.noteKey?
  let (name, next) ← readAnchor? stream.cursor
  return { stream.pushUpTo next (.anchor name) with allowsKey := false }

/-- Reads the tag of a node. -/
def readTagOf? (stream : TokenStream) : Option TokenStream := do
  let stream ← stream.noteKey?
  let (handle, next) ← readTag? stream.isFlow stream.cursor
  return { stream.pushUpTo next (.tag handle) with allowsKey := false }

/-- Reads a block scalar, behind which a key may start. -/
def readBlockScalar? (isFolded : Bool) (stream : TokenStream) : Option TokenStream := do
  let stream ← stream.dropKey?
  let scalar ← readBlock? isFolded stream.margin stream.cursor
  let token : Token := .scalar (String.ofList scalar.text) false
  return { stream.pushUpTo scalar.after token with allowsKey := true }

/-- Reads a quoted scalar. -/
def readQuotedScalar? (quote : Char) (stream : TokenStream) : Option TokenStream := do
  let stream ← stream.noteKey?
  let scalar ← readQuoted? quote stream.cursor
  let token : Token := .scalar (String.ofList scalar.text) false
  return { stream.pushUpTo scalar.after token with allowsKey := false }

/-- Reads a plain scalar. A key may start behind it when it ends its line. -/
def readPlainScalar? (stream : TokenStream) : Option TokenStream := do
  let stream ← stream.noteKey?
  let scalar ← readPlain? stream.isFlow stream.margin stream.cursor
  let token : Token := .scalar (String.ofList scalar.text) true
  return { stream.pushUpTo scalar.after token with allowsKey := scalar.endsLine }

/-- Reads the token at the cursor. -/
def readToken? (stream : TokenStream) : Option TokenStream :=
  let flow := stream.isFlow
  if stream.cursor.atMarkerOf '-' then stream.readMarker? .documentStart
  else if stream.cursor.atMarkerOf '.' then stream.readMarker? .documentEnd
  else
    match stream.cursor.rest with
    | [] => stream.readEnd?
    | c :: rest =>
      if c = '%' ∧ stream.cursor.column = 0 then stream.readDirective?
      else if c = '[' then stream.readOpening? .flowSequence
      else if c = '\x7b' then stream.readOpening? .flowMapping
      else if c = ']' then stream.readClosing? .flowSequenceEnd
      else if c = '\x7d' then stream.readClosing? .flowMappingEnd
      else if c = ',' then stream.readComma?
      else if c = '-' ∧ atGap rest then stream.readItem?
      else if c = '?' ∧ (flow ∨ atGap rest) then stream.readKey?
      else if c = ':' ∧ (flow ∨ atGap rest) then stream.readValue?
      else if c = '*' then stream.readReference?
      else if c = '&' then stream.readAnchorOf?
      else if c = '!' then stream.readTagOf?
      else if c = '|' ∧ !flow then stream.readBlockScalar? false
      else if c = '>' ∧ !flow then stream.readBlockScalar? true
      else if c = '\'' ∨ c = '"' then stream.readQuotedScalar? c
      else if startsPlain flow (c :: rest) then stream.readPlainScalar?
      else none

/-- Reads the next token into the queue. Four characters are looked at to tell what token it is, and one
behind it. -/
def fetch? (stream : TokenStream) : Option TokenStream := do
  let stream ← stream.skipGap.refreshKeys?
  if !stream.cursor.canSee 4 then none
  else
    let stream ← (stream.closeBlocks (stream.cursor.column + 1)).readToken?
    if stream.cursor.canSee 1 then return stream else none

/-! ## Taking tokens -/

/-- Whether a key may yet turn out to start at the first token of the queue. -/
def isOpenAtFront (stream : TokenStream) : Bool :=
  (stream.possibleKey? :: stream.outerKeys).any fun key? =>
    key?.elim false (·.number == stream.taken)

/-- Reads tokens until it is known what the first one of the queue is, at most `fuel` of them. -/
def fill? : (fuel : Nat) → TokenStream → Option TokenStream
  | 0, _ => none
  | fuel + 1, stream =>
    if stream.queue.isEmpty then do fill? fuel (← stream.fetch?)
    else do
      let stream ← stream.refreshKeys?
      if stream.isOpenAtFront then fill? fuel (← stream.fetch?) else return stream

/-- The first token, and the stream in which it is known. Every token but the last has a character of
its own, so no key waits for more than `maxKeyLength` tokens and a few. -/
def peek? (stream : TokenStream) : Option (Token × TokenStream) := do
  let stream ← fill? (maxKeyLength + 4) stream
  return (← stream.queue.head?, stream)

/-- The stream behind its first token. -/
def drop (stream : TokenStream) : TokenStream :=
  { stream with queue := stream.queue.tail, taken := stream.taken + 1 }

end TokenStream

end QueryPlan.Yaml

import QueryPlan.Yaml.Window

/-! # Places in a YAML text
A cursor is a place in a text: what is still to be read, and how far from the start of the text and of
its line it is. Indentation decides where a block of a YAML text ends, so every reader keeps track of
the column. -/

namespace QueryPlan.Yaml

/-- A **cursor**: a place in a text. -/
structure Cursor where
  /-- The text that is still to be read. -/
  rest : List Char
  /-- The number of bytes in front of it. -/
  offset : Nat
  /-- The number of lines in front of its own. -/
  line : Nat
  /-- The number of characters of its line in front of it. -/
  column : Nat
  /-- Whether the text is cut off behind what is still to be read. -/
  isCut : Bool

/-! ## Characters -/

/-- Whether a character separates words on a line. -/
def isBlank (c : Char) : Bool := c = ' ' || c = '\t'

/-- Whether a character ends a line. -/
def isBreak (c : Char) : Bool := c = '\n' || c = '\u2028' || c = '\u2029'

/-- Whether a character is a blank or a line break. -/
def isGap (c : Char) : Bool := isBlank c || isBreak c

/-- Whether a character may stand in the name of an anchor, a tag handle or a directive. -/
def isWordChar (c : Char) : Bool := c.isAlphanum || c = '_' || c = '-'

/-- The mark that may stand in front of a line and says how the text is encoded. -/
def byteOrderMark : Char := '\uFEFF'

/-- Whether a text is at a blank, at a line break or at its end. -/
def atGap : List Char → Bool
  | [] => true
  | c :: _ => isGap c

/-- Whether a text is at the end of a line. -/
def atLineEnd : List Char → Bool
  | [] => true
  | c :: _ => isBreak c

/-- Writes carriage returns and next-line characters as line feeds, a carriage return in front of a
line feed together with it. The separators of lines and paragraphs stay what they are. -/
def unifyBreaks : List Char → List Char
  | [] => []
  | '\r' :: '\n' :: rest => '\n' :: unifyBreaks rest
  | c :: rest => (if c = '\r' || c = '\u0085' then '\n' else c) :: unifyBreaks rest

/-! ## Moving on -/

namespace Cursor

/-- The start of a text. -/
def start (text : ReadableText) : Cursor := ⟨unifyBreaks text.chars, 0, 0, 0, text.isCut⟩

/-- Whether some more characters can be looked at, or the end of the text. -/
def canSee (count : Nat) (cursor : Cursor) : Bool :=
  !cursor.isCut || decide (count ≤ (cursor.rest.take count).length)

/-- The cursor behind one more character. -/
def step (cursor : Cursor) : Cursor :=
  match cursor.rest with
  | [] => cursor
  | c :: rest =>
    let offset := cursor.offset + c.utf8Size
    if isBreak c then { cursor with rest, offset, line := cursor.line + 1, column := 0 }
    else { cursor with rest, offset, column := cursor.column + 1 }

/-- The cursor behind some more characters. -/
def advance (cursor : Cursor) : (count : Nat) → Cursor
  | 0 => cursor
  | count + 1 => cursor.step.advance count

/-- The characters of a class that stand at a cursor, and the cursor behind them. -/
def span (class? : Char → Bool) (cursor : Cursor) : List Char × Cursor :=
  let read := cursor.rest.takeWhile class?
  (read, cursor.advance read.length)

/-- The cursor behind the characters of a class. -/
def skip (class? : Char → Bool) (cursor : Cursor) : Cursor := (cursor.span class?).2

/-- The cursor at the start of a line, also where the last line of a text has no end. -/
def forceLine (cursor : Cursor) : Cursor :=
  if cursor.column = 0 then cursor else { cursor with line := cursor.line + 1, column := 0 }

/-- Whether the cursor is at a line that starts with three of a mark, and nothing right behind them. -/
def atMarkerOf (mark : Char) (cursor : Cursor) : Bool :=
  cursor.column == 0 &&
    match cursor.rest with
    | a :: b :: c :: rest => a == mark && b == mark && c == mark && atGap rest
    | _ => false

/-- Whether the cursor is at a line that starts or ends a document. -/
def atMarker (cursor : Cursor) : Bool := cursor.atMarkerOf '-' || cursor.atMarkerOf '.'

/-- The cursor behind the rest of a line on which only blanks and a comment may follow. -/
def finishLine? (cursor : Cursor) : Option Cursor :=
  let next := cursor.skip isBlank
  let next := if next.rest.head? == some '#' then next.skip fun c => !isBreak c else next
  if atLineEnd next.rest then some next.step else none

end Cursor

end QueryPlan.Yaml

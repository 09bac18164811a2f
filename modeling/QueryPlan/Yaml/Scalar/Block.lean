import QueryPlan.Yaml.Scalar.Folding

/-! # Block scalars
A block scalar consists of the indented lines below a bar or an angle bracket. Behind a bar the lines are
kept as they are; behind an angle bracket a line break between two lines of text is folded. Signs on the
first line tell how far the lines are indented and what becomes of the line breaks at the end. -/

namespace QueryPlan.Yaml

/-- What becomes of the line breaks at the end of a block scalar. -/
inductive Chomping
  /-- None is kept. -/
  | strip
  /-- The first is kept. -/
  | clip
  /-- All are kept. -/
  | keep

/-- The signs on the first line of a block scalar. -/
structure BlockHeader where
  /-- What becomes of the line breaks at the end. -/
  chomping : Chomping
  /-- How much further than the block around it the lines are indented; zero if it is not said. -/
  indentation : Nat

/-- Reads a chomping sign, if there is one. -/
def readChomping (cursor : Cursor) : Chomping × Cursor :=
  match cursor.rest with
  | '-' :: _ => (.strip, cursor.step)
  | '+' :: _ => (.keep, cursor.step)
  | _ => (.clip, cursor)

/-- Whether a cursor is at a digit. -/
def atDigit (cursor : Cursor) : Bool := cursor.rest.head?.elim false Char.isDigit

/-- Reads an indentation digit, if there is one; zero is refused. -/
def readIndentation? (cursor : Cursor) : Option (Nat × Cursor) :=
  match cursor.rest with
  | '0' :: _ => none
  | c :: _ => some (if c.isDigit then (c.toNat - '0'.toNat, cursor.step) else (0, cursor))
  | [] => some (0, cursor)

/-- Reads the signs of a block scalar, in either order, and the rest of their line. -/
def readBlockHeader? (cursor : Cursor) : Option (BlockHeader × Cursor) := do
  if atDigit cursor then
    let (indentation, next) ← readIndentation? cursor
    let (chomping, next) := readChomping next
    return (⟨chomping, indentation⟩, ← next.finishLine?)
  else
    let (chomping, next) := readChomping cursor
    -- without a sign in front there is no digit here
    let (indentation, next) ← readIndentation? next
    return (⟨chomping, indentation⟩, ← next.finishLine?)

/-- The blank lines between two lines of a block scalar. -/
structure BlankLines where
  /-- Their line breaks. -/
  breaks : List Char
  /-- The largest column that was reached. -/
  width : Nat
  /-- The place behind them and behind the indentation of the next line. -/
  after : Cursor

/-- Reads blank lines and the indentation behind them, at most `fuel` lines. At most `indent` columns
are skipped on each, or all that there are if it is not known yet. -/
def readBlankLines? (indent? : Option Nat) : (fuel : Nat) → Cursor → Option BlankLines
  | 0, _ => none
  | fuel + 1, cursor =>
    let spaces := (cursor.rest.takeWhile (· = ' ')).length
    let next := cursor.advance (indent?.elim spaces fun indent => min spaces (indent - cursor.column))
    let isIndented := indent?.elim false (· ≤ next.column)
    if !isIndented && next.rest.head? == some '\t' then none
    else
      match next.rest with
      | c :: _ =>
        if isBreak c then do
          let more ← readBlankLines? indent? fuel next.step
          return { more with breaks := c :: more.breaks, width := max next.column more.width }
        else some ⟨[], next.column, next⟩
      | [] => some ⟨[], next.column, next⟩

/-- The gap in front of a line of a block scalar: the break that ends the line before it and the blank
lines between them. -/
structure LineGap where
  /-- The break that ends the line before; nothing in front of the first line. -/
  first : List Char
  /-- The breaks of the blank lines. -/
  breaks : List Char
  /-- Whether the line before starts with a blank. -/
  afterBlank : Bool

/-- The text of a gap in front of a line that starts with a blank or not. Folding drops a line feed
between two lines of text, and puts a blank in its place if no blank lines follow it. -/
def LineGap.text (gap : LineGap) (isFolded beforeBlank : Bool) : List Char :=
  if isFolded && gap.first = ['\n'] && !gap.afterBlank && !beforeBlank then
    if gap.breaks.isEmpty then [' '] else gap.breaks
  else gap.first ++ gap.breaks

/-- Reads the lines of a block scalar from the start of a line on, at most `fuel` of them. -/
def blockLinesFrom (isFolded : Bool) (chomping : Chomping) (indent : Nat) :
    (fuel : Nat) → LineGap → Cursor → Option Scalar
  | 0, _, _ => none
  | fuel + 1, gap, cursor =>
    if cursor.column = indent ∧ ¬cursor.rest.isEmpty then do
      let startsBlank := cursor.rest.head?.elim false isBlank
      let (line, next) := cursor.span fun c => !isBreak c
      let first := next.rest.take 1
      let lines ← readBlankLines? indent (next.rest.length + 1) next.step
      let tail ←
        blockLinesFrom isFolded chomping indent fuel ⟨first, lines.breaks, startsBlank⟩ lines.after
      return { tail with text := gap.text isFolded startsBlank ++ line ++ tail.text }
    else
      let ending := match chomping with
        | .strip => []
        | .clip => gap.first
        | .keep => gap.first ++ gap.breaks
      some ⟨ending, cursor, true⟩

/-- Reads a block scalar, from its indicator on, in a block whose lines have `margin` columns in
front. -/
def readBlock? (isFolded : Bool) (margin : Nat) (cursor : Cursor) : Option Scalar := do
  let (header, next) ← readBlockHeader? cursor.step
  let given := if header.indentation = 0 then none else some (margin - 1 + header.indentation)
  let lines ← readBlankLines? given (next.rest.length + 1) next
  let indent := given.getD (max lines.width (max margin 1))
  blockLinesFrom isFolded header.chomping indent (next.rest.length + 1) ⟨[], lines.breaks, false⟩
    lines.after

end QueryPlan.Yaml

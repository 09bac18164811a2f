import QueryPlan.Yaml.Scalar.Folding

/-! # Plain scalars
A plain scalar has no quotes. It ends in front of a colon or a comment, between brackets also in front of
the marks of the brackets, and in a block at the first line that is not indented far enough. -/

namespace QueryPlan.Yaml

/-- Whether a character separates or closes the parts between brackets. -/
def isFlowMark (c : Char) : Bool := c = ',' || c = '[' || c = ']' || c = '\x7b' || c = '\x7d'

/-- The characters that do not start a plain scalar, whatever follows them. -/
def indicators : List Char :=
  [',', '[', ']', '\x7b', '\x7d', '#', '&', '*', '!', '|', '>', '\'', '"', '%', '@', '\x60']

/-- Whether a text starts with a plain scalar. -/
def startsPlain (flow : Bool) : List Char → Bool
  | [] => false
  | '-' :: rest => !atGap rest
  | '?' :: rest => !flow && !atGap rest
  | ':' :: rest => !flow && !atGap rest
  | c :: _ => !isGap c && !indicators.contains c

/-- Whether a plain scalar ends in front of a text. -/
def endsPlain (flow : Bool) : List Char → Bool
  | [] => true
  | c :: rest => isGap c || (c = ':' && atGap rest) || (flow && isFlowMark c)

/-- Whether a text has a colon right in front of a mark of the brackets, which is ambiguous. -/
def hasColonAtMark : List Char → Bool
  | ':' :: c :: _ => isFlowMark c || c = '?'
  | _ => false

/-- The word of a plain scalar that a text starts with; none if it has an ambiguous colon. -/
def plainWord? (flow : Bool) : List Char → Option (List Char)
  | [] => some []
  | c :: rest =>
    if flow && hasColonAtMark (c :: rest) then none
    else if endsPlain flow (c :: rest) then some []
    else (plainWord? flow rest).map (c :: ·)

/-- Whether a gap that starts in a column has a tab where the lines of a block have to be indented. -/
def hasTabInMargin (margin : Nat) : (onNewLine : Bool) → (column : Nat) → List Char → Bool
  | _, _, [] => false
  | onNewLine, column, c :: rest =>
    if isBreak c then hasTabInMargin margin true 0 rest
    else
      (onNewLine && c = '\t' && decide (column < margin)) ||
        hasTabInMargin margin onNewLine (column + 1) rest

/-- Reads the words of a plain scalar from a cursor on, behind the blanks and line breaks of `gap`, at
most `fuel` of them. Lines that continue the scalar have at least `margin` columns in front, unless it
stands between brackets. To find its end, four characters are looked at in front of a word, two behind
it, and one behind a gap. -/
def plainFrom (flow : Bool) (margin : Nat) : (fuel : Nat) → (gap : List Char) → Cursor → Option Scalar
  | 0, _, _ => none
  | fuel + 1, gap, cursor =>
    let ended : Scalar := ⟨[], cursor, gap.any isBreak⟩
    if !cursor.canSee 4 then none
    else if cursor.atMarker || cursor.rest.head? == some '#' then some ended
    else do
      let word ← plainWord? flow cursor.rest
      if word.isEmpty then return ended
      let ending := cursor.advance word.length
      let (next, behind) := ending.span isGap
      if !ending.canSee 2 || !behind.canSee 1 || hasTabInMargin margin false 0 next then none
      else
        let tail ←
          if next.isEmpty || (!flow && decide (behind.column < margin)) then
            pure ⟨[], behind, next.any isBreak⟩
          else plainFrom flow margin fuel next behind
        return { tail with text := fold gap ++ word ++ tail.text }

/-- Reads a plain scalar. -/
def readPlain? (flow : Bool) (margin : Nat) (cursor : Cursor) : Option Scalar :=
  plainFrom flow margin (cursor.rest.length + 1) [] cursor

end QueryPlan.Yaml

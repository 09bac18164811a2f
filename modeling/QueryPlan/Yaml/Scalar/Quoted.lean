import QueryPlan.Text.Hexadecimal
import QueryPlan.Yaml.Scalar.Folding

/-! # Quoted scalars
A quoted scalar stands in single or double quotes. Between single quotes only the quote itself is
special, and is written twice; between double quotes a backslash starts an escape, and a backslash at
the end of a line joins it with the next one. -/

namespace QueryPlan.Yaml

/-- The character that an escape letter stands for. -/
def unescape? (letter : Char) : Option Char :=
  [('0', '\x00'), ('a', '\x07'), ('b', '\x08'), ('t', '\t'), ('\t', '\t'), ('n', '\n'),
   ('v', '\x0b'), ('f', '\x0c'), ('r', '\r'), ('e', '\x1b'), (' ', ' '), ('"', '"'), ('/', '/'),
   ('\\', '\\'), ('N', '\u0085'), ('_', '\u00a0'), ('L', '\u2028'), ('P', '\u2029')].lookup letter

/-- The number of hexadecimal digits behind an escape letter. -/
def escapeWidth? : Char → Option Nat
  | 'x' => some 2
  | 'u' => some 4
  | 'U' => some 8
  | _ => none

/-- The character with the code point of `width` hexadecimal digits that a text starts with. -/
def escapedPoint? (width : Nat) (text : List Char) : Option Char := do
  let (point, _) ← Text.takeHex? width text
  if point.isValidChar then return Char.ofNat point else none

/-- What a quoted scalar goes on with at a place. -/
inductive Piece
  /-- The closing quote. -/
  | close
  /-- A character of the text, written with `length` characters. -/
  | char (c : Char) (length : Nat)
  /-- A gap that stands for some characters, written with `length` characters. -/
  | gap (text : List Char) (length : Nat)

/-- The piece of a double-quoted scalar behind a backslash. -/
def escapedPiece? : List Char → Option Piece
  | [] => none
  | letter :: rest =>
    if isBreak letter then
      -- the break is joined, so the ones behind it are not folded
      let gap := rest.takeWhile isGap
      some (.gap (breaksOf gap) (2 + gap.length))
    else
      match escapeWidth? letter with
      | some width => (escapedPoint? width rest).map fun c => .char c (2 + width)
      | none => (unescape? letter).map fun c => .char c 2

/-- The piece of a quoted scalar that a text starts with. -/
def piece? (quote : Char) (text : List Char) : Option Piece :=
  match text with
  | [] => none
  | c :: rest =>
    if c = quote then
      if quote = '\'' && rest.head? == some '\'' then some (.char '\'' 2) else some .close
    else if c = '\\' && quote = '"' then escapedPiece? rest
    else if isGap c then
      let gap := text.takeWhile isGap
      some (.gap (fold gap) gap.length)
    else some (.char c 1)

/-- Reads the pieces of a quoted scalar up to its closing quote, at most `fuel` of them. Four characters
are looked at in front of a word, and two within one. -/
def quotedFrom (quote : Char) : (fuel : Nat) → (inWord : Bool) → Cursor → Option Scalar
  | 0, _, _ => none
  | fuel + 1, inWord, cursor =>
    if cursor.atMarker || !cursor.canSee (if inWord then 2 else 4) then none
    else do
      match ← piece? quote cursor.rest with
      | .close => return ⟨[], cursor.step, false⟩
      | .char c length =>
        let tail ← quotedFrom quote fuel true (cursor.advance length)
        return { tail with text := c :: tail.text }
      | .gap text length =>
        let tail ← quotedFrom quote fuel false (cursor.advance length)
        return { tail with text := text ++ tail.text }

/-- Reads a quoted scalar, from its opening quote on. -/
def readQuoted? (quote : Char) (cursor : Cursor) : Option Scalar :=
  quotedFrom quote (cursor.rest.length + 1) false cursor.step

end QueryPlan.Yaml

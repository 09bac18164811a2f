/-! # Windows on a YAML text
A text is looked at in windows of a fixed number of bytes, and a window with a character that may not
stand in a document cannot be opened. What is readable of a text are the windows in front of the first
one of that kind. -/

namespace QueryPlan.Yaml

/-- Whether a character may stand in a document. -/
def isPrintable (c : Char) : Bool :=
  let point := c.toNat
  point == 0x9 || point == 0xA || point == 0xD || (0x20 ≤ point && point ≤ 0x7E) ||
    point == 0x85 || (0xA0 ≤ point && point ≤ 0xFFFD) || 0x10000 ≤ point

/-- The largest number of bytes in a window. -/
def windowSize : Nat := 16384

/-- Splits a text behind the last character that ends within a number of bytes. -/
def splitAtByte : (size : Nat) → List Char → List Char × List Char
  | _, [] => ([], [])
  | size, c :: rest =>
    if c.utf8Size ≤ size then
      let (front, behind) := splitAtByte (size - c.utf8Size) rest
      (c :: front, behind)
    else ([], c :: rest)

/-- A **readable text**: what can be read of a text. -/
structure ReadableText where
  /-- The characters that can be read. -/
  chars : List Char
  /-- Whether there are more that cannot be read. -/
  isCut : Bool

/-- What can be read of a text, of at most `fuel` windows. -/
def readableFrom : (fuel : Nat) → List Char → ReadableText
  | 0, _ => ⟨[], true⟩
  | fuel + 1, text =>
    let (window, rest) := splitAtByte windowSize text
    if !window.all isPrintable then ⟨[], true⟩
    else if rest.isEmpty then ⟨window, false⟩
    else
      let more := readableFrom fuel rest
      { more with chars := window ++ more.chars }

/-- What can be read of a text. Every window has a character. -/
def ReadableText.ofString (text : String) : ReadableText :=
  readableFrom (text.length + 1) text.toList

end QueryPlan.Yaml

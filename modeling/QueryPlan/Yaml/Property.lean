import QueryPlan.Text.Hexadecimal
import QueryPlan.Yaml.Cursor
import QueryPlan.Yaml.Token

/-! # Properties and directives of a YAML text
A node may have an anchor, under which other places refer to it, and a tag, which names its type. A tag
starts with a handle; directives in front of a document declare handles and the version of the format.
Only the handle of a tag is kept, since the type it names does not matter to readers of schemas. -/

namespace QueryPlan.Yaml

/-! ## Anchors -/

/-- Whether the name of an anchor may end in front of a text. -/
def endsAnchor (text : List Char) : Bool :=
  atGap text || text.head?.elim true ['?', ':', ',', ']', '\x7d', '%', '@', '\x60'].contains

/-- Reads the name of an anchor behind its indicator. -/
def readAnchor? (cursor : Cursor) : Option (String × Cursor) :=
  let (name, next) := cursor.step.span isWordChar
  if name.isEmpty || !endsAnchor next.rest then none else some (String.ofList name, next)

/-! ## Tags -/

/-- Whether a character may stand in a tag; a tag in angle brackets may have some more. -/
def isTagChar (inBrackets : Bool) (c : Char) : Bool :=
  isWordChar c ||
    [';', '/', '?', ':', '@', '&', '=', '+', '$', '.', '!', '~', '*', '\'', '(', ')'].contains c ||
    (inBrackets && [',', '[', ']'].contains c)

/-- The octet that stands at a cursor as a percent sign with two hexadecimal digits. -/
def octet? (cursor : Cursor) : Option Nat :=
  match cursor.rest with
  | '%' :: rest => (Text.takeHex? 2 rest).map Prod.fst
  | _ => none

/-- The number of octets of a character that starts with an octet. -/
def octetCount? (octet : Nat) : Option Nat :=
  if octet < 0x80 then some 1
  else if octet < 0xC0 then none
  else if octet < 0xE0 then some 2
  else if octet < 0xF0 then some 3
  else if octet < 0xF8 then some 4
  else none

/-- Skips octets that continue a character. -/
def skipOctets? : (count : Nat) → Cursor → Option Cursor
  | 0, cursor => some cursor
  | count + 1, cursor => do
    let octet ← octet? cursor
    if octet / 0x40 = 2 then skipOctets? count (cursor.advance 3) else none

/-- Skips a character that is written as octets. -/
def skipEscape? (cursor : Cursor) : Option Cursor := do
  let count ← octetCount? (← octet? cursor)
  skipOctets? (count - 1) (cursor.advance 3)

/-- Skips the characters of a tag, at most `fuel` of them. -/
def skipTagChars? (inBrackets : Bool) : (fuel : Nat) → Cursor → Option Cursor
  | 0, cursor => some cursor
  | fuel + 1, cursor =>
    match cursor.rest with
    | '%' :: _ => do skipTagChars? inBrackets fuel (← skipEscape? cursor)
    | c :: _ =>
      if isTagChar inBrackets c then skipTagChars? inBrackets fuel cursor.step else some cursor
    | [] => some cursor

/-- Skips the part of a tag behind its handle. -/
def skipSuffix? (inBrackets : Bool) (cursor : Cursor) : Option Cursor :=
  skipTagChars? inBrackets cursor.rest.length cursor

/-- Skips the part of a tag behind its handle, which is not empty. -/
def skipWholeSuffix? (inBrackets : Bool) (cursor : Cursor) : Option Cursor := do
  let next ← skipSuffix? inBrackets cursor
  if cursor.offset < next.offset then return next else none

/-- Reads the tag at an exclamation mark up to its end, and gives its handle. -/
def readTagText? (cursor : Cursor) : Option (String × Cursor) := do
  let (name, next) := cursor.step.span isWordChar
  match cursor.step.rest, next.rest with
  | '<' :: _, _ =>
    let next ← skipWholeSuffix? true (cursor.advance 2)
    if next.rest.head? == some '>' then return ("", next.step) else none
  | _, '!' :: _ => return (String.ofList ('!' :: (name ++ ['!'])), ← skipWholeSuffix? false next.step)
  | _, _ =>
    let after ← skipSuffix? false next
    -- a lone exclamation mark is a tag by itself
    return (if after.offset = cursor.offset + 1 then "" else "!", after)

/-- Reads a tag. -/
def readTag? (flow : Bool) (cursor : Cursor) : Option (String × Cursor) := do
  let (handle, next) ← readTagText? cursor
  if atGap next.rest || (flow && next.rest.head? == some ',') then return (handle, next) else none

/-! ## Directives -/

/-- Reads a part of a version number. -/
def readVersionPart? (cursor : Cursor) : Option (Nat × Cursor) :=
  let (digits, next) := cursor.span Char.isDigit
  if digits.isEmpty || 9 < digits.length then none else some (Nat.ofDigitChars 10 digits 0, next)

/-- Reads the content of a directive that states a version. -/
def readVersion? (cursor : Cursor) : Option (Token × Cursor) := do
  let (major, next) ← readVersionPart? (cursor.skip isBlank)
  if next.rest.head? == some '.' then
    let (minor, next) ← readVersionPart? next.step
    return (.version major minor, next)
  else none

/-- Reads the content of a directive that declares a tag handle. -/
def readTagHandle? (cursor : Cursor) : Option (Token × Cursor) := do
  let start := cursor.skip isBlank
  if start.rest.head? != some '!' then none
  else
    let (name, next) := start.step.span isWordChar
    let (handle, next) ←
      if next.rest.head? == some '!' then pure ('!' :: (name ++ ['!']), next.step)
      else if name.isEmpty then pure (['!'], next)
      else none
    if next.rest.head?.elim false isBlank then
      let next ← skipWholeSuffix? true (next.skip isBlank)
      if atGap next.rest then return (.tagHandle (String.ofList handle), next) else none
    else none

/-- Reads a directive, from its indicator to the end of its line. -/
def readDirective? (cursor : Cursor) : Option (Token × Cursor) := do
  let (name, next) := cursor.step.span isWordChar
  if !atGap next.rest then none
  else
    let (token, next) ←
      if name = ['Y', 'A', 'M', 'L'] then readVersion? next
      else if name = ['T', 'A', 'G'] then readTagHandle? next
      else none
    return (token, ← next.finishLine?)

end QueryPlan.Yaml

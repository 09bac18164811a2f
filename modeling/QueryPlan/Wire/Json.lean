import QueryPlan.Text.Hexadecimal
import QueryPlan.Wire.Value

/-! # JSON text
Reading and writing wire values as JSON documents. A number without fraction and exponent is whole as
long as it fits 64 bits; every other number is a floating point number of 64 bits, whose digits and
power of ten are rounded apart, and minus zero is one of these. Of members with the same name in one
object the last one counts. -/

namespace QueryPlan.Wire.Value

/-! ## Writing -/

/-- A character as it is written inside quotes. -/
def escape (c : Char) : List Char :=
  if c = '"' then ['\\', '"']
  else if c = '\\' then ['\\', '\\']
  else if c.toNat < 0x20 then '\\' :: 'u' :: Text.hexDigits 4 c.toNat
  else [c]

/-- A character string in quotes. -/
def quoted (value : String) : String :=
  String.ofList ('"' :: (value.toList.flatMap escape ++ ['"']))

mutual

/-- The JSON text of a value. -/
def json : Value → String
  | null => "null"
  | boolean value => if value then "true" else "false"
  | integer value => toString value
  | single bits => Decimal.single.text bits.toNat
  | double bits => Decimal.double.text bits.toNat
  | string value => quoted value
  | array items => "[" ++ ",".intercalate (jsonItems items) ++ "]"
  | object members => "\x7b" ++ ",".intercalate (jsonMembers members) ++ "\x7d"

/-- The JSON texts of a list of values. -/
def jsonItems : List Value → List String
  | [] => []
  | item :: items => json item :: jsonItems items

/-- The JSON texts of a list of members. -/
def jsonMembers : List (String × Value) → List String
  | [] => []
  | (name, value) :: members => (quoted name ++ ":" ++ json value) :: jsonMembers members

end

/-! ## Reading -/

/-- The text without the blanks it starts with. -/
def skipBlanks (text : List Char) : List Char :=
  text.dropWhile fun c => c = ' ' || c = '\n' || c = '\r' || c = '\t'

/-- Reads the code point that follows the mark of an escaped code unit: one unit, or two that stand for
one code point together. -/
def readEscapedPoint? (text : List Char) : Option (Char × List Char) := do
  let (unit, rest) ← Text.takeHex? 4 text
  if 0xD800 ≤ unit ∧ unit < 0xDC00 then
    match rest with
    | '\\' :: 'u' :: rest => do
      let (low, rest) ← Text.takeHex? 4 rest
      if 0xDC00 ≤ low ∧ low < 0xE000 then
        return (Char.ofNat (0x10000 + (unit - 0xD800) * 0x400 + (low - 0xDC00)), rest)
      else none
    | _ => none
  else if 0xDC00 ≤ unit ∧ unit < 0xE000 then none
  else return (Char.ofNat unit, rest)

/-- The character that an escape letter stands for. -/
def unescape? : Char → Option Char
  | '"' => some '"'
  | '\\' => some '\\'
  | '/' => some '/'
  | 'b' => some '\x08'
  | 'f' => some '\x0c'
  | 'n' => some '\n'
  | 'r' => some '\r'
  | 't' => some '\t'
  | _ => none

/-- Reads the characters up to the closing quote, at most `fuel` of them, behind those of `before` in
reverse. -/
def readQuoted? : (fuel : Nat) → (before text : List Char) → Option (String × List Char)
  | 0, _, _ => none
  | fuel + 1, before, text =>
    match text with
    | '"' :: rest => some (String.ofList before.reverse, rest)
    | '\\' :: 'u' :: rest => do
      let (c, rest) ← readEscapedPoint? rest
      readQuoted? fuel (c :: before) rest
    | '\\' :: letter :: rest => do
      let c ← unescape? letter
      readQuoted? fuel (c :: before) rest
    | c :: rest => if c.toNat < 0x20 then none else readQuoted? fuel (c :: before) rest
    | [] => none

/-- The digits that a text starts with, and what follows them. -/
def spanDigits (text : List Char) : List Char × List Char :=
  (text.takeWhile Char.isDigit, text.dropWhile Char.isDigit)

/-- Reads a fraction: a point with at least one digit, or nothing. -/
def readFraction? : List Char → Option (List Char × List Char)
  | '.' :: rest =>
    let (digits, rest) := spanDigits rest
    if digits.isEmpty then none else some (digits, rest)
  | rest => some ([], rest)

/-- Reads an exponent: its mark with a sign and at least one digit, or nothing. -/
def readExponent? (text : List Char) : Option (Option Int × List Char) :=
  match text with
  | c :: rest =>
    if c = 'e' ∨ c = 'E' then
      let (negative, rest) := match rest with
        | '-' :: rest => (true, rest)
        | '+' :: rest => (false, rest)
        | rest => (false, rest)
      let (digits, rest) := spanDigits rest
      if digits.isEmpty then none
      else
        let value : Int := Nat.ofDigitChars 10 digits 0
        some (some (if negative then -value else value), rest)
    else some (none, text)
  | [] => some (none, [])

/-- Reads digits behind the digits of `value`, up to the first one that no longer fits 64 bits; the
digits from there on are given back. -/
def readDigits (value : Nat) : List Char → Nat × List Char
  | [] => (value, [])
  | c :: rest =>
    let longer := value * 10 + (c.toNat - '0'.toNat)
    if longer < UInt64.size then readDigits longer rest else (value, c :: rest)

/-- The bits of a power of ten. -/
def powerOfTen (exponent : Nat) : Nat := Decimal.double.nearest (Nat.pow 10 exponent) 1

/-- The largest exponent of a power of ten that is a floating point number. -/
def maxExponent : Nat := 308

/-- Divides a floating point number by a power of ten, in steps of the largest one there is. -/
def shiftDown (bits places : Nat) : Nat :=
  if places ≤ maxExponent then Decimal.double.quotient bits (powerOfTen places)
  else if bits = 0 then 0
  else shiftDown (Decimal.double.quotient bits (powerOfTen maxExponent)) (places - maxExponent)
termination_by places
decreasing_by simp only [maxExponent] at *; omega

/-- The floating point number `digits · 10 ^ exponent`, unless that is too large. The digits and the
power of ten are rounded one after the other, and so is their product or quotient. -/
def ofDecimal? (negative : Bool) (digits : Nat) (exponent : Int) : Option Value :=
  let rounded := Decimal.double.nearest digits 1
  let bits :=
    if exponent < 0 then shiftDown rounded (-exponent).toNat
    else if exponent ≤ maxExponent then Decimal.double.product rounded (powerOfTen exponent.toNat)
    else if digits = 0 then 0
    else Decimal.double.infinity
  if bits < Decimal.double.infinity then
    some (double (UInt64.ofNat (bits + if negative then Decimal.double.signBit else 0)))
  else none

/-- A whole number, if it fits 64 bits. -/
def ofDigits? (negative : Bool) (digits : Nat) : Option Value :=
  if negative then
    -- minus zero is not whole
    if 0 < digits ∧ digits ≤ Nat.pow 2 63 then some (integer (-digits)) else ofDecimal? true digits 0
  else some (integer digits)

/-- Reads a number. Of its digits those count that fit 64 bits together; the whole ones behind them
move the point, and those of the fraction are left out. -/
def readNumber? (text : List Char) : Option (Value × List Char) := do
  let (negative, text) := match text with
    | '-' :: rest => (true, rest)
    | rest => (false, rest)
  let (whole, text) := spanDigits text
  -- a whole part of several digits does not start with zero
  if whole.isEmpty || (whole.head? == some '0' && whole.length != 1) then none
  let (fraction, text) ← readFraction? text
  let (exponent, text) ← readExponent? text
  let (digits, wholeRest) := readDigits 0 whole
  if fraction.isEmpty && exponent.isNone && wholeRest.isEmpty then
    return (← ofDigits? negative digits, text)
  else
    let (digits, fractionRest) := readDigits digits fraction
    let places : Int := wholeRest.length - (fraction.length - fractionRest.length)
    return (← ofDecimal? negative digits (exponent.getD 0 + places), text)

/-- Puts a member into an object, in place of one with the same name. -/
def setMember (name : String) (value : Value) (members : List (String × Value)) :
    List (String × Value) :=
  members.filter (fun member => member.1 ≠ name) ++ [(name, value)]

mutual

/-- Reads a value, going at most `fuel` steps. -/
def read? : (fuel : Nat) → List Char → Option (Value × List Char)
  | 0, _ => none
  | fuel + 1, text =>
    match skipBlanks text with
    | 'n' :: 'u' :: 'l' :: 'l' :: rest => some (null, rest)
    | 't' :: 'r' :: 'u' :: 'e' :: rest => some (boolean true, rest)
    | 'f' :: 'a' :: 'l' :: 's' :: 'e' :: rest => some (boolean false, rest)
    | '"' :: rest => do
      let (value, rest) ← readQuoted? (rest.length + 1) [] rest
      return (string value, rest)
    | '[' :: rest =>
      match skipBlanks rest with
      | ']' :: rest => some (array [], rest)
      | rest => do
        let (items, rest) ← readItems? fuel rest
        return (array items, rest)
    | '\x7b' :: rest =>
      match skipBlanks rest with
      | '\x7d' :: rest => some (object [], rest)
      | rest => do
        let (members, rest) ← readMembers? fuel [] rest
        return (object members, rest)
    | rest => readNumber? rest

/-- Reads the items of a list up to its closing bracket. -/
def readItems? : (fuel : Nat) → List Char → Option (List Value × List Char)
  | 0, _ => none
  | fuel + 1, text => do
    let (item, rest) ← read? fuel text
    match skipBlanks rest with
    | ']' :: rest => return ([item], rest)
    | ',' :: rest => do
      let (items, rest) ← readItems? fuel rest
      return (item :: items, rest)
    | _ => none

/-- Reads the members of an object up to its closing brace, behind those of `before`. -/
def readMembers? : (fuel : Nat) → List (String × Value) → List Char →
    Option (List (String × Value) × List Char)
  | 0, _, _ => none
  | fuel + 1, before, text =>
    match skipBlanks text with
    | '"' :: rest => do
      let (name, rest) ← readQuoted? (rest.length + 1) [] rest
      match skipBlanks rest with
      | ':' :: rest => do
        let (value, rest) ← read? fuel rest
        let members := setMember name value before
        match skipBlanks rest with
        | '\x7d' :: rest => return (members, rest)
        | ',' :: rest => readMembers? fuel members rest
        | _ => none
      | _ => none
    | _ => none

end

/-- Reads a JSON document. -/
def ofJson? (document : String) : Option Value := do
  let text := document.toList
  let (value, rest) ← read? (text.length + 1) text
  if (skipBlanks rest).isEmpty then return value else none

end QueryPlan.Wire.Value

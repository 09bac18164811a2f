/-! # Hexadecimal digits
Reading and writing numbers in hexadecimal notation, as the escapes of quoted text use it. -/

namespace QueryPlan.Text

/-- The value of a hexadecimal digit, in either case. -/
def hexDigit? (c : Char) : Option Nat :=
  if c.isDigit then some (c.toNat - '0'.toNat)
  else if 'a' ≤ c ∧ c ≤ 'f' then some (c.toNat - 'a'.toNat + 10)
  else if 'A' ≤ c ∧ c ≤ 'F' then some (c.toNat - 'A'.toNat + 10)
  else none

/-- The number that some hexadecimal digits stand for. -/
def readHex? (digits : List Char) : Option Nat := do
  let values ← digits.mapM hexDigit?
  return values.foldl (fun sum digit => sum * 16 + digit) 0

/-- The number of the first `width` characters of a text, which have to be hexadecimal digits, and the
text behind them. -/
def takeHex? (width : Nat) (text : List Char) : Option (Nat × List Char) := do
  let digits := text.take width
  let value ← readHex? digits
  if digits.length = width then return (value, text.drop width) else none

/-- The hexadecimal digits of a number, at least `width` of them. -/
def hexDigits (width value : Nat) : List Char :=
  let digits := Nat.toDigits 16 value
  List.replicate (width - digits.length) '0' ++ digits

end QueryPlan.Text

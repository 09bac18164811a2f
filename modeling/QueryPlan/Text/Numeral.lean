/-! # Whole numbers in text
Reading an unsigned decimal number that has to stay below a bound. One plus sign may stand in front
and leading zeros are allowed; an empty digit sequence, any other character and a value that reaches
the bound are refused. -/

namespace QueryPlan.Text

/-- The digits of a numeral: the text without the plus sign it may start with. -/
def unsigned : List Char → List Char
  | '+' :: digits => digits
  | digits => digits

/-- Reads a decimal numeral whose value lies below `bound`. -/
def readNumeral? (bound : Nat) (text : List Char) : Option Nat :=
  let digits := unsigned text
  if !digits.isEmpty && digits.all Char.isDigit then
    let value := Nat.ofDigitChars 10 digits 0
    if value < bound then some value else none
  else none

/-- A value that is read lies below the bound. -/
theorem lt_of_readNumeral? {bound value : Nat} {text : List Char}
    (read : readNumeral? bound text = some value) : value < bound := by
  unfold readNumeral? at read
  simp only at read
  split at read
  · split at read
    · cases read
      assumption
    · contradiction
  · contradiction

/-- Reads a length: a numeral of at most 32 bits. -/
def readLength? (text : List Char) : Option UInt32 :=
  (readNumeral? UInt32.size text).map UInt32.ofNat

/-- Reads a precision or a scale: a numeral of at most 8 bits. -/
def readPrecision? (text : List Char) : Option UInt8 :=
  (readNumeral? UInt8.size text).map UInt8.ofNat

end QueryPlan.Text

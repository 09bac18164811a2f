/-! # Binary floating point formats
A floating point literal is kept as the bits of its format. `Format.decode` takes the bits apart into
sign, mantissa and exponent; `Format.nearest` goes the other way and finds the bits of the number
closest to a quotient, a tie going to the even neighbour. Everything is exact arithmetic on natural
numbers. -/

namespace QueryPlan.Decimal

/-- A **binary format**: the widths of its fraction and exponent fields. -/
structure Format where
  /-- The number of fraction bits. -/
  fractionBits : Nat
  /-- The number of exponent bits. -/
  exponentBits : Nat

/-- The format of 32 bits. -/
def single : Format := ⟨23, 8⟩

/-- The format of 64 bits. -/
def double : Format := ⟨52, 11⟩

/-- What a bit pattern stands for. A finite number is `mantissa · 2 ^ exponent` with a sign. -/
inductive Number
  /-- No number. -/
  | nan
  /-- Beyond every finite number. -/
  | infinite (negative : Bool)
  /-- A finite number. -/
  | finite (negative : Bool) (mantissa : Nat) (exponent : Int)
  deriving DecidableEq

namespace Format

/-- The weight of the hidden leading bit. -/
def hidden (format : Format) : Nat := Nat.pow 2 format.fractionBits

/-- The exponent field of the patterns that are not finite. -/
def specialField (format : Format) : Nat := Nat.pow 2 format.exponentBits - 1

/-- The exponent of the last fraction bit in the numbers closest to zero. -/
def minExponent (format : Format) : Int :=
  2 - Nat.pow 2 (format.exponentBits - 1) - format.fractionBits

/-- The bits of positive infinity. -/
def infinity (format : Format) : Nat := format.specialField * format.hidden

/-- The weight of the sign bit. -/
def signBit (format : Format) : Nat := Nat.pow 2 (format.fractionBits + format.exponentBits)

/-- The exponent field of a bit pattern. -/
def exponentField (format : Format) (bits : Nat) : Nat :=
  bits / format.hidden % Nat.pow 2 format.exponentBits

/-- The fraction field of a bit pattern. -/
def fractionField (format : Format) (bits : Nat) : Nat := bits % format.hidden

/-- Whether the sign bit is set. -/
def isNegative (format : Format) (bits : Nat) : Bool := bits / format.signBit % 2 == 1

/-- Whether a bit pattern stands for a finite number. -/
def isFinite (format : Format) (bits : Nat) : Bool :=
  format.exponentField bits != format.specialField

/-- What a bit pattern stands for. -/
def decode (format : Format) (bits : Nat) : Number :=
  let field := format.exponentField bits
  let fraction := format.fractionField bits
  let negative := format.isNegative bits
  if field = format.specialField then
    if fraction = 0 then .infinite negative else .nan
  -- the numbers closest to zero have no hidden bit
  else if field = 0 then .finite negative fraction format.minExponent
  else .finite negative (format.hidden + fraction) (format.minExponent + (field - 1))

/-- The bits of the non-negative number closest to `num / den`, a tie going to the even neighbour. -/
def nearest (format : Format) (num den : Nat) : Nat :=
  if num = 0 then 0
  else
    -- the quotient lies between `2 ^ (height - 1)` and `2 ^ (height + 1)`
    let height : Int := Nat.log2 num - Nat.log2 den
    let reached := den * Nat.pow 2 height.toNat ≤ num * Nat.pow 2 (-height).toNat
    let exponent := max format.minExponent ((if reached then height else height - 1) - format.fractionBits)
    let num := num * Nat.pow 2 (-exponent).toNat
    let den := den * Nat.pow 2 exponent.toNat
    let quotient := num / den
    let remainder := num % den
    let mantissa :=
      if 2 * remainder < den then quotient
      else if den < 2 * remainder then quotient + 1
      else quotient + quotient % 2
    -- a mantissa that was rounded up to the next power of two carries into the exponent field
    min format.infinity ((exponent - format.minExponent).toNat * format.hidden + mantissa)

/-- The bits of `nearest` with a sign. -/
def nearestSigned (format : Format) (negative : Bool) (num den : Nat) : Nat :=
  format.nearest num den + if negative then format.signBit else 0

/-- The bits of a number in another format, rounded to the nearest where the format is narrower. -/
def ofNumber (format : Format) : Number → Nat
  | .nan => format.infinity + format.hidden / 2
  | .infinite negative => format.infinity + if negative then format.signBit else 0
  | .finite negative mantissa exponent =>
    format.nearestSigned negative (mantissa * Nat.pow 2 exponent.toNat) (Nat.pow 2 (-exponent).toNat)

/-- The bits of the product of two finite numbers without a sign. -/
def product (format : Format) (left right : Nat) : Nat :=
  match format.decode left, format.decode right with
  | .finite _ leftMantissa leftExponent, .finite _ rightMantissa rightExponent =>
    format.ofNumber (.finite false (leftMantissa * rightMantissa) (leftExponent + rightExponent))
  | _, _ => format.infinity

/-- The bits of the quotient of two finite numbers without a sign, the second of them not zero. -/
def quotient (format : Format) (left right : Nat) : Nat :=
  match format.decode left, format.decode right with
  | .finite _ leftMantissa leftExponent, .finite _ rightMantissa rightExponent =>
    let exponent := leftExponent - rightExponent
    format.nearest (leftMantissa * Nat.pow 2 exponent.toNat)
      (rightMantissa * Nat.pow 2 (-exponent).toNat)
  | _, _ => format.infinity

/-- The bits of the number closest to an integer. -/
def ofInt (format : Format) (value : Int) : Nat :=
  format.nearestSigned (value < 0) value.natAbs 1

end Format

end QueryPlan.Decimal

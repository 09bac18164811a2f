import QueryPlan.Decimal.Binary

/-! # Shortest decimal text
A floating point number is written with the fewest decimal digits that read back to it, in positional
notation. The reals that round to the number form an interval; its ends belong to it when the mantissa
is even. `shortest` finds the coarsest grid of multiples of a power of ten that meets the interval and
takes the point of it closest to the number, the upper one at a tie. -/

namespace QueryPlan.Decimal

/-- The numbers that round to a finite number `middle / unit`, measured in whole multiples of
`1 / unit`. -/
structure Interval where
  /-- The number of parts of one. -/
  unit : Nat
  /-- The lower end. -/
  low : Nat
  /-- The number itself. -/
  middle : Nat
  /-- The upper end. -/
  high : Nat
  /-- Whether the ends round to the number as well. -/
  closed : Bool

/-- The interval of a number with a mantissa and an exponent. The neighbour below a power of two is
only half as far away, except where the spacing has reached its least value. -/
def Format.interval (format : Format) (mantissa : Nat) (exponent : Int) : Interval :=
  let step := Nat.pow 2 (exponent - 2).toNat
  let nearBelow := mantissa = format.hidden ∧ format.minExponent < exponent
  { unit := Nat.pow 2 (2 - exponent).toNat
    low := (4 * mantissa - if nearBelow then 1 else 2) * step
    middle := 4 * mantissa * step
    high := (4 * mantissa + 2) * step
    closed := mantissa % 2 == 0 }

/-- A decimal number `digits · 10 ^ exponent`. -/
structure Scaled where
  /-- The digits, read as one number. -/
  digits : Nat
  /-- The power of ten. -/
  exponent : Int
  deriving DecidableEq

namespace Interval

/-- The point of the grid of multiples of `10 ^ exponent` that lies in the interval and is closest to
its middle. Only the two neighbours of the middle on the grid have to be looked at. -/
def gridPoint? (interval : Interval) (exponent : Int) : Option Nat :=
  let grid := interval.unit * Nat.pow 10 exponent.toNat
  let scale := Nat.pow 10 (-exponent).toNat
  let inside := fun point =>
    if interval.closed then interval.low * scale ≤ point * grid ∧ point * grid ≤ interval.high * scale
    else interval.low * scale < point * grid ∧ point * grid < interval.high * scale
  let lower := interval.middle * scale / grid
  let upperIsCloser := grid ≤ 2 * (interval.middle * scale % grid)
  if inside lower ∧ ¬(inside (lower + 1) ∧ upperIsCloser) then some lower
  else if inside (lower + 1) then some (lower + 1)
  else none

/-- Searches the grids from `10 ^ exponent` downwards, `steps` of them. -/
def search (interval : Interval) : (steps : Nat) → (exponent : Int) → Option Scaled
  | 0, _ => none
  | steps + 1, exponent =>
    match interval.gridPoint? exponent with
    | some point => some ⟨point, exponent⟩
    | none => interval.search steps (exponent - 1)

end Interval

/-- The shortest decimal that reads back to `mantissa · 2 ^ exponent`. The search starts above the
leading digit and ends at the grid on which the number itself lies. -/
def Format.shortest (format : Format) (mantissa : Nat) (exponent : Int) : Scaled :=
  -- three bits make less than one decimal digit, so no grid above `top` has a point in the interval
  let top : Int := (Nat.log2 mantissa + 1 + exponent).toNat / 3 + 1
  let steps := (top - min exponent 0).toNat + 1
  let exact : Scaled :=
    ⟨mantissa * Nat.pow 2 exponent.toNat * Nat.pow 5 (-exponent).toNat, min exponent 0⟩
  ((format.interval mantissa exponent).search steps top).getD exact

/-- A decimal number in positional notation: without a point when it is whole, and with a digit on
each side of the point otherwise. -/
def Scaled.text (number : Scaled) : String :=
  let digits := (toString number.digits).toList
  let places := (-number.exponent).toNat
  if places = 0 then String.ofList (digits ++ List.replicate number.exponent.toNat '0')
  else
    let padded := List.replicate (places + 1 - digits.length) '0' ++ digits
    let whole := padded.length - places
    String.ofList (padded.take whole ++ '.' :: padded.drop whole)

/-- The text of the number that a bit pattern stands for. -/
def Format.text (format : Format) (bits : Nat) : String :=
  match format.decode bits with
  | .nan => "NaN"
  | .infinite negative => if negative then "-inf" else "inf"
  | .finite negative mantissa exponent =>
    let magnitude := if mantissa = 0 then "0" else (format.shortest mantissa exponent).text
    if negative then "-" ++ magnitude else magnitude

end QueryPlan.Decimal

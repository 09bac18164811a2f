import QueryPlan.Text.Blank
import QueryPlan.DataType.Basic
import QueryPlan.DataType.Error

/-! # Bounds of type parameters
A length is at least one, a precision at most the one its kind allows, a decimal type has one to 38
digits and a scale within them, and a type known by name has a name that is not blank. `Atom.check`
says what is wrong with an atom, if anything; `DataType.WellFormed` holds of a type whose atoms are
within bounds at every level. The constructors of types that can go wrong check their parameters. -/

namespace QueryPlan

/-- The largest number of digits of a decimal type. -/
def maxDecimalPrecision : UInt8 := 38

/-- The number of fractional-second digits of a timestamp that does not say. -/
def defaultTimestampPrecision : UInt8 := 6

namespace Atom

/-- An atom is **within bounds** when its parameters are ones its kind allows. -/
def InBounds : Atom → Prop
  | plain _ => True
  | sized _ length => 1 ≤ length
  | precise kind precision => precision ≤ kind.maxPrecision
  | decimal precision scale => 1 ≤ precision ∧ precision ≤ maxDecimalPrecision ∧ scale ≤ precision
  | userDefined name => Text.allBlank name.toList = false

instance : DecidablePred InBounds := fun
  | plain _ => inferInstanceAs (Decidable True)
  | sized _ length => inferInstanceAs (Decidable (1 ≤ length))
  | precise kind precision => inferInstanceAs (Decidable (precision ≤ kind.maxPrecision))
  | decimal precision scale =>
    inferInstanceAs (Decidable (1 ≤ precision ∧ precision ≤ maxDecimalPrecision ∧ scale ≤ precision))
  | userDefined name => inferInstanceAs (Decidable (Text.allBlank name.toList = false))

/-- The fault of an atom outside its bounds. -/
def fault? : Atom → Option TypeError
  | plain _ => none
  | sized kind length => if length = 0 then some (.invalidLength kind length) else none
  | precise kind precision =>
    if kind.maxPrecision < precision then some (.invalidPrecision kind precision) else none
  | decimal precision scale =>
    if precision = 0 ∨ maxDecimalPrecision < precision ∨ precision < scale then
      some (.invalidDecimal precision scale)
    else none
  | userDefined name =>
    if (Text.trim name.toList).isEmpty then some .emptyUserDefinedName else none

end Atom

namespace DataType

/-- The type of an atom, unless the atom is outside its bounds. -/
def ofAtom (kind : Atom) (null : Nullability) : Except TypeError DataType :=
  match kind.fault? with
  | some error => .error error
  | none => .ok (atom kind null)

/-- Checks the parameters at the top of a type; component types are not looked into. -/
def check : DataType → Except TypeError DataType
  | atom kind null => ofAtom kind null
  | type => .ok type

mutual

/-- A type is **well formed** when every atom in it is within its bounds. -/
def WellFormed : DataType → Prop
  | atom kind _ => kind.InBounds
  | struct fields _ => AllWellFormed fields
  | list element _ => WellFormed element
  | map key value _ => WellFormed key ∧ WellFormed value

/-- Every type of a list is well formed. -/
def AllWellFormed : List DataType → Prop
  | [] => True
  | type :: types => WellFormed type ∧ AllWellFormed types

end

end DataType

end QueryPlan

import QueryPlan.DataType.Kind

/-! # Faults in types
What can be wrong with a type: parameters outside their bounds, or a text that is not a type text. -/

namespace QueryPlan

/-- Why a text is not read as a type. -/
inductive ReadFault
  /-- Nothing but blank characters. -/
  | emptyText
  /-- An opening bracket, but no closing bracket at the end. -/
  | unclosedBracket
  /-- Nothing between two separators. -/
  | emptyParameter
  /-- The keyword takes another number of parameters. -/
  | parameterCount (keyword : String) (expected found : Nat)
  /-- A parameter that has to be a whole number within bounds is none. -/
  | notInteger (parameter : String)
  /-- No type has this keyword. -/
  | unknownKeyword (keyword : String)
  deriving DecidableEq

/-- What is wrong with a type. -/
inductive TypeError
  /-- The length is zero. -/
  | invalidLength (kind : LengthKind) (length : UInt32)
  /-- More fractional-second digits than the kind allows. -/
  | invalidPrecision (kind : PrecisionKind) (precision : UInt8)
  /-- The digits of a decimal type are outside their bounds. -/
  | invalidDecimal (precision scale : UInt8)
  /-- A type known by name has a blank name. -/
  | emptyUserDefinedName
  /-- A text that is not a type text. -/
  | unreadable (text : String) (fault : ReadFault)
  deriving DecidableEq

/-- The explanation of a fault in a type text. -/
def ReadFault.message : ReadFault → String
  | emptyText => "empty type string"
  | unclosedBracket => "missing closing '>'"
  | emptyParameter => "empty type parameter"
  | parameterCount keyword expected found =>
    s!"'{keyword}' takes {expected} parameter(s), found {found}"
  | notInteger parameter => s!"expected an integer parameter, found '{parameter}'"
  | unknownKeyword keyword => s!"unknown type '{keyword}'"

namespace TypeError

/-- The code that stands in front of a message. -/
def code : TypeError → String
  | invalidLength .. => "T001"
  | invalidPrecision .. => "T002"
  | invalidDecimal .. => "T003"
  | emptyUserDefinedName => "T004"
  | unreadable .. => "T005"

/-- The explanation without its code. -/
def explanation : TypeError → String
  | invalidLength kind length =>
    s!"Invalid length {length} for {kind.keyword}: must be at least 1"
  | invalidPrecision kind precision =>
    s!"Invalid precision {precision} for {kind.keyword}: must be between 0 and {kind.maxPrecision}"
  | invalidDecimal precision scale =>
    s!"Invalid decimal<{precision},{scale}>: precision must be 1..=38 and scale must not " ++
      "exceed precision"
  | emptyUserDefinedName => "User-defined type name must not be empty"
  | unreadable text fault => s!"Cannot parse type '{text}': {fault.message}"

/-- The full message: code and explanation. -/
def message (error : TypeError) : String := s!"[{error.code}] {error.explanation}"

end TypeError

end QueryPlan

import QueryPlan.DataType.Bounds
import QueryPlan.PlanError

/-! # Literals
A literal is a value with its type. The constructors give a value the required type of its kind; a
character literal of fixed length is as long as its type says, one of variable length at most as long,
and null has a nullable type. `Literal.typed` checks a value against a type given with it. -/

namespace QueryPlan

/-- A **literal**: a value with its type. -/
structure Literal where
  /-- The value. -/
  value : LiteralValue
  /-- The type of the value. -/
  type : DataType
  deriving DecidableEq, Inhabited

/-- The number of characters of a text, if a length can state it. -/
def charLength (text : String) : Except PlanError UInt32 :=
  let count := text.toList.length
  if count < UInt32.size then .ok (UInt32.ofNat count) else .error (.invalidLiteral .tooLong)

namespace Literal

/-- A value of a kind without parameters. -/
def ofPlain (value : LiteralValue) (kind : PlainKind) : Literal := ⟨value, .plain kind⟩

/-- A truth value. -/
def boolean (value : Bool) : Literal := ofPlain (.boolean value) .boolean

/-- An integer of 8 bits. -/
def i8 (value : Int8) : Literal := ofPlain (.i8 value) .i8

/-- An integer of 16 bits. -/
def i16 (value : Int16) : Literal := ofPlain (.i16 value) .i16

/-- An integer of 32 bits. -/
def i32 (value : Int32) : Literal := ofPlain (.i32 value) .i32

/-- An integer of 64 bits. -/
def i64 (value : Int64) : Literal := ofPlain (.i64 value) .i64

/-- A floating point number of 32 bits. -/
def fp32 (bits : UInt32) : Literal := ofPlain (.fp32 bits) .fp32

/-- A floating point number of 64 bits. -/
def fp64 (bits : UInt64) : Literal := ofPlain (.fp64 bits) .fp64

/-- A character string of any length. -/
def string (value : String) : Literal := ofPlain (.string value) .string

/-- A date. -/
def date (days : Int32) : Literal := ofPlain (.date days) .date

/-- A character string whose type has its length. -/
def fixedChar (value : String) : Except PlanError Literal := do
  let length ← charLength value
  return ⟨.fixedChar value, ← liftType (DataType.ofAtom (.sized .fixedChar length) .required)⟩

/-- A character string with the largest length its type allows. -/
def varChar (value : String) (length : UInt32) : Except PlanError Literal := do
  let type ← liftType (DataType.ofAtom (.sized .varChar length) .required)
  if length < (← charLength value) then
    throw (.invalidLiteral (.exceedsLength value length))
  return ⟨.varChar value, type⟩

/-- The absent value of a type, which is made nullable. -/
def null (type : DataType) : Literal := ⟨.null, type.asNullable⟩

/-- The same value with a nullable type. -/
def nullable (literal : Literal) : Literal := ⟨literal.value, literal.type.asNullable⟩

/-- Whether a value is one of a type. Null is a value of every nullable type, and of no other. -/
def agrees (value : LiteralValue) (type : DataType) : Except PlanError Bool :=
  match value, type with
  | .null, type => .ok type.isNullable
  | .boolean _, .atom (.plain .boolean) _ => .ok true
  | .i8 _, .atom (.plain .i8) _ => .ok true
  | .i16 _, .atom (.plain .i16) _ => .ok true
  | .i32 _, .atom (.plain .i32) _ => .ok true
  | .i64 _, .atom (.plain .i64) _ => .ok true
  | .fp32 _, .atom (.plain .fp32) _ => .ok true
  | .fp64 _, .atom (.plain .fp64) _ => .ok true
  | .string _, .atom (.plain .string) _ => .ok true
  | .date _, .atom (.plain .date) _ => .ok true
  | .fixedChar text, .atom (.sized .fixedChar length) _ => (charLength text).map (· == length)
  | .varChar text, .atom (.sized .varChar length) _ => (charLength text).map (· ≤ length)
  | _, _ => .ok false

/-- A value with a type given for it, which it has to agree with. -/
def typed (value : LiteralValue) (type : DataType) : Except PlanError Literal := do
  if ← agrees value type then return ⟨value, type⟩
  else throw (.invalidLiteral (.notOfType value type))

end Literal

end QueryPlan

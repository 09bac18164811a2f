import QueryPlan.DataType.Parser
import QueryPlan.Template.Parser
import QueryPlan.Wire.Names
import QueryPlan.Wire.Value

/-! # Reading wire values
Reading the parts of a plan from their wire forms. Types and templates may be written in any spelling,
and a record as an object or as the list of its members. Members that are not asked for are ignored, and
a missing member or a value of the wrong kind is malformed. A part is built by the same checked
constructors as any other, so that a literal agrees with its type and a conditional with its clauses;
what they refuse is reported with its cause. -/

namespace QueryPlan

open Wire (Value)

/-- Why a wire value is refused. -/
inductive Wire.Fault
  /-- It has not the form of the part that is read. -/
  | malformed
  /-- It holds a type with a fault. -/
  | type (error : TypeError)
  /-- It holds parts that do not fit together. -/
  | plan (error : PlanError)
  deriving DecidableEq

/-- The message of a fault that has a cause of its own. -/
def Wire.Fault.message? : Wire.Fault → Option String
  | malformed => none
  | type error => some error.message
  | plan error => some error.message

/-- A **reader** takes a wire value to a part of a plan. -/
abbrev Wire.Reader (α : Type) := Value → Except Wire.Fault α

namespace Wire

/-- What a checked constructor refuses is refused on the wire. -/
def checked (result : Except PlanError α) : Except Fault α := result.mapError Fault.plan

/-- Something that has to be there. -/
def present : Option α → Except Fault α
  | some found => .ok found
  | none => .error .malformed

/-- Reads a member of an object. -/
def readMember (name : String) (read : Reader α) : Reader α := fun value => do
  read (← present (value.member? name))

/-- Reads a member of an object that may be missing or null. -/
def readOptional (name : String) (read : Reader α) : Reader (Option α) := fun value =>
  match value, value.member? name with
  | .object _, some .null => .ok none
  | .object _, some content => (read content).map some
  | .object _, none => .ok none
  | _, _ => .error .malformed

/-- Reads a character string. -/
def readString : Reader String
  | .string value => .ok value
  | _ => .error .malformed

/-- Reads a truth value. -/
def readBoolean : Reader Bool
  | .boolean value => .ok value
  | _ => .error .malformed

/-- Reads a whole number within bounds. -/
def readInteger (least most : Int) : Reader Int
  | .integer value => if least ≤ value ∧ value ≤ most then .ok value else .error .malformed
  | _ => .error .malformed

/-- Reads a whole number that is not negative. -/
def readNatural : Reader Nat
  | .integer value => if 0 ≤ value then .ok value.toNat else .error .malformed
  | _ => .error .malformed

/-- Reads every value of a list. -/
def readEach (read : Reader α) : List Value → Except Fault (List α)
  | [] => .ok []
  | value :: values => do
    let first ← read value
    return first :: (← readEach read values)

/-- Reads a list. -/
def readList (read : Reader α) : Reader (List α)
  | .array items => readEach read items
  | _ => .error .malformed

/-- Takes a choice apart: the name of a form alone, or with its content. -/
def readChoice : Reader (String × Option Value)
  | .string form => .ok (form, none)
  | .object [(form, content)] => .ok (form, some content)
  | _ => .error .malformed

/-- Reads a member of an enumerated type. -/
def readNamed (nameOf : α → String) (members : List α) : Reader α := fun value => do
  match ← readChoice value with
  | (form, none) | (form, some .null) => present (findNamed? nameOf members form)
  | _ => .error .malformed

/-- Reads the bits of a floating point number of 32 bits; a wider number is rounded. -/
def readSingle : Reader UInt32
  | .single bits => .ok bits
  | .double bits =>
    .ok (UInt32.ofNat (Decimal.single.ofNumber (Decimal.double.decode bits.toNat)))
  | .integer value => .ok (UInt32.ofNat (Decimal.single.ofInt value))
  | _ => .error .malformed

/-- Reads the bits of a floating point number of 64 bits. -/
def readDouble : Reader UInt64
  | .double bits => .ok bits
  | .single bits =>
    .ok (UInt64.ofNat (Decimal.double.ofNumber (Decimal.single.decode bits.toNat)))
  | .integer value => .ok (UInt64.ofNat (Decimal.double.ofInt value))
  | _ => .error .malformed

end Wire

open Wire

/-- Reads a type. -/
def DataType.ofWire : Reader DataType
  | .string text => (DataType.parse text).mapError Fault.type
  | _ => .error .malformed

/-- Reads a template. -/
def Template.ofWire : Reader Template
  | .string text => (Template.parse text).mapError Fault.type
  | _ => .error .malformed

/-- Reads a nullability. -/
def Nullability.ofWire : Reader Nullability := readNamed wireName all

/-- Reads the content of a literal value of a form. -/
def LiteralValue.ofContent (form : String) (content : Value) : Except Fault LiteralValue :=
  match form with
  | "Boolean" => (readBoolean content).map boolean
  | "I8" =>
    (readInteger Int8.minValue.toInt Int8.maxValue.toInt content).map fun value =>
      i8 (Int8.ofInt value)
  | "I16" =>
    (readInteger Int16.minValue.toInt Int16.maxValue.toInt content).map fun value =>
      i16 (Int16.ofInt value)
  | "I32" =>
    (readInteger Int32.minValue.toInt Int32.maxValue.toInt content).map fun value =>
      i32 (Int32.ofInt value)
  | "I64" =>
    (readInteger Int64.minValue.toInt Int64.maxValue.toInt content).map fun value =>
      i64 (Int64.ofInt value)
  | "Fp32" => (readSingle content).map fp32
  | "Fp64" => (readDouble content).map fp64
  | "String" => (readString content).map string
  | "FixedChar" => (readString content).map fixedChar
  | "VarChar" => (readString content).map varChar
  | "Date" =>
    (readInteger Int32.minValue.toInt Int32.maxValue.toInt content).map fun days =>
      date (Int32.ofInt days)
  | _ => .error .malformed

/-- Reads a literal value. -/
def LiteralValue.ofWire : Reader LiteralValue := fun value => do
  match ← readChoice value with
  | ("Null", none) | ("Null", some .null) => return null
  | (form, some content) => ofContent form content
  | _ => throw .malformed

/-- Reads a literal, whose value has to agree with its type. -/
def Literal.ofWire : Reader Literal := fun value => do
  let record := value.record ["value", "type"]
  let content ← readMember "value" LiteralValue.ofWire record
  let type ← readMember "type" DataType.ofWire record
  checked (Literal.typed content type)

/-- Reads a field reference. -/
def FieldReference.ofWire : Reader FieldReference := fun value => do
  let record := value.record ["offset", "type"]
  let offset ← readMember "offset" readNatural record
  return ⟨offset, ← readMember "type" DataType.ofWire record⟩

/-- Reads a function reference. -/
def FunctionReference.ofWire : Reader FunctionReference := fun value => do
  let record := value.record ["name", "key"]
  let name ← readMember "name" readString record
  return ⟨name, ← readMember "key" readString record⟩

namespace Expression

/-- Reads a clause, given a reader of expressions. -/
def clauseOfWire (read : Reader Expression) : Reader (Expression × Expression) := fun value => do
  let record := value.record ["condition", "then"]
  let condition ← readMember "condition" read record
  return (condition, ← readMember "then" read record)

/-- Reads a conditional, whose clauses have to agree with each other and with its type. -/
def conditionalOfWire (read : Reader Expression) : Reader Expression := fun value => do
  let record := value.record ["clauses", "otherwise", "type"]
  let clauses ← readMember "clauses" (readList (clauseOfWire read)) record
  let otherwise ← readMember "otherwise" read record
  let type ← readMember "type" DataType.ofWire record
  -- the type is derived again, and the one that is written has to be the same
  let built ← checked (conditional clauses otherwise)
  if built.type = type then return built
  else throw (.plan (.branchTypeMismatch built.type type))

/-- Reads the content of an expression of a form, given a reader of its parts. -/
def ofContent (read : Reader Expression) (form : String) (content : Value) :
    Except Fault Expression :=
  match form with
  | "Literal" => (Literal.ofWire content).map literal
  | "FieldReference" => (FieldReference.ofWire content).map field
  | "ScalarFunction" => do
    let record := content.record ["function", "arguments", "output_type"]
    let function ← readMember "function" FunctionReference.ofWire record
    let arguments ← readMember "arguments" (readList read) record
    return call function arguments (← readMember "output_type" DataType.ofWire record)
  | "Cast" => do
    let record := content.record ["input", "type"]
    let input ← readMember "input" read record
    return cast input (← readMember "type" DataType.ofWire record)
  | "IfThen" => conditionalOfWire read content
  | _ => .error .malformed

/-- Reads an expression that takes at most the given number of levels. -/
def ofWireWithin : (depth : Nat) → Reader Expression
  | 0, _ => .error .malformed
  | depth + 1, value => do
    match ← readChoice value with
    | (form, some content) => ofContent (ofWireWithin depth) form content
    | _ => throw .malformed

/-- Reads an expression. No expression takes more levels than its wire form has. -/
def ofWire : Reader Expression := fun value => ofWireWithin value.depth value

end Expression

/-- Reads a call of an aggregate function. -/
def AggregateCall.ofWire : Reader AggregateCall := fun value => do
  let record := value.record ["function", "arguments", "output_type", "phase", "invocation"]
  let function ← readMember "function" FunctionReference.ofWire record
  let arguments ← readMember "arguments" (readList Expression.ofWire) record
  let type ← readMember "output_type" DataType.ofWire record
  let phase ← readMember "phase" (readNamed AggregationPhase.wireName AggregationPhase.all) record
  let scope ←
    readMember "invocation" (readNamed AggregationScope.wireName AggregationScope.members) record
  return { function, arguments, type, phase, scope }

/-- Reads a measure. -/
def Measure.ofWire : Reader Measure := fun value => do
  let record := value.record ["function", "pre_measure_filter"]
  let call ← readMember "function" AggregateCall.ofWire record
  return ⟨call, ← readOptional "pre_measure_filter" Expression.ofWire record⟩

/-- Reads a grouping. -/
def Grouping.ofWire : Reader Grouping := fun value =>
  readMember "expressions" (readList Expression.ofWire) (value.record ["expressions"])

/-- Reads the order of a sort key. -/
def SortDirection.ofWire : Reader SortDirection := readNamed wireName all

/-- Reads a sort key. -/
def SortKey.ofWire : Reader SortKey := fun value => do
  let record := value.record ["expression", "direction"]
  let expression ← readMember "expression" Expression.ofWire record
  return ⟨expression, ← readMember "direction" SortDirection.ofWire record⟩

/-- Reads a type of join. -/
def JoinType.ofWire : Reader JoinType := readNamed wireName all

/-- Reads a set operation. -/
def SetOperation.ofWire : Reader SetOperation := readNamed wireName all

/-- Reads a column with its type. -/
def Schema.columnOfWire : Reader (String × DataType) := fun value => do
  let record := value.record ["name", "type"]
  let name ← readMember "name" readString record
  return (name, ← readMember "type" DataType.ofWire record)

/-- Reads a kind of function. -/
def FunctionKind.ofWire : Reader FunctionKind := readNamed name all

/-- Reads a return rule. -/
def ReturnRule.ofWire : Reader ReturnRule := fun value => do
  match ← readChoice value with
  | ("fixed", some content) => (DataType.ofWire content).map fixed
  | ("argument", some content) => (readNatural content).map argument
  | ("derived", some content) => do
    let record := content.record ["argument", "template"]
    let index ← readMember "argument" readNatural record
    return derived index (← readMember "template" Template.ofWire record)
  | _ => throw .malformed

/-- Reads the rule for the nullability of a result, which need not be written. -/
def NullabilityRule.ofMember (value : Value) : Except Fault NullabilityRule :=
  match value.member? "nullability" with
  | some written => readNamed wireName all written
  | none => .ok .fromArguments

/-- Reads a signature. -/
def Signature.ofWire : Reader Signature := fun value => do
  let record := value.recordWith ["name", "kind", "args", "return_type"] ["nullability"]
  let name ← readMember "name" readString record
  let kind ← readMember "kind" FunctionKind.ofWire record
  let parameters ← readMember "args" (readList Template.ofWire) record
  let returns ← readMember "return_type" ReturnRule.ofWire record
  let nullability ← NullabilityRule.ofMember record
  return { name, kind, parameters, returns, nullability }

end QueryPlan

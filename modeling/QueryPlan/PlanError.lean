import QueryPlan.DataType.Printer
import QueryPlan.Template.Printer
import QueryPlan.DataType.Error
import QueryPlan.Expression.Value

/-! # Faults in plans
What can be wrong with an expression, a function call, a schema or a node of a plan. Each cause
carries the values that its message names; `PlanError.message` words them. -/

namespace QueryPlan

/-- The kinds of functions. -/
inductive FunctionKind
  /-- A function of the values of one row. -/
  | scalar
  /-- A function of the values of many rows. -/
  | aggregate
  deriving DecidableEq

/-- The word for a kind of function. -/
def FunctionKind.name : FunctionKind → String
  | scalar => "scalar"
  | aggregate => "aggregate"

/-- The kinds of plan nodes. -/
inductive NodeKind
  /-- The rows of a named table. -/
  | namedScan
  /-- The rows that satisfy a condition. -/
  | filter
  /-- The rows with computed fields added. -/
  | project
  /-- The rows in another order. -/
  | sort
  /-- A section of the rows. -/
  | fetch
  /-- All pairs of rows. -/
  | cross
  /-- The pairs of rows that satisfy a condition. -/
  | join
  /-- The rows of several inputs taken together. -/
  | set
  /-- One row for each group of rows. -/
  | aggregate
  deriving DecidableEq

/-- The name of a kind of node. -/
def NodeKind.name : NodeKind → String
  | namedScan => "NamedScan"
  | filter => "Filter"
  | project => "Project"
  | sort => "Sort"
  | fetch => "Fetch"
  | cross => "Cross"
  | join => "Join"
  | set => "Set"
  | aggregate => "Aggregate"

/-- The parts of a node without which it cannot be built. -/
inductive NodePart
  /-- The schema of a table. -/
  | schema
  /-- The name of a table. -/
  | names
  /-- The only input. -/
  | input
  /-- A condition. -/
  | condition
  /-- The first of two inputs. -/
  | left
  /-- The second of two inputs. -/
  | right
  /-- The type of a join. -/
  | joinType
  /-- The operation of a set node. -/
  | operation
  deriving DecidableEq

/-- The name of a part of a node. -/
def NodePart.name : NodePart → String
  | schema => "schema"
  | names => "names"
  | input => "input"
  | condition => "condition"
  | left => "left"
  | right => "right"
  | joinType => "join_type"
  | operation => "op"

/-- The places where an expression has to be boolean. -/
inductive PredicatePlace
  /-- The condition of a clause of a conditional. -/
  | ifThenCondition
  /-- The condition of a filter. -/
  | filterCondition
  /-- The condition of a join. -/
  | joinCondition
  /-- The filter behind a join. -/
  | postJoinFilter
  /-- The filter in front of a measure. -/
  | measureFilter
  deriving DecidableEq

/-- The name of a place where an expression has to be boolean. -/
def PredicatePlace.name : PredicatePlace → String
  | ifThenCondition => "IfThen condition"
  | filterCondition => "Filter condition"
  | joinCondition => "Join condition"
  | postJoinFilter => "Post-join filter"
  | measureFilter => "Measure filter"

/-- The two bounds of a section of rows. -/
inductive FetchBound
  /-- The number of rows left out in front. -/
  | offset
  /-- The number of rows kept. -/
  | count
  deriving DecidableEq

/-- The name of a bound. -/
def FetchBound.name : FetchBound → String
  | offset => "offset"
  | count => "count"

/-- Why a value and a type do not make a literal. -/
inductive LiteralFault
  /-- More characters than any length can state. -/
  | tooLong
  /-- More characters than the stated length. -/
  | exceedsLength (value : String) (length : UInt32)
  /-- Not a value of the type. -/
  | notOfType (value : LiteralValue) (type : DataType)
  deriving DecidableEq

/-- Why a return rule gives no type. -/
inductive ReturnFault
  /-- The rule names an argument that is not there. -/
  | missingArgument (index : Nat)
  /-- The argument does not fit the template of the rule. -/
  | notCoercible (source : DataType) (target : Template)
  deriving DecidableEq

/-- Why the inputs of a set operation do not line up. -/
inductive SetFault
  /-- There is no input. -/
  | noInput
  /-- There is one input only. -/
  | singleInput
  /-- An input has another number of fields than the first one. -/
  | width (input found expected : Nat)
  /-- A field of an input has another shape than in the first one. -/
  | shape (field : Nat) (expected found : DataType) (input : Nat)
  deriving DecidableEq

/-- Why columns do not make a schema. -/
inductive SchemaFault
  /-- The numbers of names and types differ. -/
  | count (names types : Nat)
  /-- A name is blank. -/
  | blankName (column : Nat)
  deriving DecidableEq

/-- What is wrong with a plan or a part of it. -/
inductive PlanError
  /-- A part of a node is missing. -/
  | missingField (node : NodeKind) (part : NodePart)
  /-- A field reference behind the last field. -/
  | fieldOutOfBounds (offset width : Nat)
  /-- A field reference with another type than the field. -/
  | fieldTypeMismatch (offset : Nat) (expected found : DataType)
  /-- A condition that is not boolean. -/
  | nonBooleanCondition (place : PredicatePlace) (found : DataType)
  /-- An aggregate without any grouping. -/
  | emptyGroupings
  /-- A call with the wrong number of arguments. -/
  | arityMismatch (function : String) (expected found : Nat)
  /-- A call with an argument that does not fit its parameter. -/
  | argumentType (function : String) (index : Nat) (expected : Template) (found : DataType)
  /-- A call that no overload accepts. -/
  | noMatchingFunction (kind : FunctionKind) (name : String) (arguments : List DataType)
  /-- A return rule that gives no type. -/
  | unresolvedReturnType (function : String) (fault : ReturnFault)
  /-- Inputs of a set operation that do not line up. -/
  | setInputMismatch (fault : SetFault)
  /-- Columns that do not make a schema. -/
  | invalidSchema (fault : SchemaFault)
  /-- A negative bound of a section of rows. -/
  | invalidFetch (bound : FetchBound) (value : Int)
  /-- A branch of another type than the conditional. -/
  | branchTypeMismatch (expected found : DataType)
  /-- A value that does not fit the type of its literal. -/
  | invalidLiteral (fault : LiteralFault)
  /-- A type with a fault. -/
  | type (error : TypeError)
  /-- A schema document that cannot be read; the cause is known if it is a type. -/
  | schemaDocument (cause : Option TypeError)
  deriving DecidableEq

/-- The explanation of a fault in a literal. -/
def LiteralFault.message : LiteralFault → String
  | tooLong => "character literal is too long"
  | exceedsLength value length => s!"'{value}' is longer than varchar<{length}>"
  | notOfType value type => s!"{value.text} is not a valid {type.text} value"

/-- The explanation of a fault in a return rule. -/
def ReturnFault.message : ReturnFault → String
  | missingArgument index => s!"return rule refers to missing argument {index}"
  | notCoercible source target => s!"{source.text} cannot be coerced onto {target.text}"

/-- The explanation of a fault in the inputs of a set operation. -/
def SetFault.message : SetFault → String
  | noInput => "a set operation needs at least two inputs, found none"
  | singleInput => "a set operation needs at least two inputs, found one"
  | width input found expected =>
    s!"input {input} has {found} field(s), input 0 has {expected}"
  | shape field expected found input =>
    s!"field {field} is {expected.text} in input 0 but {found.text} in input {input}"

/-- The explanation of a fault in the columns of a schema. -/
def SchemaFault.message : SchemaFault → String
  | count names types => s!"{names} name(s) for {types} type(s)"
  | blankName column => s!"column {column} has an empty name"

namespace PlanError

/-- The code that stands in front of a message. -/
def code : PlanError → String
  | missingField .. => "P001"
  | fieldOutOfBounds .. => "P002"
  | fieldTypeMismatch .. => "P003"
  | nonBooleanCondition .. => "P004"
  | emptyGroupings => "P005"
  | arityMismatch .. => "P006"
  | argumentType .. => "P007"
  | noMatchingFunction .. => "P008"
  | unresolvedReturnType .. => "P009"
  | setInputMismatch .. => "P010"
  | invalidSchema .. => "P011"
  | invalidFetch .. => "P012"
  | branchTypeMismatch .. => "P013"
  | invalidLiteral .. => "P014"
  | type .. => "P015"
  | schemaDocument .. => "P016"

/-- The explanation without its code. -/
def explanation : PlanError → String
  | missingField node part => s!"{node.name} requires '{part.name}' to be set"
  | fieldOutOfBounds offset width =>
    s!"Field reference ${offset} is out of bounds for an input of {width} field(s)"
  | fieldTypeMismatch offset expected found =>
    s!"Field reference ${offset} is typed {found.text} but the input field is {expected.text}"
  | nonBooleanCondition place found => s!"{place.name} must be boolean, found {found.text}"
  | emptyGroupings =>
    "Aggregate requires at least one grouping; use an empty grouping for whole-input aggregation"
  | arityMismatch function expected found =>
    s!"Function '{function}' takes {expected} argument(s), found {found}"
  | argumentType function index expected found =>
    s!"Argument {index} of '{function}' has type {found.text}, expected {expected.text}"
  | noMatchingFunction kind name arguments =>
    s!"No {kind.name} function '{name}' accepts (" ++
      ", ".intercalate (arguments.map DataType.text) ++ ")"
  | unresolvedReturnType function fault =>
    s!"Cannot resolve return type of '{function}': {fault.message}"
  | setInputMismatch fault => s!"Set operation inputs do not line up: {fault.message}"
  | invalidSchema fault => s!"Invalid schema: {fault.message}"
  | invalidFetch bound value => s!"Fetch {bound.name} must not be negative, found {value}"
  | branchTypeMismatch expected found =>
    s!"Branch of type {found.text} does not match {expected.text}"
  | invalidLiteral fault => s!"Invalid literal: {fault.message}"
  | type error => s!"Type error: {error.message}"
  | schemaDocument cause =>
    s!"Schema parse error: " ++ (cause.elim "malformed document" TypeError.message)

/-- The full message: code and explanation. -/
def message (error : PlanError) : String := s!"[{error.code}] {error.explanation}"

end PlanError

/-- A fault in a type is a fault in the plan that holds it. -/
def liftType (result : Except TypeError α) : Except PlanError α := result.mapError PlanError.type

end QueryPlan

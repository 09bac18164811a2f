import QueryPlan.Expression.Validation

/-! # Calls of aggregate functions
A call of an aggregate function names the function, its arguments and its type, and says which part of
a distributed aggregation it performs and whether equal argument rows count once. A **measure** is such
a call with a filter on the rows it sees, a **grouping** a list of expressions that rows are grouped by. -/

namespace QueryPlan

/-- Which part of a distributed aggregation a call performs. -/
inductive AggregationPhase
  /-- From rows to partial results. -/
  | initialToIntermediate
  /-- From partial results to partial results. -/
  | intermediateToIntermediate
  /-- From rows to the result. -/
  | initialToResult
  /-- From partial results to the result. -/
  | intermediateToResult
  deriving DecidableEq

instance : Inhabited AggregationPhase := ⟨.initialToResult⟩

/-- Which rows a call sees. -/
inductive AggregationScope
  /-- Every row. -/
  | all
  /-- One row for each list of arguments. -/
  | distinct
  deriving DecidableEq, Inhabited

/-- A **call of an aggregate function**. -/
structure AggregateCall where
  /-- The overload that is called. -/
  function : FunctionReference
  /-- The arguments, over the fields of the input. -/
  arguments : List Expression
  /-- The type of the result. -/
  type : DataType
  /-- The part of the aggregation. -/
  phase : AggregationPhase := .initialToResult
  /-- The rows that count. -/
  scope : AggregationScope := .all
  deriving DecidableEq, Inhabited

namespace AggregateCall

/-- Checks the field references of the arguments. -/
def validate (input : List DataType) (call : AggregateCall) : Except PlanError Unit :=
  Expression.validateAll input call.arguments

/-- The text of a call. -/
def text (call : AggregateCall) : String :=
  let scope := if call.scope = .distinct then "DISTINCT " else ""
  call.function.name ++ "(" ++ scope ++ ", ".intercalate (Expression.texts call.arguments) ++ ")"

end AggregateCall

/-- A **measure**: a call of an aggregate function over the rows that pass a filter. -/
structure Measure where
  /-- The call. -/
  call : AggregateCall
  /-- The condition on the rows, if there is one. -/
  filter : Option Expression
  deriving DecidableEq, Inhabited

/-- Checks the call of a measure and then its filter. -/
def Measure.validate (input : List DataType) (measure : Measure) : Except PlanError Unit := do
  measure.call.validate input
  match measure.filter with
  | some filter => filter.validatePredicate input .measureFilter
  | none => return ()

/-- A **grouping**: the expressions that tell groups of rows apart. -/
abbrev Grouping := List Expression

end QueryPlan

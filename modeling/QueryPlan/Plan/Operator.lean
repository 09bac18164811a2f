import QueryPlan.Expression.AggregateCall

/-! # Operators of plan nodes
What a plan node does with the rows of its inputs, apart from the inputs themselves. Each operator
gives the types of its output fields from those of its inputs (`outputFields`), and checks that the
expressions it holds are valid over the rows they are computed on (`check`). -/

namespace QueryPlan

/-! ## Sort keys -/

/-- The order of rows by a sort key. -/
inductive SortDirection
  /-- Rising, nulls in front. -/
  | ascendingNullsFirst
  /-- Rising, nulls at the end. -/
  | ascendingNullsLast
  /-- Falling, nulls in front. -/
  | descendingNullsFirst
  /-- Falling, nulls at the end. -/
  | descendingNullsLast
  /-- Equal keys together, in any order. -/
  | clustered
  deriving DecidableEq, Inhabited

/-- The words for an order. -/
def SortDirection.text : SortDirection → String
  | ascendingNullsFirst => "ASC NULLS FIRST"
  | ascendingNullsLast => "ASC NULLS LAST"
  | descendingNullsFirst => "DESC NULLS FIRST"
  | descendingNullsLast => "DESC NULLS LAST"
  | clustered => "CLUSTERED"

/-- A **sort key**: an expression with the order of its values. -/
structure SortKey where
  /-- The expression. -/
  expression : Expression
  /-- The order. -/
  direction : SortDirection
  deriving DecidableEq, Inhabited

/-! ## Joins -/

/-- The types of joins. -/
inductive JoinType
  /-- The matching pairs. -/
  | inner
  /-- The matching pairs, and the left rows that match nothing. -/
  | left
  /-- The matching pairs, and the right rows that match nothing. -/
  | right
  /-- The matching pairs, and the rows of either side that match nothing. -/
  | outer
  /-- The left rows that match something. -/
  | leftSemi
  /-- The left rows that match nothing. -/
  | leftAnti
  /-- The right rows that match something. -/
  | rightSemi
  /-- The right rows that match nothing. -/
  | rightAnti
  deriving DecidableEq, Inhabited

namespace JoinType

/-- The words for a type of join. -/
def text : JoinType → String
  | inner => "INNER"
  | left => "LEFT"
  | right => "RIGHT"
  | outer => "FULL OUTER"
  | leftSemi => "LEFT SEMI"
  | leftAnti => "LEFT ANTI"
  | rightSemi => "RIGHT SEMI"
  | rightAnti => "RIGHT ANTI"

/-- The fields of the rows that a join gives. The fields of a side that may be missing from a row are
nullable, and a join that keeps one side only has the fields of that side. -/
def outputFields (type : JoinType) (leftFields rightFields : List DataType) : List DataType :=
  match type with
  | inner => leftFields ++ rightFields
  | left => leftFields ++ rightFields.map DataType.asNullable
  | right => leftFields.map DataType.asNullable ++ rightFields
  | outer => leftFields.map DataType.asNullable ++ rightFields.map DataType.asNullable
  | leftSemi | leftAnti => leftFields
  | rightSemi | rightAnti => rightFields

end JoinType

/-! ## Set operations -/

/-- Which rows a set operation keeps. -/
inductive SetKind
  /-- The rows of the first input that are in no other. -/
  | minus
  /-- The rows that are in every input. -/
  | intersection
  /-- The rows that are in some input. -/
  | union
  deriving DecidableEq, Inhabited

/-- A **set operation**: which rows are kept, and whether equal rows are. -/
structure SetOperation where
  /-- Which rows are kept. -/
  kind : SetKind
  /-- Whether equal rows count as many times as they occur. -/
  keepsDuplicates : Bool
  deriving DecidableEq, Inhabited

namespace SetOperation

/-- The words for a set operation. -/
def text (operation : SetOperation) : String :=
  let word := match operation.kind with
    | .minus => "MINUS"
    | .intersection => "INTERSECT"
    | .union => "UNION"
  if operation.keepsDuplicates then word ++ " ALL" else word

/-- Whether a field of the result may be null, given whether it may be in each input. -/
def fieldNullability (operation : SetOperation) (perInput : List Nullability) : Nullability :=
  match operation.kind with
  | .union => .ofBool (perInput.any Nullability.isNullable)
  | .intersection => .ofBool (!perInput.isEmpty && perInput.all Nullability.isNullable)
  | .minus => perInput.headD .required

/-- The fault of the field types of an input at position `input` that do not line up with those of the
first input, compared from field `index` on. -/
def fieldFault? (input index : Nat) : List DataType → List DataType → Option SetFault
  | expected :: firsts, found :: fields =>
    if DataType.SameShape expected found then fieldFault? input (index + 1) firsts fields
    else some (.shape index expected found input)
  | _, _ => none

/-- The fault of the first input at fault, from position `input` on. -/
def inputFault? (first : List DataType) (input : Nat) : List (List DataType) → Option SetFault
  | [] => none
  | fields :: rest =>
    if fields.length = first.length then
      (fieldFault? input 0 first fields).or (inputFault? first (input + 1) rest)
    else some (.width input fields.length first.length)

/-- Why inputs with the given fields do not line up, if they do not. -/
def fault? : List (List DataType) → Option SetFault
  | [] => some .noInput
  | [_] => some .singleInput
  | first :: rest => inputFault? first 1 rest

/-- Checks that inputs with the given fields line up. -/
def check (inputs : List (List DataType)) : Except PlanError Unit :=
  match fault? inputs with
  | some fault => .error (.setInputMismatch fault)
  | none => .ok ()

/-- The nullabilities of a field in all inputs. -/
def column (inputs : List (List DataType)) (index : Nat) : List Nullability :=
  inputs.filterMap fun fields => fields[index]?.map DataType.nullability

/-- The fields of the result: those of the first input, with the nullability that all inputs give. -/
def outputFields (operation : SetOperation) (inputs : List (List DataType)) : List DataType :=
  (inputs.headD []).mapIdx fun index type =>
    type.withNullability (operation.fieldNullability (column inputs index))

end SetOperation

/-! ## Operators of one input -/

/-- An **operator of one input**. -/
inductive UnaryOperator
  /-- Keeps the rows that satisfy a condition. -/
  | filter (condition : Expression)
  /-- Adds computed fields to each row. -/
  | project (expressions : List Expression)
  /-- Brings the rows into an order. -/
  | sort (keys : List SortKey)
  /-- Leaves rows out in front, and keeps at most `count` of the others. -/
  | fetch (offset : Int) (count : Option Int)
  /-- Gives one row for each group, once for each grouping. -/
  | aggregate (groupings : List Grouping) (measures : List Measure)
  deriving DecidableEq

namespace UnaryOperator

/-- The kind of node that an operator makes. -/
def kind : UnaryOperator → NodeKind
  | filter _ => .filter
  | project _ => .project
  | sort _ => .sort
  | fetch _ _ => .fetch
  | aggregate _ _ => .aggregate

/-- The expressions of all groupings, each once, in the order of their first occurrence. -/
def groupingKeys (groupings : List Grouping) : List Expression := groupings.flatten.eraseDups

/-- The fields of the result of an aggregate: its grouping keys, its measures, and with more than one
grouping the number of the grouping. -/
def aggregateFields (groupings : List Grouping) (measures : List Measure) : List DataType :=
  (groupingKeys groupings).map Expression.type ++
    measures.map (fun measure => measure.call.type) ++
    if 1 < groupings.length then [.plain .i32] else []

/-- The fields of the rows that an operator gives. -/
def outputFields (operator : UnaryOperator) (input : List DataType) : List DataType :=
  match operator with
  | filter _ | sort _ | fetch _ _ => input
  | project expressions => input ++ expressions.map Expression.type
  | aggregate groupings measures => aggregateFields groupings measures

/-- Checks the bounds of a section of rows. -/
def checkFetch (offset : Int) (count : Option Int) : Except PlanError Unit :=
  if offset < 0 then .error (.invalidFetch .offset offset)
  else match count with
    | some count => if count < 0 then .error (.invalidFetch .count count) else .ok ()
    | none => .ok ()

/-- Checks a list of measures. -/
def checkMeasures (input : List DataType) : List Measure → Except PlanError Unit
  | [] => .ok ()
  | measure :: measures => do
    measure.validate input
    checkMeasures input measures

/-- Checks an operator over input rows with the given fields. -/
def check (operator : UnaryOperator) (input : List DataType) : Except PlanError Unit :=
  match operator with
  | filter condition => condition.validatePredicate input .filterCondition
  | project expressions => Expression.validateAll input expressions
  | sort keys => Expression.validateAll input (keys.map SortKey.expression)
  | fetch offset count => checkFetch offset count
  | aggregate groupings measures => do
    -- one grouping without expressions is allowed: it groups all rows together
    if groupings.isEmpty then throw .emptyGroupings
    Expression.validateAll input groupings.flatten
    checkMeasures input measures

end UnaryOperator

/-! ## Operators of two inputs -/

/-- An **operator of two inputs**. -/
inductive BinaryOperator
  /-- Gives all pairs of rows. -/
  | cross
  /-- Gives the pairs that satisfy a condition, and by its type unmatched rows; a filter may keep some
  of the rows that result. -/
  | join (type : JoinType) (condition : Expression) (postFilter : Option Expression)
  deriving DecidableEq

namespace BinaryOperator

/-- The kind of node that an operator makes. -/
def kind : BinaryOperator → NodeKind
  | cross => .cross
  | join _ _ _ => .join

/-- The fields of the rows that an operator gives. -/
def outputFields (operator : BinaryOperator) (left right : List DataType) : List DataType :=
  match operator with
  | cross => left ++ right
  | join type _ _ => type.outputFields left right

/-- Checks an operator over input rows with the given fields. The condition of a join sees the pairs of
rows, its filter the rows that result. -/
def check (operator : BinaryOperator) (left right : List DataType) : Except PlanError Unit :=
  match operator with
  | cross => .ok ()
  | join type condition postFilter => do
    condition.validatePredicate (left ++ right) .joinCondition
    match postFilter with
    | some filter => filter.validatePredicate (type.outputFields left right) .postJoinFilter
    | none => return ()

end BinaryOperator

end QueryPlan

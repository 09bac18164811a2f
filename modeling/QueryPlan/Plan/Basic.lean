import QueryPlan.Plan.Operator
import QueryPlan.Schema.Basic

/-! # Plans
A plan is a tree of nodes. A leaf scans a table; an inner node applies an operator to the rows of its
inputs. Each node keeps the fields of the rows it gives, which are computed once, when the node is
built. The constructors `Plan.scanTable`, `Plan.apply`, `Plan.combine` and `Plan.merge` build a node
from inputs that fit it and refuse all others. -/

namespace QueryPlan

/-- A **plan**. -/
inductive Plan
  /-- The rows of a table. -/
  | scan (names : List String) (schema : Schema) (fields : List DataType)
  /-- An operator of one input. -/
  | unary (operator : UnaryOperator) (input : Plan) (fields : List DataType)
  /-- An operator of two inputs. -/
  | binary (operator : BinaryOperator) (left right : Plan) (fields : List DataType)
  /-- A set operation over several inputs. -/
  | set (operation : SetOperation) (inputs : List Plan) (fields : List DataType)
  deriving Inhabited

namespace Plan

/-! ## Equality -/

mutual

/-- Whether two plans agree at every node. -/
def same : Plan → Plan → Bool
  | scan left leftSchema leftFields, scan right rightSchema rightFields =>
    left = right && leftSchema = rightSchema && leftFields = rightFields
  | unary left leftInput leftFields, unary right rightInput rightFields =>
    left = right && same leftInput rightInput && leftFields = rightFields
  | binary left leftFirst leftSecond leftFields, binary right rightFirst rightSecond rightFields =>
    left = right && same leftFirst rightFirst && same leftSecond rightSecond &&
      leftFields = rightFields
  | set left leftInputs leftFields, set right rightInputs rightFields =>
    left = right && sameList leftInputs rightInputs && leftFields = rightFields
  | _, _ => false

/-- Whether two lists of plans agree member by member. -/
def sameList : List Plan → List Plan → Bool
  | [], [] => true
  | left :: lefts, right :: rights => same left right && sameList lefts rights
  | _, _ => false

end

mutual

/-- Plans that agree at every node are equal. -/
theorem same_iff : ∀ left right : Plan, same left right = true ↔ left = right
  | scan _ _ _, right => by cases right <;> simp [same, and_assoc]
  | unary _ input _, right => by cases right <;> simp [same, same_iff input, and_assoc]
  | binary _ first second _, right => by
    cases right <;> simp [same, same_iff first, same_iff second, and_assoc]
  | set _ inputs _, right => by cases right <;> simp [same, sameList_iff inputs, and_assoc]

/-- Lists of plans that agree member by member are equal. -/
theorem sameList_iff : ∀ lefts rights : List Plan, sameList lefts rights = true ↔ lefts = rights
  | [], rights => by cases rights <;> simp [sameList]
  | left :: lefts, rights => by
    cases rights <;> simp [sameList, same_iff left, sameList_iff lefts]

end

/-- Equality of plans is decided node by node. -/
instance : DecidableEq Plan := fun left right =>
  decidable_of_iff (same left right = true) (same_iff left right)

/-! ## Views -/

/-- The fields of the rows that a plan gives. -/
def fields : Plan → List DataType
  | scan _ _ fields | unary _ _ fields | binary _ _ _ fields | set _ _ fields => fields

/-- The type of the rows that a plan gives: a required struct of its fields. -/
def rowType (plan : Plan) : DataType := .struct plan.fields .required

/-- The kind of the node at the root. -/
def kind : Plan → NodeKind
  | scan _ _ _ => .namedScan
  | unary operator _ _ => operator.kind
  | binary operator _ _ _ => operator.kind
  | set _ _ _ => .set

/-- The name of the node at the root. -/
def name (plan : Plan) : String := plan.kind.name

/-- The inputs of the node at the root, from left to right. -/
def inputs : Plan → List Plan
  | scan _ _ _ => []
  | unary _ input _ => [input]
  | binary _ left right _ => [left, right]
  | set _ inputs _ => inputs

/-! ## Building -/

/-- A scan of a table, whose name has at least one part and no blank one. -/
def scanTable (names : List String) (schema : Schema) : Except PlanError Plan :=
  if names.isEmpty || names.any Schema.isBlankName then .error (.missingField .namedScan .names)
  else .ok (scan names schema schema.types)

/-- An operator of one input, checked against the fields of the input. -/
def apply (operator : UnaryOperator) (input : Plan) : Except PlanError Plan := do
  operator.check input.fields
  return unary operator input (operator.outputFields input.fields)

/-- An operator of two inputs, checked against their fields. -/
def combine (operator : BinaryOperator) (left right : Plan) : Except PlanError Plan := do
  operator.check left.fields right.fields
  return binary operator left right (operator.outputFields left.fields right.fields)

/-- A set operation over inputs that line up. -/
def merge (operation : SetOperation) (inputs : List Plan) : Except PlanError Plan := do
  SetOperation.check (inputs.map fields)
  return set operation inputs (operation.outputFields (inputs.map fields))

end Plan

end QueryPlan

import QueryPlan.Plan.Basic

/-! # Drafts of plan nodes
A draft is a node under construction, in which parts may still be missing. Building it asks for the
parts in a fixed order, reports the first one missing, and then builds the node from its inputs. -/

namespace QueryPlan

/-- A **draft** of a plan node. -/
inductive Draft
  /-- A scan of a table. -/
  | scan (names : List String) (schema : Option Schema)
  /-- A filter. -/
  | filter (input : Option Plan) (condition : Option Expression)
  /-- A projection. -/
  | project (input : Option Plan) (expressions : List Expression)
  /-- A sort. -/
  | sort (input : Option Plan) (keys : List SortKey)
  /-- A section of rows. -/
  | fetch (input : Option Plan) (offset : Int) (count : Option Int)
  /-- A product of two inputs. -/
  | cross (left right : Option Plan)
  /-- A join. -/
  | join (left right : Option Plan) (type : Option JoinType)
    (condition postFilter : Option Expression)
  /-- A set operation. -/
  | set (inputs : List Plan) (operation : Option SetOperation)
  /-- An aggregate. -/
  | aggregate (input : Option Plan) (groupings : List Grouping) (measures : List Measure)

namespace Draft

/-- The kind of node that a draft is for. -/
def kind : Draft → NodeKind
  | scan _ _ => .namedScan
  | filter _ _ => .filter
  | project _ _ => .project
  | sort _ _ => .sort
  | fetch _ _ _ => .fetch
  | cross _ _ => .cross
  | join _ _ _ _ _ => .join
  | set _ _ => .set
  | aggregate _ _ _ => .aggregate

/-- A part that has to be there. -/
def require (draft : Draft) (part : NodePart) : Option α → Except PlanError α
  | some value => .ok value
  | none => .error (.missingField draft.kind part)

/-- Builds the node of a draft. -/
def build (draft : Draft) : Except PlanError Plan :=
  match draft with
  | scan names schema => do
    let schema ← draft.require .schema schema
    Plan.scanTable names schema
  | filter input condition => do
    let input ← draft.require .input input
    let condition ← draft.require .condition condition
    Plan.apply (.filter condition) input
  | project input expressions => do
    let input ← draft.require .input input
    Plan.apply (.project expressions) input
  | sort input keys => do
    let input ← draft.require .input input
    Plan.apply (.sort keys) input
  | fetch input offset count => do
    let input ← draft.require .input input
    Plan.apply (.fetch offset count) input
  | cross left right => do
    let left ← draft.require .left left
    let right ← draft.require .right right
    Plan.combine .cross left right
  | join left right type condition postFilter => do
    let left ← draft.require .left left
    let right ← draft.require .right right
    let type ← draft.require .joinType type
    let condition ← draft.require .condition condition
    Plan.combine (.join type condition postFilter) left right
  | set inputs operation => do
    let operation ← draft.require .operation operation
    Plan.merge operation inputs
  | aggregate input groupings measures => do
    let input ← draft.require .input input
    Plan.apply (.aggregate groupings measures) input

end Draft

end QueryPlan

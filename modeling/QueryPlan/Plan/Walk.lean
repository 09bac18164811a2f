import QueryPlan.Plan.Basic

/-! # Walks through plans
A walk visits the nodes of a plan from the root on, each node before its inputs and the inputs from left
to right, and knows the depth of each node. It counts the nodes, and stops at the first node of a
refused name. -/

namespace QueryPlan

/-- A **visit**: a node with its depth below the root. -/
structure Visit where
  /-- The depth. -/
  depth : Nat
  /-- The plan whose root is visited. -/
  plan : Plan

namespace Plan

mutual

/-- The visits to the nodes of a plan whose root is at a depth. -/
def visitsAt (depth : Nat) : Plan → List Visit
  | scan names schema fields => [⟨depth, scan names schema fields⟩]
  | unary operator input fields =>
    ⟨depth, unary operator input fields⟩ :: visitsAt (depth + 1) input
  | binary operator left right fields =>
    ⟨depth, binary operator left right fields⟩ ::
      (visitsAt (depth + 1) left ++ visitsAt (depth + 1) right)
  | set operation inputs fields =>
    ⟨depth, set operation inputs fields⟩ :: visitsAllAt (depth + 1) inputs

/-- The visits to the nodes of a list of plans whose roots are at a depth. -/
def visitsAllAt (depth : Nat) : List Plan → List Visit
  | [] => []
  | plan :: plans => visitsAt depth plan ++ visitsAllAt depth plans

end

/-- The visits to the nodes of a plan. -/
def visits (plan : Plan) : List Visit := visitsAt 0 plan

end Plan

/-- The text of a visit: depth, name and number of fields. -/
def Visit.text (visit : Visit) : String :=
  s!"{visit.depth} {visit.plan.name} {visit.plan.fields.length}"

/-- The visits that a walk has made, and the node it was refused at, if it was. -/
structure Walk where
  /-- The visits made, the refused one included. -/
  visits : List Visit
  /-- The visit that was refused. -/
  refused : Option Visit

/-- Makes visits up to the first node of a refused name. -/
def Walk.run (refused : Option String) : List Visit → Walk
  | [] => ⟨[], none⟩
  | visit :: rest =>
    if refused = some visit.plan.name then ⟨[visit], some visit⟩
    else
      let walk := run refused rest
      ⟨visit :: walk.visits, walk.refused⟩

/-- Walks through a plan. -/
def Plan.walk (refused : Option String) (plan : Plan) : Walk := Walk.run refused plan.visits

/-- The depth at which a walk ended: back at the root, or at the refused node. -/
def Walk.depth (walk : Walk) : Nat := (walk.refused.map Visit.depth).getD 0

/-- The number of nodes visited, or a complaint about the refused one. -/
def Walk.outcome (walk : Walk) : Except String Nat :=
  match walk.refused with
  | some visit => .error s!"{visit.plan.name} rejected at depth {visit.depth}"
  | none => .ok walk.visits.length

end QueryPlan

import QueryPlan.Plan.Draft
import QueryPlan.Proofs.Outcome

/-! # Built plans
A plan is **built** when it results from a finite composition of successful drafts. What a single
successful draft guarantees of the new node is `Draft.build_eq_ok`: it stands over the inputs of the
draft and is coherent with them. Every subtree of a built plan is built (`Plan.Built.of_at?`), so what
holds of each new node holds at each position of the finished tree. -/

namespace QueryPlan

open Outcome

namespace Draft

/-- The plans that a draft is given as inputs. -/
def inputs : Draft → List Plan
  | scan _ _ => []
  | filter input _ | project input _ | sort input _ | fetch input _ _ | aggregate input _ _ =>
    input.toList
  | cross left right | join left right _ _ _ => left.toList ++ right.toList
  | set inputs _ => inputs

/-- A required part is found exactly when it is there. -/
@[simp] theorem require_eq_ok_iff {α : Type} {draft : Draft} {part : NodePart} {value : Option α}
    {found : α} : draft.require part value = .ok found ↔ value = some found := by
  cases value <;> simp [require]

end Draft

namespace Plan

/-! ## Positions -/

/-- The subtree at a position, which is given by the numbers of the inputs on the way to it. -/
def at? (plan : Plan) : List Nat → Option Plan
  | [] => some plan
  | index :: path => plan.inputs[index]?.bind fun input => input.at? path

@[simp] theorem at?_nil (plan : Plan) : plan.at? [] = some plan := rfl

theorem at?_cons (plan : Plan) (index : Nat) (path : List Nat) :
    plan.at? (index :: path) = plan.inputs[index]?.bind fun input => input.at? path := rfl

/-- A position below the root lies in one of the inputs. -/
theorem at?_cons_eq_some_iff {plan node : Plan} {index : Nat} {path : List Nat} :
    plan.at? (index :: path) = some node ↔
      ∃ input, plan.inputs[index]? = some input ∧ input.at? path = some node := by
  rw [at?_cons, Option.bind_eq_some_iff]

/-! ## Coherence of a node with its inputs -/

/-- The root of a plan is **coherent** when its parameters pass the checks over the fields of its
inputs, and its own fields are the ones derived from those. -/
def RootCoherent : Plan → Prop
  | scan names schema types =>
    (names.isEmpty || names.any Schema.isBlankName) = false ∧ types = schema.types
  | unary operator input types =>
    operator.check input.fields = .ok () ∧ types = operator.outputFields input.fields
  | binary operator left right types =>
    operator.check left.fields right.fields = .ok () ∧
      types = operator.outputFields left.fields right.fields
  | set operation inputs types =>
    SetOperation.check (inputs.map fields) = .ok () ∧
      types = operation.outputFields (inputs.map fields)

/-- A scan is built exactly as a coherent leaf. -/
theorem scanTable_eq_ok_iff {names : List String} {schema : Schema} {plan : Plan} :
    scanTable names schema = .ok plan ↔
      plan = scan names schema schema.types ∧ plan.RootCoherent := by
  unfold scanTable
  split
  · rename_i faulty
    constructor
    · intro built
      cases built
    · rintro ⟨rfl, named, -⟩
      rw [faulty] at named
      cases named
  · rename_i named
    constructor
    · intro built
      cases built
      exact ⟨rfl, by simpa using named, rfl⟩
    · rintro ⟨rfl, -⟩
      rfl

/-- An operator is applied exactly as a coherent node over its input. -/
theorem apply_eq_ok_iff {operator : UnaryOperator} {input plan : Plan} :
    apply operator input = .ok plan ↔
      plan = unary operator input (operator.outputFields input.fields) ∧ plan.RootCoherent := by
  rw [apply, check_then_eq_ok_iff]
  constructor
  · rintro ⟨rfl, passed⟩
    exact ⟨rfl, passed, rfl⟩
  · rintro ⟨rfl, passed, -⟩
    exact ⟨rfl, passed⟩

/-- Two inputs are combined exactly as a coherent node over both. -/
theorem combine_eq_ok_iff {operator : BinaryOperator} {left right plan : Plan} :
    combine operator left right = .ok plan ↔
      plan = binary operator left right (operator.outputFields left.fields right.fields) ∧
        plan.RootCoherent := by
  rw [combine, check_then_eq_ok_iff]
  constructor
  · rintro ⟨rfl, passed⟩
    exact ⟨rfl, passed, rfl⟩
  · rintro ⟨rfl, passed, -⟩
    exact ⟨rfl, passed⟩

/-- Inputs are merged exactly as a coherent node over all of them. -/
theorem merge_eq_ok_iff {operation : SetOperation} {inputs : List Plan} {plan : Plan} :
    merge operation inputs = .ok plan ↔
      plan = set operation inputs (operation.outputFields (inputs.map fields)) ∧
        plan.RootCoherent := by
  rw [merge, check_then_eq_ok_iff]
  constructor
  · rintro ⟨rfl, passed⟩
    exact ⟨rfl, passed, rfl⟩
  · rintro ⟨rfl, passed, -⟩
    exact ⟨rfl, passed⟩

end Plan

/-- **One building step**: a draft that succeeds gives a node over exactly its inputs, coherent with
them. -/
theorem Draft.build_eq_ok {draft : Draft} {plan : Plan} (built : draft.build = .ok plan) :
    plan.inputs = draft.inputs ∧ plan.RootCoherent := by
  -- a draft asks for its required parts first, and leaves the checks to the node it makes of them
  cases draft with
  | scan names schema =>
    simp only [build, bind_eq_ok_iff, require_eq_ok_iff, Plan.scanTable_eq_ok_iff] at built
    obtain ⟨_, rfl, rfl, coherent⟩ := built
    exact ⟨rfl, coherent⟩
  | filter input condition =>
    simp only [build, bind_eq_ok_iff, require_eq_ok_iff, Plan.apply_eq_ok_iff] at built
    obtain ⟨_, rfl, _, rfl, rfl, coherent⟩ := built
    exact ⟨rfl, coherent⟩
  | project input _ | sort input _ | fetch input _ _ | aggregate input _ _ =>
    simp only [build, bind_eq_ok_iff, require_eq_ok_iff, Plan.apply_eq_ok_iff] at built
    obtain ⟨_, rfl, rfl, coherent⟩ := built
    exact ⟨rfl, coherent⟩
  | cross left right =>
    simp only [build, bind_eq_ok_iff, require_eq_ok_iff, Plan.combine_eq_ok_iff] at built
    obtain ⟨_, rfl, _, rfl, rfl, coherent⟩ := built
    exact ⟨rfl, coherent⟩
  | join left right type condition postFilter =>
    simp only [build, bind_eq_ok_iff, require_eq_ok_iff, Plan.combine_eq_ok_iff] at built
    obtain ⟨_, rfl, _, rfl, _, rfl, _, rfl, rfl, coherent⟩ := built
    exact ⟨rfl, coherent⟩
  | set inputs operation =>
    simp only [build, bind_eq_ok_iff, require_eq_ok_iff, Plan.merge_eq_ok_iff] at built
    obtain ⟨_, rfl, rfl, coherent⟩ := built
    exact ⟨rfl, coherent⟩

namespace Plan

/-! ## Finite compositions of building steps -/

/-- A plan is **built** when a draft over built plans results in it. -/
inductive Built : Plan → Prop
  /-- One more building step. -/
  | step {draft : Draft} {plan : Plan} (inputs : ∀ input ∈ draft.inputs, Built input)
    (built : draft.build = .ok plan) : Built plan

namespace Built

/-- The root of a built plan is coherent. -/
theorem rootCoherent {plan : Plan} (built : Built plan) : plan.RootCoherent := by
  obtain ⟨-, step⟩ := built
  exact (Draft.build_eq_ok step).2

/-- The inputs of a built plan are built. -/
theorem of_mem_inputs {plan input : Plan} (built : Built plan) (member : input ∈ plan.inputs) :
    Built input := by
  obtain ⟨inputs, step⟩ := built
  rw [(Draft.build_eq_ok step).1] at member
  exact inputs input member

/-- The subtree at every position of a built plan is built. -/
theorem of_at? {plan node : Plan} {path : List Nat} (built : Built plan)
    (position : plan.at? path = some node) : Built node := by
  induction path generalizing plan with
  | nil =>
    cases position
    exact built
  | cons index path ih =>
    obtain ⟨input, found, below⟩ := at?_cons_eq_some_iff.1 position
    exact ih (built.of_mem_inputs (List.mem_of_getElem? found)) below

end Built

/-! ## Building a node again -/

/-- The draft of the node at the root with its own parameters, over other inputs. -/
def draftOver (inputs : List Plan) : Plan → Draft
  | scan names schema _ => .scan names (some schema)
  | unary (.filter condition) _ _ => .filter inputs[0]? (some condition)
  | unary (.project expressions) _ _ => .project inputs[0]? expressions
  | unary (.sort keys) _ _ => .sort inputs[0]? keys
  | unary (.fetch offset count) _ _ => .fetch inputs[0]? offset count
  | unary (.aggregate groupings measures) _ _ => .aggregate inputs[0]? groupings measures
  | binary .cross _ _ _ => .cross inputs[0]? inputs[1]?
  | binary (.join type condition postFilter) _ _ _ =>
    .join inputs[0]? inputs[1]? (some type) (some condition) postFilter
  | set operation _ _ => .set inputs (some operation)

/-- The draft of a node over its own inputs has these inputs. -/
theorem inputs_draftOver_inputs (plan : Plan) : (plan.draftOver plan.inputs).inputs = plan.inputs := by
  cases plan with
  | scan | set => rfl
  | unary operator input types => cases operator <;> rfl
  | binary operator left right types => cases operator <;> rfl

/-- A coherent node is built again from its own parameters and inputs. -/
theorem RootCoherent.build_draftOver {plan : Plan} (coherent : plan.RootCoherent) :
    (plan.draftOver plan.inputs).build = .ok plan := by
  cases plan with
  | scan names schema types =>
    obtain ⟨named, rfl⟩ := coherent
    exact scanTable_eq_ok_iff.2 ⟨rfl, named, rfl⟩
  | unary operator input types =>
    obtain ⟨passed, rfl⟩ := coherent
    have applied := apply_eq_ok_iff.2 ⟨rfl, (⟨passed, rfl⟩ : RootCoherent (unary operator input _))⟩
    cases operator <;> exact applied
  | binary operator left right types =>
    obtain ⟨passed, rfl⟩ := coherent
    have combined :=
      combine_eq_ok_iff.2 ⟨rfl, (⟨passed, rfl⟩ : RootCoherent (binary operator left right _))⟩
    cases operator <;> exact combined
  | set operation inputs types =>
    obtain ⟨passed, rfl⟩ := coherent
    exact merge_eq_ok_iff.2 ⟨rfl, passed, rfl⟩

/-- **Built plans, node by node**: a plan is built exactly when its root is coherent and its inputs
are built. -/
theorem built_iff {plan : Plan} :
    Built plan ↔ plan.RootCoherent ∧ ∀ input ∈ plan.inputs, Built input := by
  constructor
  · intro built
    exact ⟨built.rootCoherent, fun input => built.of_mem_inputs⟩
  · rintro ⟨coherent, inputs⟩
    -- the parameters of the node make a draft that builds it again
    have drafted : ∀ input ∈ (plan.draftOver plan.inputs).inputs, Built input := by
      rwa [inputs_draftOver_inputs]
    exact .step drafted coherent.build_draftOver

/-! ## A built plan -/

/-- The condition that the first field holds. -/
def firstFieldHolds : Expression := .field ⟨0, .plain .boolean⟩

/-- A scan of a table with one column. -/
def columnScan (table column : String) (type : DataType) : Plan :=
  scan [table] ⟨[column], [type]⟩ [type]

/-- A left join whose condition and filter see different rows. -/
def filteredJoin : Plan :=
  binary (.join .left firstFieldHolds (some firstFieldHolds))
    (columnScan "orders" "paid" (.plain .boolean)) (columnScan "customers" "age" (.plain .i32))
    [.plain .boolean, (DataType.plain .i32).asNullable]

/-- An aggregate with two groupings and a filtered measure over a join. -/
def groupedJoin : Plan :=
  unary (.aggregate [[firstFieldHolds], []]
    [⟨⟨⟨"count", "count:"⟩, [], .plain .i64, .initialToResult, .all⟩, some firstFieldHolds⟩])
    filteredJoin [.plain .boolean, .plain .i64, .plain .i32]

/-- A scan of a named table is built. -/
theorem built_columnScan {table column : String} {type : DataType}
    (named : Schema.isBlankName table = false) : Built (columnScan table column type) :=
  built_iff.2 ⟨⟨by simp [named], rfl⟩, by simp [columnScan, inputs]⟩

theorem built_filteredJoin : Built filteredJoin :=
  built_iff.2 ⟨⟨rfl, rfl⟩, by
    simp [filteredJoin, inputs, built_columnScan (show Schema.isBlankName "orders" = false by decide),
      built_columnScan (show Schema.isBlankName "customers" = false by decide)]⟩

theorem built_groupedJoin : Built groupedJoin :=
  built_iff.2 ⟨⟨rfl, rfl⟩, by simp [groupedJoin, inputs, built_filteredJoin]⟩

end Plan

end QueryPlan

import QueryPlan.Proofs.Plan.Building

/-! # Replacing a subtree
A plan is transformed by putting another plan in the place of a subtree and building the nodes above it
again, each with the parameters it had. `Plan.replaceAt` does so with the drafts of these nodes. The
main result, `Plan.Built.replaceAt_eq_ok`, is that a replacement with the row type of the replaced
subtree always goes through and leaves the row type of every node above it as it was. -/

namespace QueryPlan.Plan

/-- Puts a plan in the place of the subtree at a position and builds the nodes above it again. A
position outside the plan leaves it unchanged. -/
def replaceAt (plan : Plan) (path : List Nat) (replacement : Plan) : Except PlanError Plan :=
  match path with
  | [] => .ok replacement
  | index :: path =>
    match plan.inputs[index]? with
    | none => .ok plan
    | some input => do
      let input ← input.replaceAt path replacement
      (plan.draftOver (plan.inputs.set index input)).build

/-- Replacing below an input builds the root again over the new input. -/
theorem replaceAt_cons {plan input result replacement : Plan} {index : Nat} {path : List Nat}
    (found : plan.inputs[index]? = some input)
    (below : input.replaceAt path replacement = .ok result) :
    plan.replaceAt (index :: path) replacement =
      (plan.draftOver (plan.inputs.set index result)).build := by
  rw [replaceAt, found]
  simp only [below]
  rfl

/-! ## A node depends on the fields of its inputs only -/

/-- The draft of an operator over other inputs does not depend on its own input and fields. -/
theorem draftOver_unary (operator : UnaryOperator) (input other : Plan)
    (types otherTypes : List DataType) (inputs : List Plan) :
    (unary operator input types).draftOver inputs =
      (unary operator other otherTypes).draftOver inputs := by
  cases operator <;> rfl

/-- The draft of an operator over two other inputs does not depend on its own inputs and fields. -/
theorem draftOver_binary (operator : BinaryOperator) (left right otherLeft otherRight : Plan)
    (types otherTypes : List DataType) (inputs : List Plan) :
    (binary operator left right types).draftOver inputs =
      (binary operator otherLeft otherRight otherTypes).draftOver inputs := by
  cases operator <;> rfl

/-- **One node over other inputs.** A coherent node is accepted over any inputs that have the fields of
its own, and keeps its fields and its parameters. -/
theorem RootCoherent.build_draftOver_of_fields_eq {plan : Plan} (coherent : plan.RootCoherent)
    {inputs : List Plan} (same : inputs.map fields = plan.inputs.map fields) :
    ∃ result, (plan.draftOver inputs).build = .ok result ∧ result.inputs = inputs ∧
      result.fields = plan.fields ∧
      ∀ others, result.draftOver others = plan.draftOver others := by
  -- each kind of node fixes how many inputs there are; the node over them is coherent again
  cases plan with
  | scan names schema types =>
    obtain rfl : inputs = [] := List.map_eq_nil_iff.1 same
    exact ⟨_, coherent.build_draftOver, rfl, rfl, fun _ => rfl⟩
  | unary operator input types =>
    obtain ⟨other, rfl, equal⟩ := List.map_eq_singleton_iff.1 same
    have again : (unary operator other types).RootCoherent := by
      rw [RootCoherent, equal]
      exact coherent
    have built := again.build_draftOver
    rw [draftOver_unary operator other input types types] at built
    exact ⟨_, built, rfl, rfl, draftOver_unary operator other input types types⟩
  | binary operator left right types =>
    obtain ⟨otherLeft, rest, rfl, equalLeft, equalRest⟩ := List.map_eq_cons_iff.1 same
    obtain ⟨otherRight, rfl, equalRight⟩ := List.map_eq_singleton_iff.1 equalRest
    have again : (binary operator otherLeft otherRight types).RootCoherent := by
      rw [RootCoherent, equalLeft, equalRight]
      exact coherent
    have built := again.build_draftOver
    rw [draftOver_binary operator otherLeft otherRight left right types types] at built
    exact ⟨_, built, rfl, rfl,
      draftOver_binary operator otherLeft otherRight left right types types⟩
  | set operation members types =>
    have again : (set operation inputs types).RootCoherent := by
      rw [RootCoherent, same]
      exact coherent
    exact ⟨_, again.build_draftOver, rfl, rfl, fun _ => rfl⟩

/-! ## Replacement -/

/-- What becomes of a plan when the subtree at a position is **replaced**: the replacement stands at
the position, the nodes above it keep their row types and their parameters, and nothing else
changes. -/
structure ReplacedAt (plan : Plan) (path : List Nat) (replacement result : Plan) : Prop where
  /-- The replacement stands at the position. -/
  at_path : result.at? path = some replacement
  /-- Each node above the position keeps its row type and its parameters. -/
  above : ∀ {higher : List Nat} {before : Plan}, higher <+: path → higher ≠ path →
    plan.at? higher = some before → ∃ after, result.at? higher = some after ∧
      after.rowType = before.rowType ∧
      ∀ others, after.draftOver others = before.draftOver others
  /-- A subtree that neither contains the position nor lies below it stays as it is. -/
  aside : ∀ {other : List Nat}, ¬ other <+: path → ¬ path <+: other →
    result.at? other = plan.at? other

/-- At the root the replacement is the whole result. -/
theorem replacedAt_nil (plan replacement : Plan) : ReplacedAt plan [] replacement replacement where
  at_path := rfl
  above := by
    intro higher before front below
    exact absurd (List.prefix_nil.1 front) below
  aside := by
    intro other _ separate
    exact absurd List.nil_prefix separate

/-- **One step up**: when a subtree of an input is replaced and the root keeps its fields and its
parameters over the new input, that subtree of the plan is replaced. -/
theorem ReplacedAt.cons {plan input newInput result replacement : Plan} {index : Nat}
    {path : List Nat} (found : plan.inputs[index]? = some input)
    (below : ReplacedAt input path replacement newInput)
    (inputs : result.inputs = plan.inputs.set index newInput) (fields : result.fields = plan.fields)
    (drafts : ∀ others, result.draftOver others = plan.draftOver others) :
    ReplacedAt plan (index :: path) replacement result := by
  have inside : result.inputs[index]? = some newInput := by
    have bound : index < plan.inputs.length := (List.getElem?_eq_some_iff.1 found).1
    rw [inputs, List.getElem?_set_self bound]
  constructor
  · rw [at?_cons, inside]
    exact below.at_path
  · intro higher before front proper position
    cases higher with
    | nil =>
      cases position
      exact ⟨result, rfl, by rw [rowType, rowType, fields], drafts⟩
    | cons first higher =>
      obtain ⟨rfl, within⟩ := List.cons_prefix_cons.1 front
      rw [at?_cons, found] at position
      rw [at?_cons, inside]
      exact below.above within (fun equal => proper (by rw [equal])) position
  · intro other apart separate
    cases other with
    | nil => exact absurd List.nil_prefix apart
    | cons first other =>
      rw [at?_cons, at?_cons]
      -- the position may branch off at the root or further down
      by_cases same : index = first
      · subst same
        rw [inside, found]
        exact below.aside (fun front => apart (List.cons_prefix_cons.2 ⟨rfl, front⟩))
          (fun front => separate (List.cons_prefix_cons.2 ⟨rfl, front⟩))
      · rw [inputs, List.getElem?_set_ne same]

/-- **Replacement.** In a built plan, the subtree at any position may be replaced by any built plan with
the same row type: the nodes above are built again with the parameters they had, the result is a built
plan, and every node above the position has the row type it had before. -/
theorem Built.replaceAt_eq_ok {plan node replacement : Plan} {path : List Nat} (built : Built plan)
    (position : plan.at? path = some node) (replacing : Built replacement)
    (same : replacement.rowType = node.rowType) :
    ∃ result, plan.replaceAt path replacement = .ok result ∧ Built result ∧
      result.rowType = plan.rowType ∧ ReplacedAt plan path replacement result := by
  induction path generalizing plan with
  | nil =>
    cases position
    exact ⟨replacement, rfl, replacing, same, replacedAt_nil _ replacement⟩
  | cons index path ih =>
    obtain ⟨input, found, below⟩ := at?_cons_eq_some_iff.1 position
    obtain ⟨newInput, replaced, newBuilt, sameRow, rest⟩ :=
      ih (built.of_mem_inputs (List.mem_of_getElem? found)) below
    -- all that the root gets to see of its inputs is their fields, and these are the same
    have sameFields : (plan.inputs.set index newInput).map fields = plan.inputs.map fields := by
      have equal : newInput.fields = input.fields := by simpa [rowType] using sameRow
      obtain ⟨bound, rfl⟩ := List.getElem?_eq_some_iff.1 found
      rw [List.map_set, equal, ← List.map_set, List.set_getElem_self]
    obtain ⟨result, step, inputs, resultFields, drafts⟩ :=
      built.rootCoherent.build_draftOver_of_fields_eq sameFields
    refine ⟨result, (replaceAt_cons found replaced).trans step, ?_, ?_, ?_⟩
    · refine built_iff.2 ⟨(Draft.build_eq_ok step).2, fun member held => ?_⟩
      rw [inputs] at held
      obtain old | rfl := List.mem_or_eq_of_mem_set held
      · exact built.of_mem_inputs old
      · exact newBuilt
    · rw [rowType, rowType, resultFields]
    · exact rest.cons found inputs resultFields drafts

/-- A section of the customers, which has the row type of all of them. -/
def fewCustomers : Plan :=
  unary (.fetch 0 (some 10)) (columnScan "customers" "age" (.plain .i32)) [.plain .i32]

theorem built_fewCustomers : Built fewCustomers :=
  built_iff.2 ⟨⟨rfl, rfl⟩, by
    simp [fewCustomers, inputs,
      built_columnScan (show Schema.isBlankName "customers" = false by decide)]⟩

/-- The right input of the join below the aggregate is replaced by a node of another kind. -/
theorem replaceAt_groupedJoin_eq_ok :
    Built groupedJoin ∧
      groupedJoin.at? [0, 1] = some (columnScan "customers" "age" (.plain .i32)) ∧
      Built fewCustomers ∧
      fewCustomers.rowType = (columnScan "customers" "age" (.plain .i32)).rowType ∧
      ∃ result, groupedJoin.replaceAt [0, 1] fewCustomers = .ok result ∧ Built result ∧
        result.rowType = groupedJoin.rowType ∧ ReplacedAt groupedJoin [0, 1] fewCustomers result :=
  ⟨built_groupedJoin, rfl, built_fewCustomers, rfl,
    built_groupedJoin.replaceAt_eq_ok rfl built_fewCustomers rfl⟩

end QueryPlan.Plan

import QueryPlan.Proofs.Expression.Validity
import QueryPlan.Proofs.Plan.Building

/-! # Coherence of built plans
Each node keeps the fields of its rows and holds expressions over the rows of its inputs. This file
says, kind of node by kind of node, which row each expression is computed on and how the row type of
the node follows from those of its inputs, and shows that a built plan obeys this at every position:
`Plan.Built.coherent_at`. -/

namespace QueryPlan

open Outcome

/-- The **use** of an expression in a node: the row it is computed on, and for a predicate the place
it stands in. -/
structure ExpressionUse where
  /-- The expression. -/
  expression : Expression
  /-- The fields of the row. -/
  row : List DataType
  /-- The place of a predicate. -/
  place? : Option PredicatePlace

/-- A use is **sound** when the expression is valid over its row, and boolean where it is a
predicate. -/
def ExpressionUse.Sound (use : ExpressionUse) : Prop :=
  use.expression.Valid use.row ∧ (use.place?.isSome = true → use.expression.isBoolean = true)

namespace ExpressionUse

/-- The uses of values on one row. -/
def values (row : List DataType) (expressions : List Expression) : List ExpressionUse :=
  expressions.map fun expression => ⟨expression, row, none⟩

/-- The use of a predicate that may be missing. -/
def predicate? (row : List DataType) (place : PredicatePlace) (predicate : Option Expression) :
    List ExpressionUse :=
  predicate.toList.map fun predicate => ⟨predicate, row, some place⟩

/-- Uses of values are sound when the expressions are valid. -/
theorem sound_values {row : List DataType} {expressions : List Expression}
    (valid : ∀ expression ∈ expressions, expression.Valid row) :
    ∀ use ∈ values row expressions, use.Sound := by
  intro use member
  obtain ⟨expression, held, rfl⟩ := List.mem_map.1 member
  exact ⟨valid expression held, nofun⟩

/-- The use of a predicate is sound when it is one. -/
theorem sound_predicate? {row : List DataType} {place : PredicatePlace}
    {predicate : Option Expression} (valid : ∀ held ∈ predicate, held.IsPredicate row) :
    ∀ use ∈ predicate? row place predicate, use.Sound := by
  intro use member
  obtain ⟨held, there, rfl⟩ := List.mem_map.1 member
  obtain ⟨sound, boolean⟩ := valid held (by simpa using there)
  exact ⟨sound, fun _ => boolean⟩

end ExpressionUse

open ExpressionUse

/-! ## The uses of operators -/

/-- The uses in a measure. -/
def Measure.uses (input : List DataType) (measure : Measure) : List ExpressionUse :=
  values input measure.call.arguments ++ predicate? input .measureFilter measure.filter

/-- The uses in an operator of one input: all expressions see the row of the input. -/
def UnaryOperator.uses (input : List DataType) : UnaryOperator → List ExpressionUse
  | filter condition => predicate? input .filterCondition (some condition)
  | project expressions => values input expressions
  | sort keys => values input (keys.map SortKey.expression)
  | fetch _ _ => []
  | aggregate groupings measures =>
    values input groupings.flatten ++ measures.flatMap (Measure.uses input)

/-- The uses in an operator of two inputs whose own row is `output`: the condition of a join sees the
left fields followed by the right ones, its filter the row of the join. -/
def BinaryOperator.uses (left right output : List DataType) : BinaryOperator → List ExpressionUse
  | cross => []
  | join _ condition postFilter =>
    predicate? (left ++ right) .joinCondition (some condition) ++
      predicate? output .postJoinFilter postFilter

/-- Measures are checked one after the other. -/
theorem UnaryOperator.checkMeasures_eq_forM {input : List DataType} (measures : List Measure) :
    checkMeasures input measures = forM measures (Measure.validate input) := by
  induction measures with
  | nil => rfl
  | cons measure measures ih => rw [checkMeasures, List.forM_cons, ih]

/-- Measures that pass their checks hold sound uses only. -/
theorem UnaryOperator.sound_uses_of_checkMeasures {input : List DataType}
    {measures : List Measure} (passed : checkMeasures input measures = .ok ()) :
    ∀ use ∈ measures.flatMap (Measure.uses input), use.Sound := by
  rw [checkMeasures_eq_forM, forM_eq_ok_iff] at passed
  refine List.forall_mem_flatMap.2 fun measure held => ?_
  obtain ⟨arguments, filter⟩ := Measure.validate_eq_ok_iff.1 (passed measure held)
  exact List.forall_mem_append.2 ⟨sound_values arguments, sound_predicate? filter⟩

/-- An aggregate passes its check exactly when it has a grouping, valid grouping expressions, and
measures that pass theirs. -/
theorem UnaryOperator.check_aggregate_eq_ok_iff {groupings : List Grouping}
    {measures : List Measure} {input : List DataType} :
    (aggregate groupings measures).check input = .ok () ↔
      groupings ≠ [] ∧ (∀ expression ∈ groupings.flatten, expression.Valid input) ∧
        checkMeasures input measures = .ok () := by
  cases groupings with
  | nil => simp [check]
  | cons grouping groupings =>
    simp only [check, List.isEmpty_cons, Bool.false_eq_true, if_false, bind_eq_ok_iff,
      exists_and_right, exists_eq_ok_unit_iff, Expression.validateAll_eq_ok_iff, ne_eq,
      reduceCtorEq, not_false_eq_true, true_and]

/-- An operator of one input that passes its check holds sound uses only. -/
theorem UnaryOperator.sound_uses {operator : UnaryOperator} {input : List DataType}
    (passed : operator.check input = .ok ()) : ∀ use ∈ operator.uses input, use.Sound := by
  cases operator with
  | filter condition =>
    rw [check, Expression.validatePredicate_eq_ok_iff] at passed
    exact sound_predicate? (by simpa using passed)
  | project expressions =>
    rw [check, Expression.validateAll_eq_ok_iff] at passed
    exact sound_values passed
  | sort keys =>
    rw [check, Expression.validateAll_eq_ok_iff] at passed
    exact sound_values passed
  | fetch offset count => simp [uses]
  | aggregate groupings measures =>
    obtain ⟨-, valid, measured⟩ := check_aggregate_eq_ok_iff.1 passed
    intro use member
    rw [uses, List.mem_append] at member
    obtain grouped | measure := member
    · exact sound_values valid use grouped
    · exact sound_uses_of_checkMeasures measured use measure

/-- An operator of two inputs that passes its check holds sound uses only. -/
theorem BinaryOperator.sound_uses {operator : BinaryOperator} {left right : List DataType}
    (passed : operator.check left right = .ok ()) :
    ∀ use ∈ operator.uses left right (operator.outputFields left right), use.Sound := by
  cases operator with
  | cross => simp [uses]
  | join type condition postFilter =>
    simp only [check, bind_eq_ok_iff, exists_and_right, exists_eq_ok_unit_iff,
      Expression.validatePredicate_eq_ok_iff] at passed
    obtain ⟨matching, filtering⟩ := passed
    intro use member
    rw [uses, List.mem_append] at member
    obtain conditional | filtered := member
    · exact sound_predicate? (by simpa using matching) use conditional
    · -- the filter sees the row of the join itself, with its nullabilities
      refine sound_predicate? ?_ use filtered
      intro filter there
      rw [Option.mem_def] at there
      subst there
      exact Expression.validatePredicate_eq_ok_iff.1 filtering

namespace Plan

/-! ## Nodes of a plan -/

/-- The uses of expressions in the node at the root. -/
def uses : Plan → List ExpressionUse
  | scan _ _ _ => []
  | unary operator input _ => operator.uses input.fields
  | binary operator left right output => operator.uses left.fields right.fields output
  | set _ _ _ => []

/-- The row type that the root has by the rule for its kind of node, computed again from the rows of
its inputs and its own parameters. -/
def derivedRowType : Plan → DataType
  | scan _ schema _ => schema.rowType
  | unary operator input _ => .struct (operator.outputFields input.fields) .required
  | binary operator left right _ =>
    .struct (operator.outputFields left.fields right.fields) .required
  | set operation inputs _ => .struct (operation.outputFields (inputs.map fields)) .required

/-- The fields of a coherent root are the derived ones. -/
theorem RootCoherent.rowType_eq {plan : Plan} (coherent : plan.RootCoherent) :
    plan.rowType = plan.derivedRowType := by
  cases plan with
  | scan | unary | binary | set =>
    obtain ⟨-, rfl⟩ := coherent
    rfl

/-- A coherent root holds sound uses only. -/
theorem RootCoherent.sound_uses {plan : Plan} (coherent : plan.RootCoherent) :
    ∀ use ∈ plan.uses, use.Sound := by
  cases plan with
  | scan | set => simp [uses]
  | unary operator input output => exact operator.sound_uses coherent.1
  | binary operator left right output =>
    obtain ⟨passed, rfl⟩ := coherent
    exact operator.sound_uses passed

/-- **Built plans are coherent.** At every position of a built plan the node's row type is a required
struct and the one its rule derives from its inputs, each expression in the node is valid over the row
it is computed on, and each predicate is boolean. -/
theorem Built.coherent_at {plan node : Plan} {path : List Nat} (built : Built plan)
    (position : plan.at? path = some node) :
    (node.rowType = .struct node.fields .required ∧ node.rowType = node.derivedRowType) ∧
      (∀ use ∈ node.uses, use.expression.validate use.row = .ok ()) ∧
      ∀ use ∈ node.uses, use.place?.isSome = true → use.expression.isBoolean = true := by
  have coherent : node.RootCoherent := (built.of_at? position).rootCoherent
  exact ⟨⟨rfl, coherent.rowType_eq⟩, fun use member => (coherent.sound_uses use member).1,
    fun use member => (coherent.sound_uses use member).2⟩

/-- The join below the aggregate: its condition sees the rows of both inputs, its filter the rows of
the join, where the right field is nullable. -/
theorem coherent_at_filteredJoin :
    Built groupedJoin ∧ groupedJoin.at? [0] = some filteredJoin ∧
      filteredJoin.rowType = filteredJoin.derivedRowType ∧
      filteredJoin.uses =
        [⟨firstFieldHolds, [.plain .boolean, .plain .i32], some .joinCondition⟩,
         ⟨firstFieldHolds, [.plain .boolean, .atom (.plain .i32) .nullable],
          some .postJoinFilter⟩] ∧
      ∀ use ∈ filteredJoin.uses, use.place?.isSome = true → use.expression.isBoolean = true := by
  have position : groupedJoin.at? [0] = some filteredJoin := rfl
  obtain ⟨⟨-, derived⟩, -, boolean⟩ := built_groupedJoin.coherent_at position
  exact ⟨built_groupedJoin, position, derived, rfl, boolean⟩

end Plan

end QueryPlan

import QueryPlan.Expression.AggregateCall
import QueryPlan.Proofs.Outcome

/-! # Valid expressions
What the checks of expressions establish, apart from the order they look in: a list of expressions
passes when each of its members does, and a predicate when it is valid and boolean. -/

namespace QueryPlan

open Outcome

namespace Expression

/-- An expression is **valid** over a row when the check of its field references passes. -/
def Valid (input : List DataType) (expression : Expression) : Prop :=
  expression.validate input = .ok ()

/-- An expression is a **predicate** over a row when it is valid and boolean. -/
def IsPredicate (input : List DataType) (expression : Expression) : Prop :=
  expression.Valid input ∧ expression.isBoolean = true

/-- A list of expressions is checked one after the other. -/
theorem validateAll_eq_forM {input : List DataType} (expressions : List Expression) :
    validateAll input expressions = forM expressions (validate input) := by
  induction expressions with
  | nil => rfl
  | cons expression expressions ih => rw [validateAll, List.forM_cons, ih]

/-- A list of expressions passes the check exactly when each of them does. -/
theorem validateAll_eq_ok_iff {input : List DataType} {expressions : List Expression} :
    validateAll input expressions = .ok () ↔
      ∀ expression ∈ expressions, expression.Valid input := by
  rw [validateAll_eq_forM, forM_eq_ok_iff]
  rfl

/-- The check of a predicate passes exactly on predicates, wherever the predicate stands. -/
theorem validatePredicate_eq_ok_iff {input : List DataType} {place : PredicatePlace}
    {predicate : Expression} :
    predicate.validatePredicate input place = .ok () ↔ predicate.IsPredicate input := by
  by_cases boolean : predicate.isBoolean
  · simp [validatePredicate, IsPredicate, Valid, boolean]
  · simp [validatePredicate, IsPredicate, boolean]

end Expression

/-- A measure passes the check exactly when the arguments of its call are valid and its filter, if it
has one, is a predicate. -/
theorem Measure.validate_eq_ok_iff {input : List DataType} {measure : Measure} :
    measure.validate input = .ok () ↔
      (∀ argument ∈ measure.call.arguments, argument.Valid input) ∧
        ∀ filter ∈ measure.filter, filter.IsPredicate input := by
  obtain ⟨call, filter⟩ := measure
  cases filter with
  | none => simp [validate, AggregateCall.validate, Expression.validateAll_eq_ok_iff]
  | some filter =>
    simp [validate, AggregateCall.validate, Expression.validateAll_eq_ok_iff,
      Expression.validatePredicate_eq_ok_iff]

end QueryPlan

import QueryPlan.Proofs.Expression.References
import QueryPlan.Proofs.Plan.Building

/-! # Filters below projections
A projection keeps the fields of its input in front and adds its own behind them, so a reference that fits
the row of the input also fits the row of the projection: valid expressions stay valid when a row is
widened (`Expression.Valid.append`). A filter and a projection that can both be built over an input can
therefore be built one over the other, in either order and with the same row
(`Draft.filter_project_commute`). -/

namespace QueryPlan

open Outcome

/-! ## Wider rows -/

variable {left : List DataType}

/-- A reference that fits a row fits every row that begins with it. -/
theorem FieldReference.Fits.append {reference : FieldReference} (fits : reference.Fits left)
    (right : List DataType) : reference.Fits (left ++ right) := by
  obtain ⟨inside, same⟩ := fits
  refine ⟨?_, ?_⟩
  · rw [List.length_append]
    omega
  · rw [List.getElem_append_left inside, same]

/-- **Validity is kept when a row is widened.** -/
theorem Expression.Valid.append {expression : Expression} (valid : expression.Valid left)
    (right : List DataType) : expression.Valid (left ++ right) :=
  valid_iff_fits.2 fun reference member => (valid_iff_fits.1 valid reference member).append right

/-- A predicate is one on every wider row. -/
theorem Expression.IsPredicate.append {predicate : Expression} (holds : predicate.IsPredicate left)
    (right : List DataType) : predicate.IsPredicate (left ++ right) :=
  ⟨holds.1.append right, holds.2⟩

/-! ## Filters and projections -/

namespace Draft

variable {input plan : Plan}

/-- A filter is built exactly by a predicate on the row of its input, and has this row. -/
theorem build_filter_eq_ok_iff {condition : Expression} :
    (filter (some input) (some condition)).build = .ok plan ↔
      plan = .unary (.filter condition) input input.fields ∧ condition.IsPredicate input.fields := by
  change Plan.apply (.filter condition) input = .ok plan ↔ _
  rw [Plan.apply, check_then_eq_ok_iff, UnaryOperator.check,
    Expression.validatePredicate_eq_ok_iff]
  rfl

/-- A projection is built exactly by expressions that are valid over the row of its input, and has this
row and their types behind it. -/
theorem build_project_eq_ok_iff {expressions : List Expression} :
    (project (some input) expressions).build = .ok plan ↔
      plan = .unary (.project expressions) input (input.fields ++ expressions.map Expression.type) ∧
        ∀ expression ∈ expressions, expression.Valid input.fields := by
  change Plan.apply (.project expressions) input = .ok plan ↔ _
  rw [Plan.apply, check_then_eq_ok_iff, UnaryOperator.check, Expression.validateAll_eq_ok_iff]
  rfl

/-- **Filters and projections commute.** When a filter and a projection can both be built over an input,
the projection can be built over the filter and the filter over the projection, and both have the row of
the projection. This rests on validity being kept when a row is widened, whatever the expression. -/
theorem filter_project_commute :
    (∀ (input filtered projected : Plan) (condition : Expression) (expressions : List Expression),
      (filter (some input) (some condition)).build = .ok filtered →
      (project (some input) expressions).build = .ok projected →
      ∃ projectedLast filteredLast,
        (project (some filtered) expressions).build = .ok projectedLast ∧
        (filter (some projected) (some condition)).build = .ok filteredLast ∧
        projectedLast.rowType = filteredLast.rowType ∧ filteredLast.rowType = projected.rowType) ∧
    ∀ (expression : Expression) (left right : List DataType),
      expression.validate left = .ok () → expression.validate (left ++ right) = .ok () := by
  constructor
  · intro input filtered projected condition expressions filters projects
    obtain ⟨rfl, predicate⟩ := build_filter_eq_ok_iff.1 filters
    obtain ⟨rfl, valid⟩ := build_project_eq_ok_iff.1 projects
    -- the filter leaves the row as it is, and the projection only widens it
    have wider : condition.IsPredicate (input.fields ++ expressions.map Expression.type) :=
      predicate.append (expressions.map Expression.type)
    exact ⟨_, _, build_project_eq_ok_iff.2 ⟨rfl, valid⟩, build_filter_eq_ok_iff.2 ⟨rfl, wider⟩, rfl, rfl⟩
  · intro expression left right valid
    exact Expression.Valid.append valid right

/-- Paid orders with the age of the customer repeated, in either order of filter and projection. -/
theorem filter_project_commute_paid :
    let input : Plan := .filteredJoin
    let paid : Expression := Plan.firstFieldHolds
    let age : Expression := .field ⟨1, (DataType.plain .i32).asNullable⟩
    let row : List DataType :=
      [.plain .boolean, (DataType.plain .i32).asNullable, (DataType.plain .i32).asNullable]
    let filtered : Plan := .unary (.filter paid) input input.fields
    let projected : Plan := .unary (.project [age]) input row
    (filter (some input) (some paid)).build = .ok filtered ∧
      (project (some input) [age]).build = .ok projected ∧
      (∃ projectedLast filteredLast,
        (project (some filtered) [age]).build = .ok projectedLast ∧
        (filter (some projected) (some paid)).build = .ok filteredLast ∧
        projectedLast.rowType = filteredLast.rowType ∧ filteredLast.rowType = .struct row .required) ∧
      paid.validate [.plain .boolean] = .ok () ∧ paid.validate [.plain .boolean, .plain .date] = .ok () := by
  intro input paid age row filtered projected
  obtain ⟨commute, widen⟩ := filter_project_commute
  have filters : (filter (some input) (some paid)).build = .ok filtered := rfl
  have projects : (project (some input) [age]).build = .ok projected := rfl
  have valid : paid.validate [.plain .boolean] = .ok () := rfl
  exact ⟨filters, projects, commute input filtered projected paid [age] filters projects, valid,
    widen paid [.plain .boolean] [.plain .date] valid⟩

end Draft

end QueryPlan

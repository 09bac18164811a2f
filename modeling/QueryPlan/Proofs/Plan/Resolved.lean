import QueryPlan.Plan.Shorthand
import QueryPlan.Proofs.Expression.Resolved
import QueryPlan.Proofs.Plan.Coherence

/-! # Resolved plans
An operator whose expressions are resolved over the row of its input holds no reference that does not fit
this row. It can therefore only be refused for its predicates, which have to be boolean, or for the lack
of a grouping (`Draft.build_of_resolved`). What the shorthand for plans looks up is resolved in this
sense, so an aggregate by positions is built as soon as everything is found
(`Catalog.aggregateBy_eq_ok_iff`). -/

namespace QueryPlan

open Outcome

/-! ## Operators -/

namespace UnaryOperator

variable {input : List DataType} {operator : UnaryOperator}

/-- The operators of one input whose expressions are **resolved** over the row of the input. -/
inductive ResolvedOver (input : List DataType) : UnaryOperator → Prop
  /-- A filter by a resolved condition. -/
  | filter {condition : Expression} (resolved : condition.ResolvedOver input) :
    ResolvedOver input (filter condition)
  /-- A projection to resolved expressions. -/
  | project {expressions : List Expression}
    (resolved : ∀ expression ∈ expressions, expression.ResolvedOver input) :
    ResolvedOver input (project expressions)
  /-- A sort by resolved keys. -/
  | sort {keys : List SortKey} (resolved : ∀ key ∈ keys, key.expression.ResolvedOver input) :
    ResolvedOver input (sort keys)
  /-- An aggregate by resolved groupings, of resolved measures. -/
  | aggregate {groupings : List Grouping} {measures : List Measure}
    (grouped : ∀ grouping ∈ groupings, ∀ expression ∈ grouping, expression.ResolvedOver input)
    (measured : ∀ measure ∈ measures, measure.ResolvedOver input) :
    ResolvedOver input (aggregate groupings measures)

/-- The **predicates** of an operator: the expressions in it that have to be boolean. -/
def predicates : UnaryOperator → List Expression
  | filter condition => [condition]
  | aggregate _ measures => measures.filterMap Measure.filter
  | project _ | sort _ | fetch _ _ => []

/-- An operator **lacks a grouping** when it is an aggregate without any. -/
def LacksGrouping (operator : UnaryOperator) : Prop := ∃ measures, operator = aggregate [] measures

@[simp] theorem lacksGrouping_aggregate_iff {groupings : List Grouping} {measures : List Measure} :
    (aggregate groupings measures).LacksGrouping ↔ groupings = [] := by
  simp [LacksGrouping]

/-- Resolved keys and projected expressions pass their check. -/
theorem validateAll_of_resolved {expressions : List Expression}
    (resolved : ∀ expression ∈ expressions, expression.ResolvedOver input) :
    Expression.validateAll input expressions = .ok () :=
  Expression.validateAll_eq_ok_iff.2 fun expression member => (resolved expression member).valid

namespace ResolvedOver

/-- **A resolved operator passes its check** exactly when it does not lack a grouping and its predicates
are boolean. -/
theorem check_eq_ok_iff (resolved : operator.ResolvedOver input) :
    operator.check input = .ok () ↔
      ¬ operator.LacksGrouping ∧ ∀ predicate ∈ operator.predicates, predicate.isBoolean = true := by
  cases resolved with
  | @filter condition resolved =>
    have valid : condition.Valid input := resolved.valid
    simp [check, Expression.validatePredicate_eq_ok_iff, Expression.IsPredicate, valid,
      LacksGrouping, predicates]
  | project resolved => simp [check, validateAll_of_resolved resolved, LacksGrouping, predicates]
  | @sort keys resolved =>
    have passed := validateAll_of_resolved (List.forall_mem_map.2 resolved)
    simp [check, passed, LacksGrouping, predicates]
  | @aggregate groupings measures grouped measured =>
    have valid : ∀ expression ∈ groupings.flatten, expression.Valid input :=
      List.forall_mem_flatten.2 fun grouping held expression member =>
        (grouped grouping held expression member).valid
    have passes : checkMeasures input measures = .ok () ↔
        ∀ measure ∈ measures, ∀ filter ∈ measure.filter, filter.isBoolean = true := by
      rw [checkMeasures_eq_forM, forM_eq_ok_iff]
      exact forall₂_congr fun measure held => (measured measure held).validate_eq_ok_iff
    rw [check_aggregate_eq_ok_iff, and_iff_right valid, passes, lacksGrouping_aggregate_iff, predicates,
      List.forall_mem_filterMap]
    rfl

/-- **A resolved operator only fails its check** for lack of a grouping, or for a predicate that is not
boolean. -/
theorem of_check_eq_error {error : PlanError} (resolved : operator.ResolvedOver input)
    (failed : operator.check input = .error error) :
    error = .emptyGroupings ∨
      ∃ place, ∃ predicate ∈ operator.predicates, error = .nonBooleanCondition place predicate.type := by
  cases resolved with
  | @filter condition resolved =>
    have refused := (resolved.valid.validatePredicate_eq_error_iff.1 failed).2
    exact .inr ⟨.filterCondition, condition, List.mem_singleton_self condition, refused⟩
  | project resolved =>
    rw [check, validateAll_of_resolved resolved] at failed
    cases failed
  | sort resolved =>
    rw [check, validateAll_of_resolved (List.forall_mem_map.2 resolved)] at failed
    cases failed
  | @aggregate groupings measures grouped measured =>
    have passed : Expression.validateAll input groupings.flatten = .ok () :=
      validateAll_of_resolved (List.forall_mem_flatten.2 grouped)
    cases groupings with
    | nil =>
      cases failed
      exact .inl rfl
    | cons grouping groupings =>
      have measuring : checkMeasures input measures = .error error := by
        rwa [check, List.isEmpty_cons, if_neg Bool.false_ne_true, passed] at failed
      rw [checkMeasures_eq_forM, forM_eq_error_iff] at measuring
      obtain ⟨before, measure, after, rfl, -, refused⟩ := measuring
      have held : measure ∈ before ++ measure :: after := by simp
      obtain ⟨filter, there, rfl⟩ := (measured measure held).exists_of_validate_eq_error refused
      exact .inr ⟨.measureFilter, filter, List.mem_filterMap.2 ⟨measure, held, there⟩, rfl⟩

/-- A resolved operator can be applied exactly when it does not lack a grouping and its predicates are
boolean. -/
theorem exists_apply_eq_ok_iff {input : Plan} (resolved : operator.ResolvedOver input.fields) :
    (∃ plan, Plan.apply operator input = .ok plan) ↔
      ¬ operator.LacksGrouping ∧ ∀ predicate ∈ operator.predicates, predicate.isBoolean = true := by
  rw [← resolved.check_eq_ok_iff]
  simp only [Plan.apply, check_then_eq_ok_iff, exists_eq_left]

end ResolvedOver

end UnaryOperator

/-! ## Drafts -/

namespace Draft

/-- The draft of an operator over an input, with no part missing. -/
def unary (input : Plan) : UnaryOperator → Draft
  | .filter condition => filter (some input) (some condition)
  | .project expressions => project (some input) expressions
  | .sort keys => sort (some input) keys
  | .fetch offset count => fetch (some input) offset count
  | .aggregate groupings measures => aggregate (some input) groupings measures

/-- The draft of an operator is built by applying the operator. -/
theorem build_unary (input : Plan) (operator : UnaryOperator) :
    (unary input operator).build = Plan.apply operator input := by
  cases operator <;> rfl

/-- **Resolved drafts.** An expression that is resolved over the row of an input is valid over it. A filter,
a projection, a sort or an aggregate of such expressions over the same input is built exactly when its
predicates are boolean and it does not lack a grouping; it never fails for a field that is out of bounds
or has another type. -/
theorem build_of_resolved (input : Plan) :
    (∀ expression : Expression, expression.ResolvedOver input.fields →
      expression.validate input.fields = .ok ()) ∧
    ∀ operator : UnaryOperator, operator.ResolvedOver input.fields →
      ((∃ plan, (unary input operator).build = .ok plan) ↔
        ¬ operator.LacksGrouping ∧ ∀ predicate ∈ operator.predicates, predicate.isBoolean = true) ∧
      (∀ offset width, (unary input operator).build ≠ .error (.fieldOutOfBounds offset width)) ∧
      ∀ offset expected found,
        (unary input operator).build ≠ .error (.fieldTypeMismatch offset expected found) := by
  refine ⟨fun expression resolved => resolved.valid, fun operator resolved => ?_⟩
  rw [build_unary]
  have faults {error : PlanError} (failed : Plan.apply operator input = .error error) :
      error = .emptyGroupings ∨
        ∃ place, ∃ predicate ∈ operator.predicates,
          error = .nonBooleanCondition place predicate.type := by
    rw [Plan.apply, bind_eq_error_iff] at failed
    obtain refused | ⟨done, passed, returned⟩ := failed
    · exact resolved.of_check_eq_error refused
    · cases returned
  refine ⟨resolved.exists_apply_eq_ok_iff, fun offset width failed => ?_,
    fun offset expected found failed => ?_⟩
  · simpa using faults failed
  · simpa using faults failed

/-- Ages over a join, in which a missing age counts as zero: a conditional over a call, and an aggregate of
it with a filtered measure. -/
theorem build_of_resolved_ages :
    let catalog : Catalog := .ofList
      [⟨"is_null", .scalar, [.placeholder "any1"], .fixed (.plain .boolean), .asDeclared⟩,
       ⟨"sum", .aggregate, [.concrete (.plain .i32)], .fixed (DataType.plain .i64).asNullable,
        .asDeclared⟩]
    let input : Plan := .filteredJoin
    let age : Expression := .field ⟨1, (DataType.plain .i32).asNullable⟩
    let absent : Expression := .call ⟨"is_null", "is_null:any"⟩ [age] (.plain .boolean)
    let years : Expression :=
      .ifThen [(absent, .literal (.i32 0))] age (DataType.plain .i32).asNullable
    let total : Measure := ⟨⟨⟨"sum", "sum:i32"⟩, [years], (DataType.plain .i64).asNullable,
      .initialToResult, .all⟩, some absent⟩
    let operator : UnaryOperator := .aggregate [[years], []] [total]
    catalog.scalar "is_null" [age] = .ok absent ∧ catalog.aggregate "sum" [years] = .ok total.call ∧
      years.ResolvedOver input.fields ∧ operator.ResolvedOver input.fields ∧
      years.validate input.fields = .ok () ∧ ∃ plan, (unary input operator).build = .ok plan := by
  intro catalog input age absent years total operator
  have ageOver : age.ResolvedOver input.fields :=
    .field (show Expression.resolve input.fields 1 = .ok age from rfl)
  have called : catalog.scalar "is_null" [age] = .ok absent := by decide +kernel
  have absentOver : absent.ResolvedOver input.fields :=
    .call catalog (List.forall_mem_singleton.2 ageOver) called
  have fitting : Expression.conditional [(absent, .literal (.i32 0))] age = .ok years := by decide
  have yearsOver : years.ResolvedOver input.fields :=
    .conditional (List.forall_mem_singleton.2 absentOver)
      (List.forall_mem_singleton.2 (.literal (.i32 0))) ageOver fitting
  have summed : catalog.aggregate "sum" [years] = .ok total.call := by decide +kernel
  have totalOver : total.ResolvedOver input.fields := by
    refine ⟨⟨catalog, "sum", [years], _, List.forall_mem_singleton.2 yearsOver, summed, rfl⟩, ?_⟩
    rintro filter ⟨⟩
    exact absentOver
  have operatorOver : operator.ResolvedOver input.fields :=
    .aggregate (by simp [yearsOver]) (List.forall_mem_singleton.2 totalOver)
  obtain ⟨valid, built⟩ := build_of_resolved input
  obtain ⟨complete, -⟩ := built operator operatorOver
  refine ⟨called, summed, yearsOver, operatorOver, valid years yearsOver, complete.2 ⟨?_, ?_⟩⟩
  · exact mt UnaryOperator.lacksGrouping_aggregate_iff.1 (List.cons_ne_nil [years] [[]])
  · exact List.forall_mem_singleton.2 rfl

end Draft

/-! ## Shorthand -/

/-- Fields at positions are resolved. -/
theorem Plan.resolvedOver_of_fieldsAt {input : Plan} {offsets : List Nat} {expressions : List Expression}
    (found : input.fieldsAt offsets = .ok expressions) :
    ∀ expression ∈ expressions, expression.ResolvedOver input.fields := by
  induction offsets generalizing expressions with
  | nil =>
    cases found
    exact nofun
  | cons offset offsets ih =>
    simp only [fieldsAt, bind_eq_ok_iff, pure_eq_ok_iff] at found
    obtain ⟨field, resolved, fields, rest, rfl⟩ := found
    exact List.forall_mem_cons.2 ⟨.field resolved, ih rest⟩

namespace Catalog

variable {catalog : Catalog} {input : Plan}

/-- Groupings of fields at positions are resolved, and there are as many as lists of positions. -/
theorem resolvedOver_of_groupings {offsets : List (List Nat)} {resolved : List Grouping}
    (found : groupings input offsets = .ok resolved) :
    (∀ grouping ∈ resolved, ∀ expression ∈ grouping, expression.ResolvedOver input.fields) ∧
      resolved.length = offsets.length := by
  induction offsets generalizing resolved with
  | nil =>
    cases found
    exact ⟨nofun, rfl⟩
  | cons first offsets ih =>
    simp only [groupings, bind_eq_ok_iff, pure_eq_ok_iff] at found
    obtain ⟨grouping, fields, rest, others, rfl⟩ := found
    obtain ⟨inside, length⟩ := ih others
    exact ⟨List.forall_mem_cons.2 ⟨Plan.resolvedOver_of_fieldsAt fields, inside⟩,
      congrArg Nat.succ length⟩

/-- Measures of fields at positions are resolved, and have no filter. -/
theorem resolvedOver_of_measures {calls : List (String × List Nat)} {resolved : List Measure}
    (found : catalog.measures input calls = .ok resolved) :
    ∀ measure ∈ resolved, measure.ResolvedOver input.fields ∧ measure.filter = none := by
  induction calls generalizing resolved with
  | nil =>
    cases found
    exact List.forall_mem_nil _
  | cons call calls ih =>
    simp only [measures, measure, bind_eq_ok_iff, pure_eq_ok_iff] at found
    obtain ⟨first, ⟨arguments, fields, aggregated, called, rfl⟩, rest, others, rfl⟩ := found
    have inside := Plan.resolvedOver_of_fieldsAt fields
    have resolved : Measure.ResolvedOver input.fields ⟨aggregated, none⟩ :=
      { call := ⟨catalog, call.1, arguments, aggregated, inside, called, rfl⟩
        filter := by simp }
    exact List.forall_mem_cons.2 ⟨⟨resolved, rfl⟩, ih others⟩

/-- **An aggregate by positions** is built as soon as there is a grouping and everything is found: the
fields in the row of the input, and the functions in the catalog. -/
theorem aggregateBy_eq_ok_iff {offsets : List (List Nat)} {calls : List (String × List Nat)} :
    (∃ plan, catalog.aggregateBy offsets calls input = .ok plan) ↔
      offsets ≠ [] ∧ (∃ grouped, groupings input offsets = .ok grouped) ∧
        ∃ measured, catalog.measures input calls = .ok measured := by
  have applied {grouped : List Grouping} {measured : List Measure}
      (found : groupings input offsets = .ok grouped)
      (called : catalog.measures input calls = .ok measured) :
      (∃ plan, Plan.apply (.aggregate grouped measured) input = .ok plan) ↔ offsets ≠ [] := by
    obtain ⟨inside, length⟩ := resolvedOver_of_groupings found
    have measures := resolvedOver_of_measures called
    have resolved : (UnaryOperator.aggregate grouped measured).ResolvedOver input.fields :=
      .aggregate inside fun measure held => (measures measure held).1
    have unfiltered : (UnaryOperator.aggregate grouped measured).predicates = [] :=
      List.filterMap_eq_nil_iff.2 fun measure held => (measures measure held).2
    rw [resolved.exists_apply_eq_ok_iff, unfiltered, UnaryOperator.lacksGrouping_aggregate_iff,
      ← List.length_eq_zero_iff, length, List.length_eq_zero_iff]
    exact and_iff_left nofun
  simp only [aggregateBy, bind_eq_ok_iff]
  constructor
  · rintro ⟨plan, grouped, found, measured, called, built⟩
    exact ⟨(applied found called).1 ⟨plan, built⟩, ⟨grouped, found⟩, measured, called⟩
  · rintro ⟨given, ⟨grouped, found⟩, measured, called⟩
    obtain ⟨plan, built⟩ := (applied found called).2 given
    exact ⟨plan, grouped, found, measured, called, built⟩

end Catalog

end QueryPlan

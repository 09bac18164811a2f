import QueryPlan.Function.Catalog
import QueryPlan.Proofs.Expression.Construction
import QueryPlan.Proofs.Expression.References

/-! # Resolved expressions
An expression is resolved over a row when its fields are looked up in the row and its calls in catalogs.
A field gets the type that the row has at its position, and no way of building an expression changes the
expressions that it is built from, so a resolved expression is valid over the row
(`Expression.ResolvedOver.valid`), and the only thing that can be wrong with it as a predicate is that it
is not boolean. -/

namespace QueryPlan

open Outcome

/-! ## Resolution -/

namespace Catalog

variable {catalog : Catalog} {name : String} {arguments : List Expression}

/-- A call that is resolved holds its arguments as they were given. -/
theorem exists_eq_call_of_scalar {built : Expression}
    (resolved : catalog.scalar name arguments = .ok built) :
    ∃ function type, built = .call function arguments type := by
  simp only [scalar, bind_eq_ok_iff, pure_eq_ok_iff] at resolved
  obtain ⟨⟨function, type⟩, -, rfl⟩ := resolved
  exact ⟨function, type, rfl⟩

/-- A call of an aggregate function that is resolved holds its arguments as they were given. -/
theorem arguments_eq_of_aggregate {call : AggregateCall}
    (resolved : catalog.aggregate name arguments = .ok call) : call.arguments = arguments := by
  simp only [aggregate, bind_eq_ok_iff, pure_eq_ok_iff] at resolved
  obtain ⟨⟨function, type⟩, -, rfl⟩ := resolved
  rfl

end Catalog

namespace Expression

variable {input : List DataType}

/-- A field is resolved exactly as the reference to its position, with the type that is found there. -/
theorem resolve_eq_ok_iff {offset : Nat} {expression : Expression} :
    resolve input offset = .ok expression ↔
      ∃ type, input[offset]? = some type ∧ expression = field ⟨offset, type⟩ := by
  rw [resolve, map_eq_ok_iff, FieldReference.resolve]
  cases input[offset]? with
  | none => simp
  | some type => simp [eq_comm]

/-- The expressions that are **resolved** over a row. -/
inductive ResolvedOver (input : List DataType) : Expression → Prop
  /-- A literal of any constructor. -/
  | literal {constant : Literal} (constructed : constant.Constructed) :
    ResolvedOver input (literal constant)
  /-- A field that is looked up in the row. -/
  | field {offset : Nat} {built : Expression} (resolved : resolve input offset = .ok built) :
    ResolvedOver input built
  /-- A call that is looked up in a catalog. -/
  | call (catalog : Catalog) {name : String} {arguments : List Expression} {built : Expression}
    (parts : ∀ argument ∈ arguments, ResolvedOver input argument)
    (resolved : catalog.scalar name arguments = .ok built) : ResolvedOver input built
  /-- A cast to any type. -/
  | cast {source : Expression} (type : DataType) (inner : ResolvedOver input source) :
    ResolvedOver input (cast source type)
  /-- A conditional whose parts fit together. -/
  | conditional {clauses : List (Expression × Expression)} {otherwise built : Expression}
    (conditions : ∀ clause ∈ clauses, ResolvedOver input clause.1)
    (results : ∀ clause ∈ clauses, ResolvedOver input clause.2)
    (last : ResolvedOver input otherwise) (checked : conditional clauses otherwise = .ok built) :
    ResolvedOver input built

/-- **Resolved expressions are valid** over the row they were resolved over. -/
theorem ResolvedOver.valid {expression : Expression} (resolved : expression.ResolvedOver input) :
    expression.Valid input := by
  induction resolved with
  | literal => rfl
  | field resolved =>
    obtain ⟨type, found, rfl⟩ := resolve_eq_ok_iff.1 resolved
    exact FieldReference.validate_eq_ok_iff.2 (FieldReference.fits_iff.2 found)
  | call catalog _ resolved ih =>
    obtain ⟨function, type, rfl⟩ := catalog.exists_eq_call_of_scalar resolved
    exact valid_iff_parts.2 ⟨nofun, ih⟩
  | cast type _ ih => exact valid_iff_parts.2 ⟨nofun, List.forall_mem_singleton.2 ih⟩
  | conditional _ _ _ checked conditions results last =>
    obtain ⟨type, rfl⟩ := exists_of_conditional checked
    have inClauses := forall_mem_clauseParts.2 fun clause member =>
      ⟨conditions clause member, results clause member⟩
    exact valid_iff_parts.2
      ⟨nofun, List.forall_mem_append.2 ⟨inClauses, List.forall_mem_singleton.2 last⟩⟩

/-- A valid predicate only fails its check by not being boolean. -/
theorem Valid.validatePredicate_eq_error_iff {predicate : Expression} {place : PredicatePlace}
    {error : PlanError} (valid : predicate.Valid input) :
    predicate.validatePredicate input place = .error error ↔
      predicate.isBoolean = false ∧ error = .nonBooleanCondition place predicate.type := by
  have passed : predicate.validate input = .ok () := valid
  rw [validatePredicate, passed]
  by_cases boolean : predicate.isBoolean
  · simp [boolean, bind, Except.bind, pure, Except.pure]
  · simp [boolean, bind, Except.bind, throw, throwThe, MonadExceptOf.throw, eq_comm]

end Expression

/-! ## Measures -/

/-- A measure is **resolved** over a row when its call is looked up in a catalog, with arguments that are
resolved, and its filter is resolved as well. The phase and the scope of the call are free. -/
structure Measure.ResolvedOver (input : List DataType) (measure : Measure) : Prop where
  /-- The call of the measure is looked up in a catalog. -/
  call : ∃ (catalog : Catalog) (name : String) (arguments : List Expression) (found : AggregateCall),
    (∀ argument ∈ arguments, argument.ResolvedOver input) ∧
      catalog.aggregate name arguments = .ok found ∧
      measure.call = { found with phase := measure.call.phase, scope := measure.call.scope }
  /-- The filter is resolved, if there is one. -/
  filter : ∀ filter ∈ measure.filter, filter.ResolvedOver input

namespace Measure.ResolvedOver

variable {input : List DataType} {measure : Measure}

/-- The arguments of a resolved measure are valid. -/
theorem valid_arguments (resolved : measure.ResolvedOver input) :
    ∀ argument ∈ measure.call.arguments, argument.Valid input := by
  obtain ⟨catalog, name, arguments, found, parts, called, same⟩ := resolved.call
  rw [same]
  intro argument member
  exact (parts argument (catalog.arguments_eq_of_aggregate called ▸ member)).valid

/-- A resolved measure passes its check exactly when its filter is boolean. -/
theorem validate_eq_ok_iff (resolved : measure.ResolvedOver input) :
    measure.validate input = .ok () ↔ ∀ filter ∈ measure.filter, filter.isBoolean = true := by
  rw [Measure.validate_eq_ok_iff, and_iff_right resolved.valid_arguments]
  exact forall₂_congr fun filter held => and_iff_right (resolved.filter filter held).valid

/-- A resolved measure only fails its check for a filter that is not boolean. -/
theorem exists_of_validate_eq_error {error : PlanError} (resolved : measure.ResolvedOver input)
    (failed : measure.validate input = .error error) :
    ∃ filter ∈ measure.filter, error = .nonBooleanCondition .measureFilter filter.type := by
  have passed : measure.call.validate input = .ok () :=
    Expression.validateAll_eq_ok_iff.2 resolved.valid_arguments
  rw [validate, passed] at failed
  cases held : measure.filter with
  | none =>
    rw [held] at failed
    cases failed
  | some filter =>
    have valid : filter.Valid input := (resolved.filter filter held).valid
    rw [held] at failed
    exact ⟨filter, rfl, (valid.validatePredicate_eq_error_iff.1 failed).2⟩

end Measure.ResolvedOver

end QueryPlan

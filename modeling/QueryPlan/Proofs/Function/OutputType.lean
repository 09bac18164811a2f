import QueryPlan.Proofs.Function.Matching
import QueryPlan.Proofs.Outcome
import QueryPlan.Proofs.Template.Coercion

/-! # Types of results
The type of a result is the one that the return rule gives, with the nullability that the rule for
nullability gives (`Signature.outputType_eq_ok_iff`). The return rule either names a type or applies an
operation to one argument, and every such operation carries nullability
(`Signature.returnedType_fixed_or_carried`). -/

namespace QueryPlan

open Outcome

/-- The nullability of a result, from the arguments and the type that the return rule gives. -/
def NullabilityRule.resultNullability (rule : NullabilityRule) (arguments : List DataType)
    (returned : DataType) : Nullability :=
  match rule with
  | fromArguments => .combineAll (arguments.map DataType.nullability)
  | asDeclared => returned.nullability

namespace Signature

/-- **Results of accepted arguments**: there is a result exactly when the arguments are accepted and the
return rule gives a type, and only the nullability of that type is replaced. -/
theorem outputType_eq_ok_iff {signature : Signature} {arguments : List DataType} {type : DataType} :
    signature.outputType arguments = .ok type ↔
      signature.checkArguments arguments = .ok () ∧
        ∃ returned, signature.returnedType arguments = .ok returned ∧
          type = returned.withNullability
            (signature.nullability.resultNullability arguments returned) := by
  simp only [outputType, bind_eq_ok_iff, exists_and_right, exists_eq_ok_unit_iff]
  refine and_congr_right fun _ => exists_congr fun returned => and_congr_right fun _ => ?_
  cases signature.nullability with
  | fromArguments => exact pure_eq_ok_iff.trans eq_comm
  | asDeclared =>
    rw [NullabilityRule.resultNullability, DataType.withNullability_nullability]
    exact pure_eq_ok_iff.trans eq_comm

/-! ## The return rule -/

/-- The argument that the return rule names is found exactly when it is there. -/
theorem argumentAt_eq_ok_iff {signature : Signature} {arguments : List DataType} {index : Nat}
    {argument : DataType} :
    signature.argumentAt arguments index = .ok argument ↔ arguments[index]? = some argument := by
  unfold argumentAt
  cases arguments[index]? with
  | none => simp
  | some found => simp

/-- An argument that is returned as it is, or coerced onto its parameter, keeps its nullability. -/
theorem carries_returnedArgument (signature : Signature) (index : Nat) :
    DataType.Carries fun argument => some (signature.returnedArgument index argument) := by
  intro argument null
  unfold returnedArgument
  cases signature.parameters[index]? with
  | none => rfl
  | some parameter =>
    by_cases coerced : ¬ parameter.isConcrete ∧ parameter.family?.isSome
    · simp only [if_pos coerced, DataType.carries_coerce? parameter argument null, Option.getD_map,
        Option.map_some]
    · simp only [if_neg coerced, Option.map_some]

/-- An argument that is returned is returned as it is, or coerced onto its parameter. -/
theorem returnedArgument_eq_or_coerce? (signature : Signature) (index : Nat) (argument : DataType) :
    signature.returnedArgument index argument = argument ∨
      ∃ parameter, argument.coerce? parameter = some (signature.returnedArgument index argument) := by
  unfold returnedArgument
  split
  · rename_i parameter found
    split
    · cases coerced : argument.coerce? parameter with
      | none => exact .inl rfl
      | some type => exact .inr ⟨parameter, coerced⟩
    · exact .inl rfl
  · exact .inl rfl

/-- Where the return rule derives a type, the argument that it names is coerced onto its template. -/
theorem exists_coerce?_of_derived {signature : Signature} {arguments : List DataType} {index : Nat}
    {target : Template} {returned : DataType}
    (returns : signature.returns = .derived index target)
    (given : signature.returnedType arguments = .ok returned) :
    ∃ argument, arguments[index]? = some argument ∧ argument.coerce? target = some returned := by
  simp only [returnedType, returns, bind_eq_ok_iff, argumentAt_eq_ok_iff] at given
  obtain ⟨argument, found, made⟩ := given
  refine ⟨argument, found, ?_⟩
  cases coerced : argument.coerce? target with
  | none =>
    rw [coerced] at made
    cases made
  | some type =>
    rw [coerced] at made
    exact congrArg some (pure_eq_ok_iff.1 made)

/-- **The return rule** gives the same type for all arguments, or what an operation that carries
nullability makes of one of them. -/
theorem returnedType_fixed_or_carried (signature : Signature) :
    (∃ type, ∀ arguments, signature.returnedType arguments = .ok type) ∨
      ∃ (index : Nat) (operation : DataType → Option DataType), DataType.Carries operation ∧
        ∀ arguments type, signature.returnedType arguments = .ok type ↔
          ∃ argument, arguments[index]? = some argument ∧ operation argument = some type := by
  cases rule : signature.returns with
  | fixed type =>
    left
    exact ⟨type, fun arguments => by simp only [returnedType, rule]⟩
  | argument index =>
    right
    refine ⟨index, _, signature.carries_returnedArgument index, fun arguments type => ?_⟩
    simp only [returnedType, rule, bind_eq_ok_iff, pure_eq_ok_iff, argumentAt_eq_ok_iff,
      Option.some_inj]
  | derived index target =>
    right
    refine ⟨index, _, DataType.carries_coerce? target, fun arguments type => ?_⟩
    simp only [returnedType, rule, bind_eq_ok_iff, argumentAt_eq_ok_iff]
    refine exists_congr fun source => and_congr_right fun _ => ?_
    cases source.coerce? target with
    | none => simp
    | some coerced => simp

end Signature

end QueryPlan

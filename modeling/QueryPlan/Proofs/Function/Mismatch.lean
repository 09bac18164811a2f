import QueryPlan.Proofs.Function.Matching

/-! # The first argument that does not fit
The check of arguments takes them one by one, and binds a placeholder to the first type that it meets
there. No later choice could have done better: arguments are refused only when no assignment of types to
the names of placeholders has all parameters admit them, and the argument that is reported is the first
at which this shows (`Signature.checkArguments_decides`). -/

namespace QueryPlan

namespace Signature

variable {signature : Signature} {arguments : List DataType}

/-! ## Arguments in front -/

/-- The first arguments, `count` of them, **match** their parameters when one assignment of types to the
names of placeholders has each of these parameters admit its argument. -/
def MatchesUpTo (signature : Signature) (arguments : List DataType) (count : Nat) : Prop :=
  ∃ assignment, List.Forall₂ (Template.Admits assignment) (signature.parameters.take count)
    (arguments.take count)

/-- No arguments match no parameters. -/
theorem matchesUpTo_zero : signature.MatchesUpTo arguments 0 := by
  refine ⟨fun _ => default, ?_⟩
  rw [List.take_zero, List.take_zero]
  exact .nil

/-- Where some arguments match, fewer of them match under the same assignment. -/
theorem MatchesUpTo.of_le {fewer count : Nat} (matching : signature.MatchesUpTo arguments count)
    (le : fewer ≤ count) : signature.MatchesUpTo arguments fewer := by
  obtain ⟨assignment, admits⟩ := matching
  refine ⟨assignment, ?_⟩
  have shorter := List.forall₂_take fewer admits
  rwa [List.take_take, List.take_take, Nat.min_eq_left le] at shorter

/-- The check of the arguments in front decides whether they match. -/
theorem checkFrom_take_eq_ok_iff (arity : arguments.length = signature.parameters.length) {count : Nat} :
    signature.checkFrom 0 [] (signature.parameters.take count) (arguments.take count) = .ok () ↔
      signature.MatchesUpTo arguments count := by
  have sameLength : (arguments.take count).length = (signature.parameters.take count).length := by
    rw [List.length_take, List.length_take, arity]
  rw [checkFrom_eq_ok_iff sameLength]
  constructor
  · rintro ⟨assignment, -, admits⟩
    exact ⟨assignment, admits⟩
  · rintro ⟨assignment, admits⟩
    exact ⟨assignment, Bindings.respects_nil assignment, admits⟩

/-! ## The reported argument -/

/-- The check stops at the argument with which the arguments up to it are refused for the first time,
and reports it together with its parameter. -/
theorem checkFrom_eq_error_iff {index : Nat} {bindings : Bindings} {parameters : List Template}
    {error : PlanError} :
    signature.checkFrom index bindings parameters arguments = .error error ↔
      ∃ offset parameter argument, parameters[offset]? = some parameter ∧
        arguments[offset]? = some argument ∧
        error = .argumentType signature.key (index + offset) parameter argument ∧
        signature.checkFrom index bindings (parameters.take offset) (arguments.take offset) = .ok () ∧
        signature.checkFrom index bindings (parameters.take (offset + 1))
          (arguments.take (offset + 1)) ≠ .ok () := by
  induction parameters generalizing index bindings arguments with
  | nil => simp [checkFrom]
  | cons parameter parameters ih =>
    cases arguments with
    | nil => simp [checkFrom]
    | cons argument arguments =>
      cases fitted : bindings.fit? parameter argument with
      | none =>
        -- the first argument is refused, and with it every list that starts with it
        simp only [checkFrom, fitted, Except.error.injEq]
        constructor
        · rintro rfl
          refine ⟨0, parameter, argument, rfl, rfl, rfl, rfl, ?_⟩
          simp [checkFrom, fitted]
        · rintro ⟨offset, found, other, foundParameter, foundArgument, rfl, passed, -⟩
          cases offset with
          | zero =>
            cases foundParameter
            cases foundArgument
            rfl
          | succ offset => simp [checkFrom, fitted] at passed
      | some after =>
        -- with the first argument fitted, the rest of the list is checked one position further on
        have step : ∀ count, signature.checkFrom index bindings
            ((parameter :: parameters).take (count + 1)) ((argument :: arguments).take (count + 1)) =
              signature.checkFrom (index + 1) after (parameters.take count) (arguments.take count) := by
          intro count
          simp only [List.take_succ_cons, checkFrom, fitted]
        have positions : ∀ offset, index + 1 + offset = index + (offset + 1) := by
          intro offset
          omega
        simp only [checkFrom, fitted, ih]
        constructor
        · rintro ⟨offset, found, other, foundParameter, foundArgument, rfl, passed, refused⟩
          refine ⟨offset + 1, found, other, foundParameter, foundArgument, by rw [positions], ?_, ?_⟩
          · rwa [step]
          · rwa [step]
        · rintro ⟨offset, found, other, foundParameter, foundArgument, rfl, passed, refused⟩
          cases offset with
          | zero => simp [checkFrom, fitted] at refused
          | succ offset =>
            rw [step] at passed refused
            exact ⟨offset, found, other, foundParameter, foundArgument, by rw [positions], passed,
              refused⟩

/-- The **first mismatch** of arguments with the parameters of a signature: an argument with which they
no longer match, while the arguments up to any earlier one do. -/
structure FirstMismatch (signature : Signature) (arguments : List DataType) (index : Nat)
    (parameter : Template) (argument : DataType) : Prop where
  /-- The parameter stands at the position. -/
  parameterAt : signature.parameters[index]? = some parameter
  /-- The argument stands at the position. -/
  argumentAt : arguments[index]? = some argument
  /-- The arguments up to this one do not match. -/
  unmatched : ¬ signature.MatchesUpTo arguments (index + 1)
  /-- The arguments up to each earlier one match. -/
  least : ∀ earlier < index, signature.MatchesUpTo arguments (earlier + 1)

/-- Arguments up to each earlier one match exactly when all arguments in front of a position do. -/
theorem matchesUpTo_iff_forall_lt {index : Nat} :
    signature.MatchesUpTo arguments index ↔
      ∀ earlier < index, signature.MatchesUpTo arguments (earlier + 1) := by
  constructor
  · intro matching earlier before
    exact matching.of_le before
  · intro all
    cases index with
    | zero => exact matchesUpTo_zero
    | succ index => exact all index (Nat.lt_succ_self index)

/-- With as many arguments as parameters, the first mismatch is reported if there is one. -/
theorem checkFrom_eq_error_iff_firstMismatch
    (arity : arguments.length = signature.parameters.length) {error : PlanError} :
    signature.checkFrom 0 [] signature.parameters arguments = .error error ↔
      ∃ index parameter argument, signature.FirstMismatch arguments index parameter argument ∧
        error = .argumentType signature.key index parameter argument := by
  rw [checkFrom_eq_error_iff]
  refine exists_congr fun index => exists_congr fun parameter => exists_congr fun argument => ?_
  rw [Nat.zero_add, Ne, checkFrom_take_eq_ok_iff arity, checkFrom_take_eq_ok_iff arity]
  constructor
  · rintro ⟨parameterAt, argumentAt, reported, matching, unmatched⟩
    exact ⟨⟨parameterAt, argumentAt, unmatched, matchesUpTo_iff_forall_lt.1 matching⟩, reported⟩
  · rintro ⟨mismatch, reported⟩
    exact ⟨mismatch.parameterAt, mismatch.argumentAt, reported,
      matchesUpTo_iff_forall_lt.2 mismatch.least, mismatch.unmatched⟩

/-- **The check of arguments decides whether they can be assigned.** Arguments are accepted exactly when
there are as many of them as parameters and one assignment of types to the names of placeholders has each
parameter admit its argument. Another number of arguments is reported as such and for this reason only,
and otherwise the first argument at which no assignment is left is reported. -/
theorem checkArguments_decides (signature : Signature) (arguments : List DataType) :
    (signature.checkArguments arguments = .ok () ↔
      arguments.length = signature.parameters.length ∧ ∃ assignment,
        List.Forall₂ (Template.Admits assignment) signature.parameters arguments) ∧
    ∀ error, signature.checkArguments arguments = .error error ↔
      (arguments.length ≠ signature.parameters.length ∧
        error = .arityMismatch signature.key signature.parameters.length arguments.length) ∨
      (arguments.length = signature.parameters.length ∧
        ∃ index parameter argument, signature.FirstMismatch arguments index parameter argument ∧
          error = .argumentType signature.key index parameter argument) := by
  constructor
  · rw [checkArguments_eq_ok_iff]
    constructor
    · rintro ⟨assignment, admits⟩
      exact ⟨admits.length_eq.symm, assignment, admits⟩
    · rintro ⟨-, assigned⟩
      exact assigned
  · intro error
    by_cases arity : arguments.length = signature.parameters.length
    · rw [checkArguments, if_pos arity, checkFrom_eq_error_iff_firstMismatch arity]
      simp only [arity, ne_eq, not_true_eq_false, false_and, true_and, false_or]
    · rw [checkArguments, if_neg arity]
      simp only [arity, ne_eq, not_false_eq_true, true_and, false_and, or_false, Except.error.injEq,
        eq_comm]

end Signature

end QueryPlan

import Mathlib.Data.List.Forall2
import QueryPlan.Function.Signature

/-! # Matching arguments with parameters
The check of arguments goes from left to right and remembers the types it met at placeholders. Without
that memory it says: there is one **assignment** of types to the names of placeholders under which each
parameter admits its argument (`Signature.checkArguments_eq_ok_iff`). The bindings met so far are a
finite part of such an assignment. -/

namespace QueryPlan

open DataType (SameShape)

/-! ## Assignments -/

/-- A parameter **admits** an argument under an assignment of types to the names of placeholders: a
placeholder admits the shape assigned to its name, a bound parameter its own shape, and every other
parameter its family and what can be coerced onto it. -/
def Template.Admits (assignment : String → DataType) (parameter : Template) (argument : DataType) :
    Prop :=
  match parameter with
  | .placeholder name => SameShape (assignment name) argument
  | .concrete type => SameShape argument type
  | parameter => parameter.family? = some argument.family ∨ (argument.coerce? parameter).isSome

namespace Bindings

/-- An assignment **respects** bindings when it assigns the shapes that are bound. -/
def Respects (assignment : String → DataType) (bindings : Bindings) : Prop :=
  ∀ name bound, bindings.lookup name = some bound → SameShape (assignment name) bound

/-- Some assignment respects given bindings. -/
theorem exists_respects (bindings : Bindings) : ∃ assignment, bindings.Respects assignment := by
  refine ⟨fun name => (bindings.lookup name).getD default, ?_⟩
  intro name bound found
  simp only [found, Option.getD_some]
  exact SameShape.refl bound

/-- Nothing is bound at first. -/
theorem respects_nil (assignment : String → DataType) : Respects assignment [] := by
  intro name bound found
  cases found

/-- A new binding asks for one more shape. -/
theorem respects_cons_iff {assignment : String → DataType} {bindings : Bindings} {name : String}
    {argument : DataType} (unbound : bindings.lookup name = none) :
    Respects assignment ((name, argument) :: bindings) ↔
      bindings.Respects assignment ∧ SameShape (assignment name) argument := by
  constructor
  · intro respects
    refine ⟨?_, respects name argument List.lookup_cons_self⟩
    intro other bound found
    refine respects other bound ?_
    -- the new name hides no older binding, since it has none
    have different : other ≠ name := by
      rintro rfl
      rw [unbound] at found
      cases found
    rw [List.lookup_cons, beq_eq_false_iff_ne.2 different]
    exact found
  · rintro ⟨respects, same⟩ other bound found
    rw [List.lookup_cons] at found
    by_cases new : other = name
    · subst new
      rw [beq_self_eq_true, Option.some_inj] at found
      exact found ▸ same
    · rw [beq_eq_false_iff_ne.2 new] at found
      exact respects other bound found

/-- **One argument.** An argument fits a parameter exactly when some assignment that respects the
bindings has the parameter admit it, and the new bindings are respected by these assignments. -/
theorem respects_and_admits_iff {assignment : String → DataType} {bindings : Bindings}
    {parameter : Template} {argument : DataType} :
    bindings.Respects assignment ∧ parameter.Admits assignment argument ↔
      ∃ after, bindings.fit? parameter argument = some after ∧ after.Respects assignment := by
  cases parameter with
  | placeholder name =>
    cases found : bindings.lookup name with
    | none =>
      simp only [fit?, found, Option.some_inj, exists_eq_left', respects_cons_iff found,
        Template.Admits]
    | some bound =>
      simp only [fit?, found, Option.ite_none_right_eq_some, Option.some_inj, Template.Admits]
      constructor
      · rintro ⟨respects, same⟩
        have bindingSame := respects name bound found
        exact ⟨bindings, ⟨bindingSame.symm.trans same, rfl⟩, respects⟩
      · rintro ⟨_, ⟨same, rfl⟩, respects⟩
        exact ⟨respects, (respects name bound found).trans same⟩
  | concrete type =>
    have fits : (argument.coerce? (.concrete type)).isSome ↔ SameShape argument type := by
      by_cases same : SameShape argument type <;> simp [DataType.coerce?, same]
    simp only [fit?, Option.ite_none_right_eq_some, Option.some_inj, Template.Admits, fits]
    constructor
    · rintro ⟨respects, same⟩
      exact ⟨bindings, ⟨same, rfl⟩, respects⟩
    · rintro ⟨_, ⟨same, rfl⟩, respects⟩
      exact ⟨respects, same⟩
  | sized | precise | decimal | struct | list | map =>
    simp only [fit?, Option.ite_none_right_eq_some, Option.some_inj, Template.Admits]
    constructor
    · rintro ⟨respects, fits⟩
      exact ⟨bindings, ⟨fits, rfl⟩, respects⟩
    · rintro ⟨_, ⟨fits, rfl⟩, respects⟩
      exact ⟨respects, fits⟩

end Bindings

/-! ## All arguments -/

namespace Signature

/-- The check from some position on succeeds exactly when one assignment respects the bindings made
before and has the remaining parameters admit the remaining arguments. -/
theorem checkFrom_eq_ok_iff {signature : Signature} {index : Nat} {bindings : Bindings}
    {parameters : List Template} {arguments : List DataType}
    (arity : arguments.length = parameters.length) :
    signature.checkFrom index bindings parameters arguments = .ok () ↔
      ∃ assignment, bindings.Respects assignment ∧
        List.Forall₂ (Template.Admits assignment) parameters arguments := by
  induction parameters generalizing index bindings arguments with
  | nil =>
    obtain rfl : arguments = [] := List.length_eq_zero_iff.1 arity
    obtain ⟨assignment, respects⟩ := bindings.exists_respects
    exact ⟨fun _ => ⟨assignment, respects, .nil⟩, fun _ => rfl⟩
  | cons parameter parameters ih =>
    cases arguments with
    | nil => cases arity
    | cons argument arguments =>
      have restArity : arguments.length = parameters.length := Nat.succ.inj arity
      cases fitted : bindings.fit? parameter argument with
      | none =>
        simp only [checkFrom, fitted, reduceCtorEq, false_iff]
        rintro ⟨assignment, respects, admits⟩
        obtain ⟨first, -⟩ := List.forall₂_cons.1 admits
        obtain ⟨after, found, -⟩ := Bindings.respects_and_admits_iff.1 ⟨respects, first⟩
        rw [fitted] at found
        cases found
      | some after =>
        simp only [checkFrom, fitted, ih restArity, List.forall₂_cons]
        constructor
        · rintro ⟨assignment, respects, rest⟩
          obtain ⟨before, first⟩ := Bindings.respects_and_admits_iff.2 ⟨after, fitted, respects⟩
          exact ⟨assignment, before, first, rest⟩
        · rintro ⟨assignment, respects, first, rest⟩
          obtain ⟨found, same, later⟩ := Bindings.respects_and_admits_iff.1 ⟨respects, first⟩
          obtain rfl : after = found := Option.some_inj.1 (fitted.symm.trans same)
          exact ⟨assignment, later, rest⟩

/-- **Arguments are accepted exactly under a common assignment**: there is one argument for each
parameter, and one assignment of types to the names of placeholders under which each parameter admits
its argument. -/
theorem checkArguments_eq_ok_iff {signature : Signature} {arguments : List DataType} :
    signature.checkArguments arguments = .ok () ↔
      ∃ assignment, List.Forall₂ (Template.Admits assignment) signature.parameters arguments := by
  by_cases arity : arguments.length = signature.parameters.length
  · rw [checkArguments, if_pos arity, checkFrom_eq_ok_iff arity]
    constructor
    · rintro ⟨assignment, -, admits⟩
      exact ⟨assignment, admits⟩
    · rintro ⟨assignment, admits⟩
      exact ⟨assignment, Bindings.respects_nil assignment, admits⟩
  · rw [checkArguments, if_neg arity]
    simp only [reduceCtorEq, false_iff]
    rintro ⟨assignment, admits⟩
    exact arity admits.length_eq.symm

/-- A signature accepts arguments exactly when their check succeeds. -/
theorem accepts_iff {signature : Signature} {arguments : List DataType} :
    signature.accepts arguments = true ↔ signature.checkArguments arguments = .ok () := by
  unfold accepts
  cases signature.checkArguments arguments with
  | error fault => simp [Except.isOk, Except.toBool]
  | ok done => simp [Except.isOk, Except.toBool]

end Signature

end QueryPlan

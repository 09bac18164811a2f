import QueryPlan.Proofs.Function.Standard
import QueryPlan.Proofs.Template.TargetForms

/-! # Results derived from arguments
A signature may derive its result from an argument by coercing it onto a template. Also where that is
the template of the parameter itself, the check of arguments lets more through than can be coerced: a
placeholder admits every type, and an open template every type of its family. What is admitted can be
coerced exactly when its family announces the form of the template
(`Template.Admits.isSome_coerce?_iff`), and this decides whether an accepted call has a result
(`Signature.outputType_of_derived_parameter`). -/

namespace QueryPlan

/-! ## Admitted arguments -/

namespace Template.Admits

variable {assignment : String → DataType} {parameter : Template} {argument : DataType}

/-- **What a parameter admits** can be coerced onto it exactly when its family announces the form of the
parameter. -/
theorem isSome_coerce?_iff (admits : parameter.Admits assignment argument) :
    (argument.coerce? parameter).isSome = true ↔ parameter.form ∈ argument.family.targetForms := by
  refine ⟨DataType.form_mem_targetForms, fun announced => ?_⟩
  cases parameter with
  | concrete type => exact DataType.isSome_coerce?_concrete_iff.2 admits
  | placeholder name =>
    have character := Family.placeholder_mem_targetForms_iff.1 announced
    exact DataType.isSome_coerce?_placeholder_iff.2 character
  | sized kind text state =>
    obtain own | coercible := admits
    · -- an argument of the family of the parameter is taken as it is, so no length is checked
      have family : argument.family = .sized kind := (Option.some_inj.1 own).symm
      obtain ⟨-, -, character, -⟩ := Family.sized_mem_targetForms_iff.1 announced
      exact DataType.isSome_coerce?_sized character character family (absurd rfl) text state
    · exact coercible
  -- an argument of such a family is admitted, but no family announces these forms
  | precise | decimal | struct | list | map =>
    simp [Family.mem_targetForms_iff, form] at announced

/-- The family of an argument announces the form of every bound parameter that admits it, and of every
parameter for character strings of bounded length. -/
theorem form_mem_targetForms (admits : parameter.Admits assignment argument)
    (settled : parameter.isConcrete = true ∨ parameter.isCharacter = true) :
    parameter.form ∈ argument.family.targetForms := by
  cases parameter with
  | concrete type =>
    exact DataType.form_mem_targetForms (DataType.isSome_coerce?_concrete_iff.2 admits)
  | sized kind text state =>
    obtain own | coercible := admits
    · have family : argument.family = .sized kind := (Option.some_inj.1 own).symm
      have character : kind.isCharacter = true := settled.resolve_left nofun
      exact Family.sized_mem_targetForms_iff.2 ⟨kind, character, character, family⟩
    · exact DataType.form_mem_targetForms coercible
  | precise | decimal | struct | list | map | placeholder =>
    obtain bound | bounded := settled
    · cases bound
    · cases bounded

end Template.Admits

/-! ## Derived results -/

namespace Signature

variable {signature : Signature} {arguments : List DataType} {index : Nat}

/-- The result that is derived from an accepted argument: what it becomes at the template, or else the
fault that it cannot be coerced. -/
theorem outputType_of_derived {target : Template} {argument : DataType}
    (returns : signature.returns = .derived index target)
    (accepted : signature.checkArguments arguments = .ok ())
    (found : arguments[index]? = some argument) :
    signature.outputType arguments =
      match argument.coerce? target with
      | some made =>
        .ok (made.withNullability (signature.nullability.resultNullability arguments made))
      | none => .error (.unresolvedReturnType signature.key (.notCoercible argument target)) := by
  have given : signature.argumentAt arguments index = .ok argument := argumentAt_eq_ok_iff.2 found
  cases coerced : argument.coerce? target with
  | some made =>
    have returned : signature.returnedType arguments = .ok made := by
      simp only [returnedType, returns, given, bind, Except.bind, coerced, pure, Except.pure]
    exact outputType_eq_ok_iff.2 ⟨accepted, made, returned, rfl⟩
  | none =>
    have refused : signature.returnedType arguments =
        .error (.unresolvedReturnType signature.key (.notCoercible argument target)) := by
      simp only [returnedType, returns, given, bind, Except.bind, coerced]
      rfl
    simp only [outputType, accepted, refused, bind, Except.bind]

/-- **Results derived onto the template of the parameter.** When the arguments are accepted, there is a
result exactly when the family of the argument announces the form of the template, and otherwise the
fault that it cannot be coerced. For bound templates and those for character strings of bounded length
the family always does. -/
theorem outputType_of_derived_parameter {template : Template}
    (returns : signature.returns = .derived index template)
    (parameter : signature.parameters[index]? = some template)
    (accepted : signature.checkArguments arguments = .ok ()) :
    ∃ argument, arguments[index]? = some argument ∧
      (template.form ∈ argument.family.targetForms →
        ∃ made, argument.coerce? template = some made ∧
          signature.outputType arguments =
            .ok (made.withNullability (signature.nullability.resultNullability arguments made))) ∧
      (template.form ∉ argument.family.targetForms →
        signature.outputType arguments =
          .error (.unresolvedReturnType signature.key (.notCoercible argument template))) ∧
      (template.isConcrete = true ∨ template.isCharacter = true →
        template.form ∈ argument.family.targetForms) := by
  obtain ⟨assignment, admitsAll⟩ := checkArguments_eq_ok_iff.1 accepted
  obtain ⟨inside, rfl⟩ := List.getElem?_eq_some_iff.1 parameter
  have insideToo : index < arguments.length := admitsAll.length_eq ▸ inside
  have admits : signature.parameters[index].Admits assignment arguments[index] :=
    admitsAll.get inside insideToo
  have found : arguments[index]? = some arguments[index] := List.getElem?_eq_getElem insideToo
  refine ⟨arguments[index], found, ?_, ?_, admits.form_mem_targetForms⟩
  · intro announced
    obtain ⟨made, coerced⟩ := Option.isSome_iff_exists.1 (admits.isSome_coerce?_iff.2 announced)
    refine ⟨made, coerced, ?_⟩
    rw [outputType_of_derived returns accepted found, coerced]
  · intro silent
    have refused : arguments[index].coerce? signature.parameters[index] = none :=
      Option.not_isSome_iff_eq_none.1 (mt admits.isSome_coerce?_iff.1 silent)
    rw [outputType_of_derived returns accepted found, refused]

/-- A string of at most eight characters is padded to exactly eight. -/
theorem outputType_of_derived_parameter_pad :
    let pad := Catalog.scalarSignature "pad" [Catalog.anyFixedChar] (.derived 0 Catalog.anyFixedChar)
    let code : DataType := .atom (.sized .varChar 8) .nullable
    pad.checkArguments [code] = .ok () ∧
      pad.outputType [code] = .ok (.atom (.sized .fixedChar 8) .nullable) := by
  intro pad code
  have returns : pad.returns = .derived 0 Catalog.anyFixedChar := rfl
  have accepted : pad.checkArguments [code] = .ok () := by decide
  obtain ⟨argument, found, derives, -, announced⟩ :=
    outputType_of_derived_parameter returns rfl accepted
  obtain rfl : code = argument := Option.some_inj.1 found
  obtain ⟨made, coerced, result⟩ := derives (announced (.inr rfl))
  obtain rfl : DataType.atom (.sized .fixedChar 8) .nullable = made := Option.some_inj.1 coerced
  exact ⟨accepted, result⟩

/-- **An accepted argument without a derived result**: a decimal number is accepted for the template of
all decimal numbers, and can be returned as it is, but not derived onto that template. -/
theorem not_outputType_of_derived_parameter :
    let template : Template := .decimal "P" "S" .required
    let magnitude := Catalog.scalarSignature "abs" [template] (.derived 0 template)
    let amount : DataType := .atom (.decimal 10 2) .required
    magnitude.checkArguments [amount] = .ok () ∧
      magnitude.outputType [amount] =
        .error (.unresolvedReturnType magnitude.key (.notCoercible amount template)) ∧
      { magnitude with returns := .argument 0 }.outputType [amount] = .ok amount := by
  intro template magnitude amount
  exact ⟨by decide, rfl, by decide⟩

end Signature

end QueryPlan

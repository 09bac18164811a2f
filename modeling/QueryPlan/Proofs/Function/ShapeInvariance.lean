import QueryPlan.Function.Standard
import QueryPlan.Proofs.Function.Lookup
import QueryPlan.Proofs.Function.OutputType

/-! # Calls and the nullability of their arguments
Arguments of the same shapes are treated alike: a call with them is resolved to the same overload, has a
result for both lists or for none, and the results have one shape. Nullability only travels one way,
from an argument to the result, so making arguments nullable never makes a result required
(`Catalog.resolve_and_outputType_of_sameShape`). -/

namespace QueryPlan

open DataType (SameShape)

/-! ## Two lists of arguments -/

/-- Lists of the same shapes are so in either direction. -/
theorem forall₂_sameShape_symm {arguments others : List DataType}
    (same : List.Forall₂ SameShape arguments others) : List.Forall₂ SameShape others arguments :=
  (same.imp fun _ _ one => one.symm).flip

/-- A member of the left of two related lists is related to the member of the right at its position. -/
theorem exists_getElem?_of_forall₂ {α β : Type} {related : α → β → Prop} {lefts : List α}
    {rights : List β} (all : List.Forall₂ related lefts rights) {index : Nat} {left : α}
    (found : lefts[index]? = some left) :
    ∃ right, rights[index]? = some right ∧ related left right := by
  induction all generalizing index with
  | nil => cases found
  | @cons first other lefts rights one _ ih =>
    cases index with
    | zero =>
      obtain rfl : first = left := Option.some_inj.1 found
      exact ⟨other, rfl, one⟩
    | succ index => exact ih found

/-- The second of two types is **at least as nullable** as the first when it allows null wherever the
first does. -/
def AtLeastAsNullable (type other : DataType) : Prop :=
  type.isNullable = true → other.isNullable = true

/-- Some argument stays nullable when arguments become nullable. -/
theorem any_isNullable_of_forall₂ {arguments others : List DataType}
    (growing : List.Forall₂ AtLeastAsNullable arguments others)
    (nullable : arguments.any DataType.isNullable = true) :
    others.any DataType.isNullable = true := by
  obtain ⟨argument, member, allowed⟩ := List.any_eq_true.1 nullable
  obtain ⟨index, found⟩ := List.mem_iff_getElem?.1 member
  obtain ⟨other, foundOther, grows⟩ := exists_getElem?_of_forall₂ growing found
  exact List.any_eq_true.2 ⟨other, List.mem_of_getElem? foundOther, grows allowed⟩

/-! ## Acceptance -/

/-- Types of one shape are coerced onto the same templates. -/
theorem DataType.SameShape.isSome_coerce? {source other : DataType} (same : SameShape source other)
    {target : Template} (fits : (source.coerce? target).isSome) : (other.coerce? target).isSome := by
  obtain ⟨result, found⟩ := Option.isSome_iff_exists.1 fits
  obtain ⟨again, foundAgain, -⟩ := (carries_coerce? target).exists_of_sameShape same found
  exact Option.isSome_iff_exists.2 ⟨again, foundAgain⟩

/-- A parameter admits with an argument every other argument of its shape. -/
theorem Template.Admits.of_sameShape {assignment : String → DataType} {parameter : Template}
    {argument other : DataType} (admits : parameter.Admits assignment argument)
    (same : SameShape argument other) : parameter.Admits assignment other := by
  cases parameter with
  | placeholder name => exact DataType.SameShape.trans admits same
  | concrete type => exact same.symm.trans admits
  | sized | precise | decimal | struct | list | map =>
    obtain family | coercible := admits
    · left
      rw [← same.family_eq]
      exact family
    · right
      exact same.isSome_coerce? coercible

/-- Parameters that admit arguments admit all arguments of their shapes. -/
theorem forall₂_admits_of_sameShape {assignment : String → DataType} {parameters : List Template}
    {arguments others : List DataType}
    (admits : List.Forall₂ (Template.Admits assignment) parameters arguments)
    (same : List.Forall₂ SameShape arguments others) :
    List.Forall₂ (Template.Admits assignment) parameters others := by
  induction admits generalizing others with
  | nil =>
    cases same
    exact .nil
  | cons first _ ih =>
    cases same with
    | cons firstSame restSame => exact .cons (first.of_sameShape firstSame) (ih restSame)

namespace Signature

/-- Arguments of the shapes of accepted ones are accepted. -/
theorem checkArguments_of_sameShape {signature : Signature} {arguments others : List DataType}
    (same : List.Forall₂ SameShape arguments others)
    (accepted : signature.checkArguments arguments = .ok ()) :
    signature.checkArguments others = .ok () := by
  obtain ⟨assignment, admits⟩ := checkArguments_eq_ok_iff.1 accepted
  exact checkArguments_eq_ok_iff.2 ⟨assignment, forall₂_admits_of_sameShape admits same⟩

/-- A signature accepts arguments or not by their shapes. -/
theorem accepts_eq_of_sameShape {arguments others : List DataType}
    (same : List.Forall₂ SameShape arguments others) (signature : Signature) :
    signature.accepts arguments = signature.accepts others := by
  rw [Bool.eq_iff_iff, accepts_iff, accepts_iff]
  exact ⟨checkArguments_of_sameShape same,
    checkArguments_of_sameShape (forall₂_sameShape_symm same)⟩

/-! ## Results -/

/-- The return rule gives types of one shape for arguments of the same shapes, and a nullable one stays
nullable when arguments become so. -/
theorem exists_returnedType_of_sameShape {signature : Signature} {arguments others : List DataType}
    (same : List.Forall₂ SameShape arguments others) {type : DataType}
    (returned : signature.returnedType arguments = .ok type) :
    ∃ other, signature.returnedType others = .ok other ∧ SameShape type other ∧
      (List.Forall₂ AtLeastAsNullable arguments others → AtLeastAsNullable type other) := by
  obtain ⟨constant, always⟩ | ⟨index, operation, carries, ruled⟩ :=
    signature.returnedType_fixed_or_carried
  · rw [always] at returned
    cases returned
    exact ⟨type, always others, .refl type, fun _ nullable => nullable⟩
  · obtain ⟨argument, found, made⟩ := (ruled arguments type).1 returned
    obtain ⟨other, foundOther, sameArgument⟩ := exists_getElem?_of_forall₂ same found
    obtain ⟨again, madeAgain, sameResult⟩ := carries.exists_of_sameShape sameArgument made
    refine ⟨again, (ruled others again).2 ⟨other, foundOther, madeAgain⟩, sameResult, ?_⟩
    -- the result has the nullability of the argument that the rule names
    intro growing nullable
    obtain ⟨sameOther, foundAgain, grows⟩ := exists_getElem?_of_forall₂ growing found
    obtain rfl : other = sameOther := Option.some_inj.1 (foundOther.symm.trans foundAgain)
    rw [DataType.isNullable, carries.nullability_eq made] at nullable
    rw [DataType.isNullable, carries.nullability_eq madeAgain]
    exact grows nullable

/-- A result that is nullable stays so when arguments become nullable, whatever rule decides. -/
theorem isNullable_resultNullability_of_forall₂ {rule : NullabilityRule}
    {arguments others : List DataType} {type other : DataType}
    (growing : List.Forall₂ AtLeastAsNullable arguments others)
    (grows : AtLeastAsNullable type other)
    (nullable : (rule.resultNullability arguments type).isNullable = true) :
    (rule.resultNullability others other).isNullable = true := by
  cases rule with
  | asDeclared => exact grows nullable
  | fromArguments =>
    rw [NullabilityRule.resultNullability, Nullability.isNullable_combineAll, List.any_map]
      at nullable ⊢
    exact any_isNullable_of_forall₂ growing nullable

/-- **Results follow shapes**: where arguments have a result, arguments of the same shapes have one of
the same shape, and a nullable result stays nullable when arguments become so. -/
theorem exists_outputType_of_sameShape {signature : Signature} {arguments others : List DataType}
    (same : List.Forall₂ SameShape arguments others) {type : DataType}
    (result : signature.outputType arguments = .ok type) :
    ∃ other, signature.outputType others = .ok other ∧ SameShape type other ∧
      (List.Forall₂ AtLeastAsNullable arguments others → AtLeastAsNullable type other) := by
  obtain ⟨accepted, base, returned, rfl⟩ := outputType_eq_ok_iff.1 result
  obtain ⟨other, returnedOther, sameBase, grows⟩ := exists_returnedType_of_sameShape same returned
  have acceptedOther := checkArguments_of_sameShape same accepted
  refine ⟨_, outputType_eq_ok_iff.2 ⟨acceptedOther, other, returnedOther, rfl⟩, ?_, ?_⟩
  · have kept := DataType.sameShape_withNullability
      (signature.nullability.resultNullability arguments base) base
    have keptOther := DataType.sameShape_withNullability
      (signature.nullability.resultNullability others other) other
    exact (kept.trans sameBase).trans keptOther.symm
  · intro growing nullable
    rw [DataType.isNullable, DataType.nullability_withNullability] at nullable ⊢
    exact isNullable_resultNullability_of_forall₂ growing (grows growing) nullable

end Signature

namespace Catalog

/-- A call is resolved by the shapes of its arguments. -/
theorem resolve_eq_ok_of_sameShape {catalog : Catalog} {kind : FunctionKind} {name : String}
    {arguments others : List DataType} (same : List.Forall₂ SameShape arguments others)
    (signature : Signature) :
    catalog.resolve kind name arguments = .ok signature ↔
      catalog.resolve kind name others = .ok signature := by
  have alike : ∀ found : Signature, found.accepts arguments = found.accepts others :=
    Signature.accepts_eq_of_sameShape same
  simp only [resolve_eq_ok_iff, alike]

/-- **The nullability of arguments decides neither the overload nor the shape of the result**: for
arguments of the same shapes a call is resolved to the same overload or to none, an overload has results
for both or for none, and the results have one shape. If moreover every argument that was nullable still
is, then so does the result. -/
theorem resolve_and_outputType_of_sameShape (signatures : List Signature) (kind : FunctionKind)
    (name : String) {arguments others : List DataType}
    (same : List.Forall₂ SameShape arguments others) :
    (∀ signature, (ofList signatures).resolve kind name arguments = .ok signature ↔
        (ofList signatures).resolve kind name others = .ok signature) ∧
      ∀ signature : Signature,
        ((∃ type, signature.outputType arguments = .ok type) ↔
            ∃ other, signature.outputType others = .ok other) ∧
          ∀ type other, signature.outputType arguments = .ok type →
            signature.outputType others = .ok other →
              SameShape type other ∧
                (List.Forall₂ AtLeastAsNullable arguments others →
                  type.isNullable = true → other.isNullable = true) := by
  refine ⟨resolve_eq_ok_of_sameShape same, fun signature => ⟨?_, ?_⟩⟩
  · constructor
    · rintro ⟨type, result⟩
      obtain ⟨other, resultOther, -⟩ := Signature.exists_outputType_of_sameShape same result
      exact ⟨other, resultOther⟩
    · rintro ⟨other, resultOther⟩
      obtain ⟨type, result, -⟩ := Signature.exists_outputType_of_sameShape
        (forall₂_sameShape_symm same) resultOther
      exact ⟨type, result⟩
  · intro type other result resultOther
    obtain ⟨again, resultAgain, sameResult, grows⟩ :=
      Signature.exists_outputType_of_sameShape same result
    obtain rfl : again = other := Except.ok.inj (resultAgain.symm.trans resultOther)
    exact ⟨sameResult, grows⟩

/-- A text padded to its largest length, with any other value. -/
def padText : Signature :=
  scalarSignature "Pad" [.sized .varChar "L" .required, .placeholder "T"]
    (.derived 0 (.sized .fixedChar "L" .required))

/-- Padding of two values of one shape, and of a text. -/
def padOverloads : List Signature :=
  [scalarSignature "pad" [.placeholder "T", .placeholder "T"] (.argument 1), padText]

/-- For a text that may be null and a number, the second overload is chosen. It still is when the number
may be null as well, and the result stays a text of eight characters that may be null. -/
theorem resolve_pad_of_nullable_number :
    let text : DataType := .atom (.sized .varChar 8) .nullable
    let number : DataType := .plain .i32
    List.Forall₂ SameShape [text, number] [text, number.asNullable] ∧
      (ofList padOverloads).resolve .scalar "PAD" [text, number.asNullable] = .ok padText ∧
      ∃ other, padText.outputType [text, number.asNullable] = .ok other ∧
        SameShape (.atom (.sized .fixedChar 8) .nullable) other ∧ other.isNullable = true := by
  intro text number
  have same : List.Forall₂ SameShape [text, number] [text, number.asNullable] :=
    .cons rfl (.cons rfl .nil)
  have growing : List.Forall₂ AtLeastAsNullable [text, number] [text, number.asNullable] :=
    .cons id (.cons (fun _ => rfl) .nil)
  have resolved : (ofList padOverloads).resolve .scalar "PAD" [text, number] = .ok padText := by
    decide +kernel
  have result :
      padText.outputType [text, number] = .ok (.atom (.sized .fixedChar 8) .nullable) := by
    decide
  obtain ⟨resolves, results⟩ :=
    resolve_and_outputType_of_sameShape padOverloads .scalar "PAD" same
  obtain ⟨succeeds, follows⟩ := results padText
  obtain ⟨other, resultOther⟩ := succeeds.1 ⟨_, result⟩
  obtain ⟨sameResult, grows⟩ := follows _ other result resultOther
  exact ⟨same, (resolves padText).1 resolved, other, resultOther, sameResult, grows growing rfl⟩

end Catalog

end QueryPlan

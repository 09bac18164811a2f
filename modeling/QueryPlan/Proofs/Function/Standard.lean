import QueryPlan.Proofs.DataType.Components
import QueryPlan.Proofs.DataType.Reading
import QueryPlan.Proofs.Function.OutputType
import QueryPlan.Proofs.Function.Resolution
import QueryPlan.Proofs.Template.TargetForms

/-! # Calls of the standard functions
Overloads are told apart by a parameter whose template takes no family of types that the other one takes
there, and an overload always has a result when its return rule only asks for what its parameters let
through. Both can be computed from the declarations, and both are true of the standard ones: a call has
at most one overload, and it fails only when it has none (`Catalog.standard_calls`). -/

namespace QueryPlan

open Outcome

/-! ## Templates apart -/

namespace Template

/-- Whether a template **takes** types of a family: a placeholder takes all of them, and every other
template its own family and the ones that announce its form. -/
def takes (template : Template) (family : Family) : Bool :=
  match template with
  | placeholder _ => true
  | template => template.family? = some family || template.form ∈ family.targetForms

/-- A parameter takes the family of each argument it admits. -/
theorem Admits.takes {assignment : String → DataType} {parameter : Template} {argument : DataType}
    (admits : parameter.Admits assignment argument) : parameter.takes argument.family = true := by
  cases parameter with
  | placeholder name => rfl
  | concrete type =>
    have same : type.family = argument.family := DataType.SameShape.family_eq admits.symm
    simp [Template.takes, family?, form, Form.family?, same]
  | sized | precise | decimal | struct | list | map =>
    obtain own | coercible := admits
    · simp [Template.takes, own]
    · simp [Template.takes, DataType.form_mem_targetForms coercible]

/-- Two templates are **apart** when no family of types is taken by both. -/
def Apart (left right : Template) : Prop :=
  ∀ family ∈ Family.all, ¬ (left.takes family = true ∧ right.takes family = true)

instance (left right : Template) : Decidable (left.Apart right) :=
  inferInstanceAs (Decidable (∀ family ∈ Family.all, ¬ (_ ∧ _)))

end Template

namespace Signature

/-- Two signatures are **apart** when they have different numbers of parameters, or parameters at one
position whose templates are apart. -/
def Apart (left right : Signature) : Prop :=
  left.parameters.length ≠ right.parameters.length ∨
    ∃ pair ∈ left.parameters.zip right.parameters, pair.1.Apart pair.2

instance (left right : Signature) : Decidable (left.Apart right) :=
  inferInstanceAs (Decidable (_ ≠ _ ∨ ∃ pair ∈ _, _))

/-- No arguments fit two signatures that are apart. -/
theorem Apart.not_both_accept {left right : Signature} (apart : left.Apart right)
    {arguments : List DataType} (first : left.accepts arguments = true)
    (second : right.accepts arguments = true) : False := by
  obtain ⟨assignment, admits⟩ := checkArguments_eq_ok_iff.1 (accepts_iff.1 first)
  obtain ⟨other, admitsToo⟩ := checkArguments_eq_ok_iff.1 (accepts_iff.1 second)
  obtain arity | ⟨pair, member, apart⟩ := apart
  · exact arity (admits.length_eq.trans admitsToo.length_eq.symm)
  · -- the argument at the position of the pair would have a family that both parameters take
    obtain ⟨index, bound, rfl⟩ := List.mem_iff_getElem.1 member
    rw [List.length_zip, Nat.lt_min, admits.length_eq] at bound
    have fits := admits.get (admits.length_eq ▸ bound.1) bound.1
    have fitsToo := admitsToo.get bound.2 (admitsToo.length_eq ▸ bound.2)
    rw [List.getElem_zip] at apart
    exact apart _ (Family.mem_all _) ⟨fits.takes, fitsToo.takes⟩

end Signature

/-! ## At most one overload -/

/-- Overloads are **distinguished** when two of one name and kind are always apart. -/
def Distinguished (signatures : List Signature) : Prop :=
  signatures.Pairwise fun left right =>
    Catalog.SameName left.name right.name → left.kind = right.kind → left.Apart right

/-- Of distinguished overloads at most one has the name and the kind of a call and accepts its
arguments. -/
theorem Distinguished.length_filter_overloads_le_one {signatures : List Signature}
    (distinguished : Distinguished signatures) (kind : FunctionKind) (name : String)
    (arguments : List DataType) :
    (((Catalog.ofList signatures).overloads name).filter fun found =>
      found.kind = kind && found.accepts arguments).length ≤ 1 := by
  rw [Catalog.overloads_ofList]
  have alone : ((signatures.filter fun found => Catalog.SameName found.name name).filter fun found =>
      found.kind = kind && found.accepts arguments).Pairwise fun _ _ => False := by
    refine List.Pairwise.imp_of_mem (fun first second apart => ?_)
      (distinguished.sublist (List.filter_sublist.trans List.filter_sublist))
    simp only [List.mem_filter, Bool.and_eq_true, decide_eq_true_eq] at first second
    obtain ⟨⟨-, name⟩, kind, accepts⟩ := first
    obtain ⟨⟨-, nameToo⟩, kindToo, acceptsToo⟩ := second
    exact (apart (name.trans nameToo.symm) (kind.trans kindToo.symm)).not_both_accept accepts acceptsToo
  -- a list whose members exclude each other has at most one
  generalize (signatures.filter fun found => Catalog.SameName found.name name).filter (fun found =>
    found.kind = kind && found.accepts arguments) = serving at alone
  match serving, alone with
  | [], _ | [_], _ => simp
  | first :: second :: rest, alone =>
    exact absurd List.mem_cons_self ((List.pairwise_cons.1 alone).1 second)

/-! ## Overloads that always have a result -/

/-- Whether a template stands for character strings of bounded length. -/
def Template.isCharacter : Template → Bool
  | sized kind _ _ => kind.isCharacter
  | _ => false

/-- A template for character strings of bounded length takes only their families. -/
theorem Template.exists_of_takes {template : Template} (bounded : template.isCharacter = true)
    {family : Family} (taken : template.takes family = true) :
    ∃ kind : LengthKind, kind.isCharacter = true ∧ family = .sized kind := by
  cases template with
  | sized kind length null =>
    simp only [takes, form, family?, Form.family?, Bool.or_eq_true, decide_eq_true_eq,
      Option.some_inj] at taken
    obtain rfl | announced := taken
    · exact ⟨kind, bounded, rfl⟩
    · obtain ⟨source, character, -, family⟩ :=
        Family.sized_mem_targetForms_iff.1 (of_decide_eq_true announced)
      exact ⟨source, character, family⟩
  | concrete | precise | decimal | struct | list | map | placeholder => cases bounded

/-- Types of character strings of bounded length can be coerced onto every template for such strings. -/
theorem DataType.isSome_coerce?_of_character {source : DataType} {kind : LengthKind}
    (character : kind.isCharacter = true) (family : source.family = .sized kind)
    (wellFormed : source.WellFormed) {target : Template} (bounded : target.isCharacter = true) :
    (source.coerce? target).isSome = true := by
  cases target with
  | sized targetKind text state =>
    exact isSome_coerce?_sized character bounded family (fun _ => wellFormed) text state
  | concrete | precise | decimal | struct | list | map | placeholder => cases bounded

namespace Signature

/-- Whether the return rule of a signature only asks for what its parameters let through: an argument
that is there, coerced at most from one template for character strings of bounded length onto another. -/
def alwaysReturns (signature : Signature) : Bool :=
  match signature.returns with
  | .fixed _ => true
  | .argument index => index < signature.parameters.length
  | .derived index target =>
    (signature.parameters[index]?.any Template.isCharacter) && target.isCharacter

/-- **Accepted arguments have a result** where the return rule only asks for what the parameters let
through. -/
theorem exists_outputType_of_accepts {signature : Signature} (returns : signature.alwaysReturns = true)
    {arguments : List DataType} (wellFormed : ∀ argument ∈ arguments, argument.WellFormed)
    (accepted : signature.accepts arguments = true) :
    ∃ type, signature.outputType arguments = .ok type := by
  have checked := accepts_iff.1 accepted
  obtain ⟨assignment, admits⟩ := checkArguments_eq_ok_iff.1 checked
  suffices returned : ∃ type, signature.returnedType arguments = .ok type by
    obtain ⟨type, returned⟩ := returned
    exact ⟨_, outputType_eq_ok_iff.2 ⟨checked, type, returned, rfl⟩⟩
  unfold alwaysReturns at returns
  unfold returnedType
  cases rule : signature.returns with
  | fixed type => exact ⟨type, rfl⟩
  | argument index =>
    simp only [rule, decide_eq_true_eq, admits.length_eq] at returns
    simp only [bind_eq_ok_iff, argumentAt_eq_ok_iff, pure_eq_ok_iff]
    exact ⟨_, arguments[index], List.getElem?_eq_getElem returns, rfl⟩
  | derived index target =>
    simp only [rule, Bool.and_eq_true, Option.any_eq_true] at returns
    obtain ⟨⟨parameter, found, bounded⟩, boundedToo⟩ := returns
    obtain ⟨inside, rfl⟩ := List.getElem?_eq_some_iff.1 found
    have insideToo : index < arguments.length := admits.length_eq ▸ inside
    have fits : signature.parameters[index].Admits assignment arguments[index] :=
      admits.get inside insideToo
    obtain ⟨kind, character, family⟩ := Template.exists_of_takes bounded fits.takes
    have coerced := DataType.isSome_coerce?_of_character character family
      (wellFormed _ (List.getElem_mem insideToo)) boundedToo
    obtain ⟨type, result⟩ := Option.isSome_iff_exists.1 coerced
    refine ⟨type, bind_eq_ok_iff.2
      ⟨_, argumentAt_eq_ok_iff.2 (List.getElem?_eq_getElem insideToo), ?_⟩⟩
    rw [result]
    rfl

end Signature

namespace Catalog

/-- The standard functions have lowercase names. -/
theorem lowercaseName_of_mem_standardSignatures :
    ∀ signature ∈ standardSignatures, Text.lowercaseName signature.name = signature.name := by
  have small : ∀ signature ∈ standardSignatures, signature.name.toList.all Text.isSmall = true := by
    decide +kernel
  intro signature declared
  rw [Text.lowercaseName, Text.lowercase_eq_self (small signature declared), String.ofList_toList]

/-- **The standard overloads are distinguished.** -/
theorem distinguished_standardSignatures : Distinguished standardSignatures := by
  have apart : standardSignatures.Pairwise fun left right =>
      left.name = right.name → left.kind = right.kind → left.Apart right := by
    decide +kernel
  refine List.Pairwise.imp_of_mem (fun {left right} first second apart same => apart ?_) apart
  rwa [SameName, lowercaseName_of_mem_standardSignatures left first,
    lowercaseName_of_mem_standardSignatures right second] at same

/-- Every standard overload always has a result. -/
theorem alwaysReturns_of_mem_standardSignatures :
    ∀ signature ∈ standardSignatures, signature.alwaysReturns = true := by
  decide +kernel

/-- A call of a standard function fails exactly when no declaration serves it. -/
theorem resolveCall_standard_eq_error_iff {kind : FunctionKind} {name : String}
    {arguments : List DataType} (wellFormed : ∀ argument ∈ arguments, argument.WellFormed)
    {error : PlanError} : standard.resolveCall kind name arguments = .error error ↔
      error = .noMatchingFunction kind name arguments ∧
        ∀ found ∈ standardSignatures, ¬ Serves kind name arguments found := by
  rw [← resolve_ofList_eq_error_iff, resolveCall, bind_eq_error_iff]
  refine or_iff_left ?_
  rintro ⟨signature, resolved, failed⟩
  obtain ⟨before, after, split, ⟨-, -, accepts⟩, -⟩ := resolve_ofList_eq_ok_iff.1 resolved
  have declared : signature ∈ standardSignatures := by simp [split]
  -- what is resolved has a result, so that nothing behind the resolution fails
  obtain ⟨type, result⟩ := Signature.exists_outputType_of_accepts
    (alwaysReturns_of_mem_standardSignatures signature declared) wellFormed accepts
  rw [result] at failed
  cases failed

/-- A call of a scalar function fails exactly when it cannot be resolved to an overload and its type. -/
theorem scalar_eq_error_iff {catalog : Catalog} {name : String} {expressions : List Expression}
    {error : PlanError} : catalog.scalar name expressions = .error error ↔
      catalog.resolveCall .scalar name (expressions.map Expression.type) = .error error := by
  rw [scalar, bind_eq_error_iff]
  exact or_iff_left (by simp [pure, Except.pure])

/-- A call of an aggregate function fails exactly when it cannot be resolved to an overload and its
type. -/
theorem aggregate_eq_error_iff {catalog : Catalog} {name : String} {expressions : List Expression}
    {error : PlanError} : catalog.aggregate name expressions = .error error ↔
      catalog.resolveCall .aggregate name (expressions.map Expression.type) = .error error := by
  rw [aggregate, bind_eq_error_iff]
  exact or_iff_left (by simp [pure, Except.pure])

/-- **Calls of standard functions have one meaning and do not fail late.** For well-formed arguments, at
most one standard overload of a name and kind accepts them, and one that accepts them has a result for
them. So a call of a scalar or an aggregate function fails in one way only, and exactly when no
declaration serves it. -/
theorem standard_calls :
    (∀ (kind : FunctionKind) (name : String) (arguments : List DataType),
      (∀ argument ∈ arguments, argument.WellFormed) →
        ((standard.overloads name).filter fun found =>
          found.kind = kind && found.accepts arguments).length ≤ 1 ∧
        ∀ found ∈ standard.overloads name, found.kind = kind → found.accepts arguments = true →
          ∃ type, found.outputType arguments = .ok type) ∧
    ∀ (name : String) (expressions : List Expression),
      (∀ expression ∈ expressions, expression.type.WellFormed) →
        (∀ error, standard.scalar name expressions = .error error ↔
          error = .noMatchingFunction .scalar name (expressions.map Expression.type) ∧
            ∀ found ∈ standardSignatures,
              ¬ Serves .scalar name (expressions.map Expression.type) found) ∧
        ∀ error, standard.aggregate name expressions = .error error ↔
          error = .noMatchingFunction .aggregate name (expressions.map Expression.type) ∧
            ∀ found ∈ standardSignatures,
              ¬ Serves .aggregate name (expressions.map Expression.type) found := by
  constructor
  · intro kind name arguments wellFormed
    refine ⟨distinguished_standardSignatures.length_filter_overloads_le_one kind name arguments, ?_⟩
    intro found member _ accepts
    rw [standard, overloads_ofList] at member
    exact Signature.exists_outputType_of_accepts
      (alwaysReturns_of_mem_standardSignatures found (List.mem_of_mem_filter member)) wellFormed accepts
  · intro name expressions wellFormed
    have typesWellFormed : ∀ type ∈ expressions.map Expression.type, type.WellFormed :=
      List.forall_mem_map.2 wellFormed
    constructor
    · intro error
      rw [scalar_eq_error_iff, resolveCall_standard_eq_error_iff typesWellFormed]
    · intro error
      rw [aggregate_eq_error_iff, resolveCall_standard_eq_error_iff typesWellFormed]

/-- A string of at most eight characters that may be null can be trimmed: there is one overload for it,
which has a result, so that the call is built. -/
theorem standard_calls_trimming :
    let text : DataType := .atom (.sized .varChar 8) .nullable
    let trim := scalarSignature "rtrim" [anyFixedChar] (.derived 0 anyVarChar)
    text.WellFormed ∧
      ((standard.overloads "RTRIM").filter fun found =>
        found.kind = .scalar && found.accepts [text]).length ≤ 1 ∧
      trim ∈ standard.overloads "RTRIM" ∧ (∃ type, trim.outputType [text] = .ok type) ∧
      ∃ call, standard.scalar "RTRIM" [.field ⟨0, text⟩] = .ok call := by
  intro text trim
  have wellFormed : text.WellFormed := show (1 : UInt32) ≤ 8 by decide
  have declared : trim ∈ standardSignatures := by simp [standardSignatures, characterFunctions, trim]
  have sameName : SameName trim.name "RTRIM" := by decide +kernel
  have accepts : trim.accepts [text] = true := by decide
  have overload : trim ∈ standard.overloads "RTRIM" := by
    rw [standard, overloads_ofList, List.mem_filter, decide_eq_true_iff]
    exact ⟨declared, sameName⟩
  obtain ⟨calls, failures⟩ := standard_calls
  obtain ⟨one, results⟩ := calls .scalar "RTRIM" [text] (List.forall_mem_singleton.2 wellFormed)
  obtain ⟨scalars, -⟩ :=
    failures "RTRIM" [.field ⟨0, text⟩] (List.forall_mem_singleton.2 wellFormed)
  refine ⟨wellFormed, one, overload, results trim overload rfl accepts, ?_⟩
  cases built : standard.scalar "RTRIM" [.field ⟨0, text⟩] with
  | ok call => exact ⟨call, rfl⟩
  | error error => exact absurd ⟨sameName, rfl, accepts⟩ (((scalars error).1 built).2 trim declared)

end Catalog

end QueryPlan

import QueryPlan.Proofs.Function.Standard

/-! # Results of the standard functions
What a call of a standard function gives is said here by the name of the function and the types of the
arguments, without its declarations: a table of the shapes of results (`Catalog.ResultShape`), and for
which functions a result may be null. Whatever overload a call is resolved to, its result is the one of
the table (`Catalog.standard_results`). -/

namespace QueryPlan

open DataType (SameShape)
open Outcome

/-! ## Results by rule -/

namespace Signature

variable {signature : Signature} {arguments : List DataType} {type : DataType}

/-- A result has the shape that the return rule gives for arguments that the parameters admit. -/
theorem exists_returned_of_outputType (result : signature.outputType arguments = .ok type) :
    ∃ assignment returned, List.Forall₂ (Template.Admits assignment) signature.parameters arguments ∧
      signature.returnedType arguments = .ok returned ∧ SameShape type returned := by
  obtain ⟨checked, returned, given, rfl⟩ := outputType_eq_ok_iff.1 result
  obtain ⟨assignment, admits⟩ := checkArguments_eq_ok_iff.1 checked
  exact ⟨assignment, returned, admits, given, DataType.sameShape_withNullability _ returned⟩

/-- Where the return rule names a type, results have its shape. -/
theorem sameShape_of_fixed {fixed : DataType} (returns : signature.returns = .fixed fixed)
    (result : signature.outputType arguments = .ok type) : SameShape type fixed := by
  obtain ⟨-, returned, -, given, same⟩ := exists_returned_of_outputType result
  simp only [returnedType, returns, Except.ok.injEq] at given
  exact given ▸ same

/-- A result that takes its nullability from the arguments is nullable when some argument is. -/
theorem isNullable_iff_of_fromArguments (rule : signature.nullability = .fromArguments)
    (result : signature.outputType arguments = .ok type) :
    type.isNullable = true ↔ ∃ argument ∈ arguments, argument.isNullable = true := by
  obtain ⟨-, returned, -, rfl⟩ := outputType_eq_ok_iff.1 result
  rw [rule, DataType.isNullable, DataType.nullability_withNullability,
    NullabilityRule.resultNullability, Nullability.isNullable_combineAll, List.any_map,
    List.any_eq_true]
  rfl

/-- Whether all results of a signature have one nullability, because it declares their type. -/
def declares (null : Nullability) (signature : Signature) : Bool :=
  match signature.returns, signature.nullability with
  | .fixed type, .asDeclared => type.nullability = null
  | _, _ => false

/-- A declared result has the declared nullability. -/
theorem nullability_eq_of_declares {null : Nullability} (declared : signature.declares null = true)
    (result : signature.outputType arguments = .ok type) : type.nullability = null := by
  obtain ⟨-, returned, given, rfl⟩ := outputType_eq_ok_iff.1 result
  unfold declares at declared
  split at declared
  · rename_i fixed returns rule
    simp only [returnedType, returns, Except.ok.injEq] at given
    rw [DataType.nullability_withNullability, rule, NullabilityRule.resultNullability, ← given]
    exact of_decide_eq_true declared
  · cases declared

end Signature

/-! ## Character strings -/

namespace DataType

/-- Only character strings of bounded length are coerced onto strings of variable length, and they keep
their length. -/
theorem exists_length_of_coerce?_varChar {source type : DataType} {text : String} {null : Nullability}
    (coerced : source.coerce? (.sized .varChar text null) = some type) :
    ∃ kind length state, kind.isCharacter = true ∧ source = .atom (.sized kind length) state ∧
      type = .atom (.sized .varChar length) state := by
  cases coerce?_eq_some_iff.1 coerced with
  | bounded character => exact ⟨_, _, _, character, rfl, rfl⟩

/-- An argument that a template for strings of variable length admits can be coerced onto it. -/
theorem exists_coerce?_of_admits_varChar {assignment : String → DataType} {argument : DataType}
    {text : String} {null : Nullability}
    (admits : (Template.sized .varChar text null).Admits assignment argument) :
    ∃ made, argument.coerce? (.sized .varChar text null) = some made := by
  refine Option.isSome_iff_exists.1 ?_
  obtain own | coercible := admits
  · have family : argument.family = .sized .varChar := (Option.some_inj.1 own).symm
    exact isSome_coerce?_sized rfl rfl family (absurd rfl) text null
  · exact coercible

/-- A type with the shape of a plain kind is of that kind. -/
theorem SameShape.exists_eq_plain {type : DataType} {kind : PlainKind}
    (same : SameShape type (plain kind)) : ∃ null, type = .atom (.plain kind) null :=
  ⟨type.nullability, same.symm.eq_withNullability⟩

end DataType

/-- The arguments of a single parameter are a single argument. -/
theorem exists_eq_singleton_of_forall₂ {α β : Type} {related : α → β → Prop} {left : α}
    {rights : List β} (all : List.Forall₂ related [left] rights) :
    ∃ right, rights = [right] ∧ related left right := by
  obtain ⟨right, rest, one, none, rfl⟩ := List.forall₂_cons_left_iff.1 all
  obtain rfl := List.forall₂_nil_left_iff.1 none
  exact ⟨right, rfl, one⟩

namespace Catalog

/-! ## The table -/

/-- The **shape of the result** of a standard function, by its kind and its name, for arguments of the
given types. -/
inductive ResultShape : FunctionKind → String → List DataType → DataType → Prop
  /-- Arithmetic gives the shape that both arguments share. -/
  | arithmetic {name : String} {left right : DataType}
    (named : name ∈ ["add", "subtract", "multiply", "divide"]) (shared : SameShape left right) :
    ResultShape .scalar name [left, right] left
  /-- Comparisons, logic and the test for null give truth values. -/
  | truth {name : String} {arguments : List DataType}
    (named : name ∈ ["equal", "not_equal", "lt", "lte", "gt", "gte", "and", "or", "not", "is_null"]) :
    ResultShape .scalar name arguments (.plain .boolean)
  /-- Strings of bounded length keep their length, but become variable. -/
  | bounded {name : String} {kind : LengthKind} {length : UInt32} {null : Nullability}
    (named : name ∈ ["upper", "lower", "rtrim"]) (character : kind.isCharacter = true) :
    ResultShape .scalar name [.atom (.sized kind length) null] (.atom (.sized .varChar length) .required)
  /-- Strings of any length stay so when their case is changed. -/
  | unbounded {name : String} {null : Nullability} (named : name ∈ ["upper", "lower"]) :
    ResultShape .scalar name [.atom (.plain .string) null] (.plain .string)
  /-- Concatenation gives strings of any length. -/
  | concatenation {arguments : List DataType} : ResultShape .scalar "concat" arguments (.plain .string)
  /-- Extremes and averages have the shape of the argument. -/
  | extreme {name : String} {argument : DataType} (named : name ∈ ["min", "max", "avg"]) :
    ResultShape .aggregate name [argument] argument
  /-- Sums of integers are long integers. -/
  | integerSum {name : String} {kind : PlainKind} {null : Nullability}
    (named : name ∈ ["sum", "sum0"]) (integer : kind ∈ integerKinds) :
    ResultShape .aggregate name [.atom (.plain kind) null] (.plain .i64)
  /-- Sums of floating point numbers are of double width. -/
  | floatSum {name : String} {kind : PlainKind} {null : Nullability}
    (named : name ∈ ["sum", "sum0"]) (float : kind ∈ floatKinds) :
    ResultShape .aggregate name [.atom (.plain kind) null] (.plain .fp64)
  /-- Counts are long integers. -/
  | count {arguments : List DataType} : ResultShape .aggregate "count" arguments (.plain .i64)

/-- What the **result** of a standard function is. -/
structure StandardResult (kind : FunctionKind) (name : String) (arguments : List DataType)
    (type : DataType) : Prop where
  /-- It has the shape of the table. -/
  shaped : ∃ shape, ResultShape kind name arguments shape ∧ SameShape type shape
  /-- The result of a scalar function is nullable when some argument is, unless it tests for null. -/
  scalar : kind = .scalar → name ≠ "is_null" →
    (type.isNullable = true ↔ ∃ argument ∈ arguments, argument.isNullable = true)
  /-- Tests for null, counts and the sum that starts at zero are never null. -/
  required : name ∈ ["is_null", "count", "sum0"] → type.isNullable = false
  /-- Over no rows there are no extremes, averages and sums. -/
  nullable : name ∈ ["min", "max", "avg", "sum"] → type.isNullable = true

/-! ## Shapes, declaration by declaration -/

variable {signature : Signature} {arguments : List DataType} {type : DataType}

/-- Arithmetic gives the shape that its arguments share. -/
theorem shaped_of_mem_arithmetic (declared : signature ∈ arithmetic)
    (result : signature.outputType arguments = .ok type) :
    ∃ shape, ResultShape signature.kind signature.name arguments shape ∧ SameShape type shape := by
  simp only [arithmetic, List.mem_flatMap, List.mem_map] at declared
  obtain ⟨kind, -, name, named, rfl⟩ := declared
  obtain ⟨assignment, returned, admits, given, same⟩ := Signature.exists_returned_of_outputType result
  obtain ⟨left, rest, onLeft, others, rfl⟩ := List.forall₂_cons_left_iff.1 admits
  obtain ⟨right, none, onRight, noMore, rfl⟩ := List.forall₂_cons_left_iff.1 others
  obtain rfl := List.forall₂_nil_left_iff.1 noMore
  -- the first argument stands at a bound parameter, so that it is returned as it is
  obtain rfl : left = returned := Except.ok.inj given
  exact ⟨left, .arithmetic named (DataType.SameShape.trans onLeft (DataType.SameShape.symm onRight)),
    same⟩

/-- Comparisons and logic give truth values. -/
theorem shaped_of_mem_comparisons_or_logic (declared : signature ∈ comparisons ++ logic)
    (result : signature.outputType arguments = .ok type) :
    ∃ shape, ResultShape signature.kind signature.name arguments shape ∧ SameShape type shape := by
  have boolean : ∀ found ∈ comparisons ++ logic, found.kind = .scalar ∧
      found.returns = .fixed (.plain .boolean) ∧
      found.name ∈ ["equal", "not_equal", "lt", "lte", "gt", "gte", "and", "or", "not", "is_null"] := by
    decide
  obtain ⟨scalar, returns, named⟩ := boolean signature declared
  rw [scalar]
  exact ⟨.plain .boolean, .truth named, Signature.sameShape_of_fixed returns result⟩

/-- What is made of a string of bounded length is a string of variable length with the same length. -/
theorem shaped_of_coerce?_varChar {name : String} (named : name ∈ ["upper", "lower", "rtrim"])
    {argument returned : DataType} (coerced : argument.coerce? anyVarChar = some returned)
    (same : SameShape type returned) :
    ∃ shape, ResultShape .scalar name [argument] shape ∧ SameShape type shape := by
  obtain ⟨kind, length, state, character, rfl, rfl⟩ :=
    DataType.exists_length_of_coerce?_varChar coerced
  exact ⟨_, .bounded named character, same⟩

/-- Functions of character strings give strings, of the same length where it is bounded. -/
theorem shaped_of_mem_characterFunctions (declared : signature ∈ characterFunctions)
    (result : signature.outputType arguments = .ok type) :
    ∃ shape, ResultShape signature.kind signature.name arguments shape ∧ SameShape type shape := by
  obtain ⟨assignment, returned, admits, given, same⟩ := Signature.exists_returned_of_outputType result
  obtain casing | others := List.mem_append.1 declared
  · obtain ⟨name, named, member⟩ := List.mem_flatMap.1 casing
    obtain rfl | rfl : _ ∨ _ := by simpa using member
    · obtain ⟨argument, rfl, onArgument⟩ := exists_eq_singleton_of_forall₂ admits
      obtain ⟨made, coerced⟩ := DataType.exists_coerce?_of_admits_varChar onArgument
      -- the argument is returned as it is coerced onto its parameter
      have returnedMade : returned = made := by
        have applied : returned = (argument.coerce? anyVarChar).getD argument :=
          (Except.ok.inj given).symm
        rw [applied, anyVarChar, coerced, Option.getD_some]
      exact shaped_of_coerce?_varChar (List.mem_append_left ["rtrim"] named)
        (returnedMade ▸ coerced) same
    · obtain ⟨argument, rfl, onArgument⟩ := exists_eq_singleton_of_forall₂ admits
      obtain ⟨null, rfl⟩ := DataType.SameShape.exists_eq_plain onArgument
      obtain rfl : _ = returned := Except.ok.inj given
      exact ⟨_, .unbounded named, same⟩
  · obtain rfl | rfl : _ ∨ _ := by simpa using others
    · obtain ⟨argument, rfl, -⟩ := exists_eq_singleton_of_forall₂ admits
      obtain ⟨source, found, coerced⟩ := Signature.exists_coerce?_of_derived rfl given
      obtain rfl : argument = source := Option.some_inj.1 found
      exact shaped_of_coerce?_varChar (by decide) coerced same
    · exact ⟨_, .concatenation, Signature.sameShape_of_fixed rfl result⟩

/-- Sums of integers are long integers, and sums of floating point numbers are of double width. -/
theorem shaped_of_sum {name : String} (named : name ∈ ["sum", "sum0"]) {kind : PlainKind}
    (numeric : kind ∈ numericKinds) {null : Nullability}
    (same : SameShape type (.plain (if kind ∈ floatKinds then .fp64 else .i64))) :
    ∃ shape, ResultShape .aggregate name [.atom (.plain kind) null] shape ∧ SameShape type shape := by
  by_cases float : kind ∈ floatKinds
  · rw [if_pos float] at same
    exact ⟨_, .floatSum named float, same⟩
  · rw [if_neg float] at same
    have integer : kind ∈ integerKinds := (List.mem_append.1 numeric).resolve_right float
    exact ⟨_, .integerSum named integer, same⟩

/-- Aggregates of a numeric type take one argument of that type. -/
theorem parameters_of_mem_numericAggregates {kind : PlainKind}
    (declared : signature ∈ numericAggregates kind) : signature.parameters = [exactly kind] := by
  obtain extremes | sums := List.mem_append.1 declared
  · obtain ⟨name, -, rfl⟩ := List.mem_map.1 extremes
    rfl
  · obtain rfl | rfl : _ ∨ _ := by simpa using sums
    · rfl
    · rfl

/-- Aggregates of a numeric type have its shape or are sums. -/
theorem shaped_of_mem_numericAggregates {kind : PlainKind} (numeric : kind ∈ numericKinds)
    (declared : signature ∈ numericAggregates kind)
    (result : signature.outputType arguments = .ok type) :
    ∃ shape, ResultShape signature.kind signature.name arguments shape ∧ SameShape type shape := by
  obtain ⟨assignment, -, admits, -⟩ := Signature.exists_returned_of_outputType result
  rw [parameters_of_mem_numericAggregates declared] at admits
  obtain ⟨argument, rfl, onArgument⟩ := exists_eq_singleton_of_forall₂ admits
  obtain ⟨null, rfl⟩ := DataType.SameShape.exists_eq_plain onArgument
  obtain extremes | sums := List.mem_append.1 declared
  · obtain ⟨name, named, rfl⟩ := List.mem_map.1 extremes
    have same : SameShape type (DataType.plain kind).asNullable :=
      Signature.sameShape_of_fixed rfl result
    exact ⟨_, .extreme named, same⟩
  · obtain rfl | rfl : _ ∨ _ := by simpa using sums
    · have nullable := Signature.sameShape_of_fixed rfl result
      exact shaped_of_sum List.mem_cons_self numeric
        (nullable.trans (DataType.sameShape_withNullability _ _))
    · exact shaped_of_sum (List.mem_cons_of_mem _ List.mem_cons_self) numeric
        (Signature.sameShape_of_fixed rfl result)

/-- Counts are long integers. -/
theorem shaped_of_mem_counts (declared : signature ∈ counts)
    (result : signature.outputType arguments = .ok type) :
    ∃ shape, ResultShape signature.kind signature.name arguments shape ∧ SameShape type shape := by
  obtain rfl | rfl : _ ∨ _ := by simpa [counts] using declared
  · exact ⟨_, .count, Signature.sameShape_of_fixed rfl result⟩
  · exact ⟨_, .count, Signature.sameShape_of_fixed rfl result⟩

/-- The result of every standard declaration has the shape of the table. -/
theorem shaped_of_mem_standardSignatures (declared : signature ∈ standardSignatures)
    (result : signature.outputType arguments = .ok type) :
    ∃ shape, ResultShape signature.kind signature.name arguments shape ∧ SameShape type shape := by
  simp only [standardSignatures, List.append_assoc, List.mem_append, List.mem_flatMap] at declared
  obtain inArithmetic | inComparisons | inLogic | inCharacter | ⟨kind, numeric, inAggregates⟩ |
    inCounts := declared
  · exact shaped_of_mem_arithmetic inArithmetic result
  · exact shaped_of_mem_comparisons_or_logic (List.mem_append_left _ inComparisons) result
  · exact shaped_of_mem_comparisons_or_logic (List.mem_append_right _ inLogic) result
  · exact shaped_of_mem_characterFunctions inCharacter result
  · exact shaped_of_mem_numericAggregates numeric inAggregates result
  · exact shaped_of_mem_counts inCounts result

/-! ## Results of calls -/

/-- The standard declarations mirror or declare the nullability of their results by their names. -/
theorem nullabilities_standardSignatures : ∀ found ∈ standardSignatures,
    (found.kind = .scalar → found.name ≠ "is_null" → found.nullability = .fromArguments) ∧
    (found.name ∈ ["is_null", "count", "sum0"] → found.declares .required = true) ∧
    (found.name ∈ ["min", "max", "avg", "sum"] → found.declares .nullable = true) := by
  decide +kernel

/-- The result of every standard declaration is the one of its name. -/
theorem standardResult_of_mem (declared : signature ∈ standardSignatures)
    (result : signature.outputType arguments = .ok type) :
    StandardResult signature.kind signature.name arguments type := by
  obtain ⟨mirrored, required, nullable⟩ := nullabilities_standardSignatures signature declared
  refine ⟨shaped_of_mem_standardSignatures declared result, ?_, ?_, ?_⟩
  · intro scalar other
    exact Signature.isNullable_iff_of_fromArguments (mirrored scalar other) result
  · intro named
    rw [DataType.isNullable, Signature.nullability_eq_of_declares (required named) result]
    rfl
  · intro named
    rw [DataType.isNullable, Signature.nullability_eq_of_declares (nullable named) result]
    rfl

/-- **Results of the standard functions**: a call that is resolved has a result for well-formed
arguments, and whatever its overload, the result has the shape and the nullability that the name of the
function, in lowercase, stands for. -/
theorem standard_results {kind : FunctionKind} {name : String}
    (resolved : standard.resolve kind name arguments = .ok signature) :
    ((∀ argument ∈ arguments, argument.WellFormed) →
      ∃ type, signature.outputType arguments = .ok type) ∧
    ∀ type, signature.outputType arguments = .ok type →
      StandardResult kind (Text.lowercaseName name) arguments type := by
  obtain ⟨before, after, split, ⟨sameName, rfl, accepts⟩, -⟩ := resolve_ofList_eq_ok_iff.1 resolved
  have declared : signature ∈ standardSignatures := by simp [split]
  constructor
  · intro wellFormed
    exact Signature.exists_outputType_of_accepts
      (alwaysReturns_of_mem_standardSignatures signature declared) wellFormed accepts
  · intro type result
    rw [← sameName, lowercaseName_of_mem_standardSignatures signature declared]
    exact standardResult_of_mem declared result

/-- Trimming a padded string of eight characters that may be null has a result: a string of at most
eight characters that may be null, as the table says. -/
theorem standard_results_trimming :
    let text : DataType := .atom (.sized .fixedChar 8) .nullable
    let trimmed : DataType := .atom (.sized .varChar 8) .nullable
    let trim := scalarSignature "rtrim" [anyFixedChar] (.derived 0 anyVarChar)
    standard.resolve .scalar "RTrim" [text] = .ok trim ∧ text.WellFormed ∧
      (∃ type, trim.outputType [text] = .ok type) ∧ trim.outputType [text] = .ok trimmed ∧
      StandardResult .scalar "rtrim" [text] trimmed := by
  intro text trimmed trim
  have resolved : standard.resolve .scalar "RTrim" [text] = .ok trim := by decide +kernel
  have wellFormed : text.WellFormed := show (1 : UInt32) ≤ 8 by decide
  have result : trim.outputType [text] = .ok trimmed := by decide
  have lowercase : Text.lowercaseName "RTrim" = "rtrim" := by decide +kernel
  obtain ⟨returns, results⟩ := standard_results resolved
  exact ⟨resolved, wellFormed, returns (List.forall_mem_singleton.2 wellFormed), result,
    lowercase ▸ results trimmed result⟩

end Catalog

end QueryPlan

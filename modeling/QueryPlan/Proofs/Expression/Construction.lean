import QueryPlan.Proofs.DataType.Reading
import QueryPlan.Proofs.Expression.Nodes

/-! # Constructed expressions
A literal or an expression is **constructed** when it results from a finite composition of successful
constructors. The constructors check what they are given: in a constructed expression each literal has
a value of its type, and each conditional is the one that its clauses and its last expression give
(`Expression.Constructed.wellTyped`). -/

namespace QueryPlan

open Outcome

namespace Literal

/-- A value is given a type exactly when it agrees with it. -/
theorem typed_eq_ok_iff {value : LiteralValue} {type : DataType} {literal : Literal} :
    typed value type = .ok literal ↔ agrees value type = .ok true ∧ literal = ⟨value, type⟩ := by
  rw [typed, bind_eq_ok_iff]
  constructor
  · rintro ⟨agreeing, compared, given⟩
    cases agreeing with
    | false => cases given
    | true =>
      cases given
      exact ⟨compared, rfl⟩
  · rintro ⟨compared, rfl⟩
    exact ⟨true, compared, rfl⟩

/-- A literal is **well typed** when its value can be given its type. -/
def WellTyped (literal : Literal) : Prop := typed literal.value literal.type = .ok literal

/-- A literal is well typed when its value agrees with its type. -/
theorem wellTyped_iff {literal : Literal} :
    literal.WellTyped ↔ agrees literal.value literal.type = .ok true := by
  simp [WellTyped, typed_eq_ok_iff]

/-- Whether a value other than null agrees with a type does not depend on its nullability. -/
theorem agrees_withNullability {value : LiteralValue} (present : value ≠ .null) (null : Nullability)
    (type : DataType) : agrees value (type.withNullability null) = agrees value type := by
  cases value with
  | null => exact absurd rfl present
  | boolean | i8 | i16 | i32 | i64 | fp32 | fp64 | string | fixedChar | varChar | date =>
    cases type with
    | struct | list | map => rfl
    | atom kind =>
      -- the comparison looks at the kind of atom as well, though never at the nullability
      cases kind with
      | plain found => cases found <;> rfl
      | sized found => cases found <;> rfl
      | precise | decimal | userDefined => rfl

/-- What agrees with a type agrees with the nullable type of the same shape. -/
theorem agrees_asNullable {value : LiteralValue} {type : DataType}
    (agreeing : agrees value type = .ok true) : agrees value type.asNullable = .ok true := by
  by_cases absent : value = .null
  · subst absent
    simp [agrees]
  · rw [DataType.asNullable, agrees_withNullability absent, agreeing]

/-- The literals that the constructors give. -/
inductive Constructed : Literal → Prop
  | boolean (value : Bool) : Constructed (boolean value)
  | i8 (value : Int8) : Constructed (i8 value)
  | i16 (value : Int16) : Constructed (i16 value)
  | i32 (value : Int32) : Constructed (i32 value)
  | i64 (value : Int64) : Constructed (i64 value)
  | fp32 (bits : UInt32) : Constructed (fp32 bits)
  | fp64 (bits : UInt64) : Constructed (fp64 bits)
  | string (value : String) : Constructed (string value)
  | date (days : Int32) : Constructed (date days)
  | fixedChar {value : String} {literal : Literal} (checked : fixedChar value = .ok literal) :
    Constructed literal
  | varChar {value : String} {length : UInt32} {literal : Literal}
    (checked : varChar value length = .ok literal) : Constructed literal
  | null (type : DataType) : Constructed (null type)
  | nullable {literal : Literal} (constructed : Constructed literal) : Constructed literal.nullable
  | typed {value : LiteralValue} {type : DataType} {literal : Literal}
    (checked : typed value type = .ok literal) : Constructed literal

/-- A character string of fixed length is well typed. -/
theorem wellTyped_of_fixedChar {value : String} {literal : Literal}
    (checked : fixedChar value = .ok literal) : literal.WellTyped := by
  simp only [fixedChar, liftType, bind_eq_ok_iff, mapError_eq_ok_iff, pure_eq_ok_iff,
    DataType.ofAtom_eq_ok_iff] at checked
  obtain ⟨length, counted, type, ⟨-, rfl⟩, rfl⟩ := checked
  simp [wellTyped_iff, agrees, counted]

/-- A character string of variable length is well typed. -/
theorem wellTyped_of_varChar {value : String} {length : UInt32} {literal : Literal}
    (checked : varChar value length = .ok literal) : literal.WellTyped := by
  simp only [varChar, liftType, bind_eq_ok_iff, mapError_eq_ok_iff,
    DataType.ofAtom_eq_ok_iff] at checked
  obtain ⟨type, ⟨-, rfl⟩, count, counted, passed⟩ := checked
  by_cases longer : length < count
  · rw [if_pos longer] at passed
    cases passed
  · rw [if_neg longer] at passed
    cases passed
    simp [wellTyped_iff, agrees, counted, UInt32.not_lt.1 longer]

/-- Every constructed literal is well typed. -/
theorem Constructed.wellTyped {literal : Literal} (constructed : literal.Constructed) :
    literal.WellTyped := by
  induction constructed with
  | boolean | i8 | i16 | i32 | i64 | fp32 | fp64 | string | date => rfl
  | fixedChar checked => exact wellTyped_of_fixedChar checked
  | varChar checked => exact wellTyped_of_varChar checked
  | null type => exact wellTyped_iff.2 (by simp [Literal.null, agrees])
  | nullable _ ih => exact wellTyped_iff.2 (agrees_asNullable (wellTyped_iff.1 ih))
  | typed checked =>
    obtain ⟨agreeing, rfl⟩ := typed_eq_ok_iff.1 checked
    exact checked

end Literal

namespace Expression

/-- The expressions that the constructors give. A call that a catalog resolves is one of them. -/
inductive Constructed : Expression → Prop
  | literal {constant : Literal} (constructed : constant.Constructed) : Constructed (literal constant)
  | field (reference : FieldReference) : Constructed (field reference)
  | call (function : FunctionReference) {arguments : List Expression} (type : DataType)
    (constructed : ∀ argument ∈ arguments, Constructed argument) :
    Constructed (call function arguments type)
  | cast {input : Expression} (type : DataType) (constructed : Constructed input) :
    Constructed (cast input type)
  | conditional {clauses : List (Expression × Expression)} {otherwise built : Expression}
    (conditions : ∀ clause ∈ clauses, Constructed clause.1)
    (results : ∀ clause ∈ clauses, Constructed clause.2) (last : Constructed otherwise)
    (checked : conditional clauses otherwise = .ok built) : Constructed built

/-- A conditional is built with its clauses and its last expression as they are. -/
theorem exists_of_conditional {clauses : List (Expression × Expression)} {otherwise built : Expression}
    (checked : conditional clauses otherwise = .ok built) :
    ∃ type, built = ifThen clauses otherwise type := by
  simp only [conditional, bind_eq_ok_iff, pure_eq_ok_iff] at checked
  obtain ⟨null, -, rfl⟩ := checked
  exact ⟨_, rfl⟩

/-- The root of an expression is **well typed** when it is a well-typed literal, a conditional that its
clauses and its last expression give, or of another form. -/
def RootWellTyped : Expression → Prop
  | literal constant => constant.WellTyped
  | ifThen clauses otherwise type =>
    conditional clauses otherwise = .ok (ifThen clauses otherwise type)
  | field _ | call _ _ _ | cast _ _ => True

/-- An expression is **well typed** when it is at every node. -/
def WellTyped (expression : Expression) : Prop := ∀ node ∈ expression.nodes, node.RootWellTyped

/-- An expression is well typed when its root and its parts are. -/
theorem wellTyped_iff {expression : Expression} :
    expression.WellTyped ↔ expression.RootWellTyped ∧ ∀ part ∈ expression.parts, part.WellTyped :=
  forall_mem_nodes

/-- **What the constructors establish**: every constructed expression is well typed at each node. -/
theorem Constructed.wellTyped {expression : Expression} (constructed : expression.Constructed) :
    expression.WellTyped := by
  induction constructed with
  | literal constructed => exact wellTyped_iff.2 ⟨constructed.wellTyped, nofun⟩
  | field reference => exact wellTyped_iff.2 ⟨trivial, nofun⟩
  | call function type _ ih => exact wellTyped_iff.2 ⟨trivial, ih⟩
  | cast type _ ih => exact wellTyped_iff.2 ⟨trivial, List.forall_mem_singleton.2 ih⟩
  | conditional _ _ _ checked conditions results last =>
    obtain ⟨type, rfl⟩ := exists_of_conditional checked
    have inClauses := forall_mem_clauseParts.2 fun clause member =>
      ⟨conditions clause member, results clause member⟩
    exact wellTyped_iff.2
      ⟨checked, List.forall_mem_append.2 ⟨inClauses, List.forall_mem_singleton.2 last⟩⟩

end Expression

end QueryPlan

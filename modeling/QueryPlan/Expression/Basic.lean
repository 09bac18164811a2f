import QueryPlan.Expression.Literal

/-! # Expressions
The expressions that a plan computes from the fields of a row: literals, references to a field by its
position, calls of scalar functions, casts and conditionals. Every expression carries its type. A call
of an aggregate function computes one value from many rows and stands on its own. -/

namespace QueryPlan

/-- A **field reference**: a position in a row, with the type the field is expected to have. -/
structure FieldReference where
  /-- The position. -/
  offset : Nat
  /-- The type of the field. -/
  type : DataType
  deriving DecidableEq, Inhabited

/-- A **function reference**: the name of a function and the key of one of its overloads. -/
structure FunctionReference where
  /-- The name. -/
  name : String
  /-- The key of the overload. -/
  key : String
  deriving DecidableEq, Inhabited

/-- An **expression** over the fields of a row. -/
inductive Expression
  /-- A constant. -/
  | literal (literal : Literal)
  /-- A field. -/
  | field (reference : FieldReference)
  /-- A call of a scalar function. -/
  | call (function : FunctionReference) (arguments : List Expression) (type : DataType)
  /-- The value of an expression converted to another type. -/
  | cast (input : Expression) (type : DataType)
  /-- The result of the first clause whose condition holds, or else the last expression. -/
  | ifThen (clauses : List (Expression × Expression)) (otherwise : Expression) (type : DataType)
  deriving Inhabited

namespace Expression

/-! ## Equality -/

mutual

/-- Whether two expressions agree at every level. -/
def same : Expression → Expression → Bool
  | literal left, literal right => left = right
  | field left, field right => left = right
  | call left lefts leftType, call right rights rightType =>
    left = right && sameList lefts rights && leftType = rightType
  | cast left leftType, cast right rightType => same left right && leftType = rightType
  | ifThen lefts left leftType, ifThen rights right rightType =>
    sameClauses lefts rights && same left right && leftType = rightType
  | _, _ => false

/-- Whether two lists of expressions agree member by member. -/
def sameList : List Expression → List Expression → Bool
  | [], [] => true
  | left :: lefts, right :: rights => same left right && sameList lefts rights
  | _, _ => false

/-- Whether two lists of clauses agree member by member. -/
def sameClauses : List (Expression × Expression) → List (Expression × Expression) → Bool
  | [], [] => true
  | (leftWhen, leftThen) :: lefts, (rightWhen, rightThen) :: rights =>
    same leftWhen rightWhen && same leftThen rightThen && sameClauses lefts rights
  | _, _ => false

end

mutual

/-- Expressions that agree at every level are equal. -/
theorem same_iff : ∀ left right : Expression, same left right = true ↔ left = right
  | literal _, right => by cases right <;> simp [same]
  | field _, right => by cases right <;> simp [same]
  | call _ arguments _, right => by
    cases right <;> simp [same, sameList_iff arguments, and_assoc]
  | cast input _, right => by cases right <;> simp [same, same_iff input]
  | ifThen clauses otherwise _, right => by
    cases right <;> simp [same, sameClauses_iff clauses, same_iff otherwise, and_assoc]

/-- Lists of expressions that agree member by member are equal. -/
theorem sameList_iff :
    ∀ lefts rights : List Expression, sameList lefts rights = true ↔ lefts = rights
  | [], rights => by cases rights <;> simp [sameList]
  | left :: lefts, rights => by
    cases rights <;> simp [sameList, same_iff left, sameList_iff lefts]

/-- Lists of clauses that agree member by member are equal. -/
theorem sameClauses_iff :
    ∀ lefts rights : List (Expression × Expression),
      sameClauses lefts rights = true ↔ lefts = rights
  | [], rights => by cases rights <;> simp [sameClauses]
  | (condition, result) :: lefts, rights => by
    cases rights <;>
      simp [sameClauses, same_iff condition, same_iff result, sameClauses_iff lefts, Prod.ext_iff]

end

/-- Equality of expressions is decided level by level. -/
instance : DecidableEq Expression := fun left right =>
  decidable_of_iff (same left right = true) (same_iff left right)

/-! ## Types -/

/-- The type of an expression. -/
def type : Expression → DataType
  | literal constant => constant.type
  | field reference => reference.type
  | call _ _ type | cast _ type | ifThen _ _ type => type

/-- Whether an expression is boolean, of either nullability. -/
def isBoolean (expression : Expression) : Bool := expression.type.isBoolean

/-- The clauses of a conditional are **consistent** with its last expression when their conditions are
boolean and their results have its shape. The nullability of all results together is returned. -/
def checkClauses (base : DataType) (null : Nullability) :
    List (Expression × Expression) → Except PlanError Nullability
  | [] => .ok null
  | (condition, result) :: clauses =>
    if condition.isBoolean then
      if DataType.SameShape result.type base then
        checkClauses base (null.combine result.type.nullability) clauses
      else .error (.branchTypeMismatch base result.type)
    else .error (.nonBooleanCondition .ifThenCondition condition.type)

/-- A conditional, whose type is that of its last expression, nullable if any result is. -/
def conditional (clauses : List (Expression × Expression)) (otherwise : Expression) :
    Except PlanError Expression := do
  let null ← checkClauses otherwise.type otherwise.type.nullability clauses
  return ifThen clauses otherwise (otherwise.type.withNullability null)

/-! ## Text -/

mutual

/-- The text of an expression. -/
def text : Expression → String
  | literal constant => constant.value.text
  | field reference => s!"${reference.offset}"
  | call function arguments _ => function.name ++ "(" ++ ", ".intercalate (texts arguments) ++ ")"
  | cast input type => s!"cast({input.text} AS {type.text})"
  | ifThen clauses otherwise _ => "if" ++ clauseTexts clauses ++ s!" else {otherwise.text}"

/-- The texts of a list of expressions. -/
def texts : List Expression → List String
  | [] => []
  | expression :: expressions => text expression :: texts expressions

/-- The text of a list of clauses. -/
def clauseTexts : List (Expression × Expression) → String
  | [] => ""
  | (condition, result) :: clauses =>
    s!" {condition.text} then {result.text}" ++ clauseTexts clauses

end

/-- The texts of a list are the texts of its members. -/
theorem texts_eq_map (expressions : List Expression) : texts expressions = expressions.map text := by
  induction expressions with
  | nil => rfl
  | cons expression expressions ih => simp [texts, ih]

end Expression

end QueryPlan

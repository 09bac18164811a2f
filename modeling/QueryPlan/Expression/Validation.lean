import QueryPlan.Expression.Basic

/-! # Validation of expressions
An expression is valid over a row type when each of its field references names a field of the row and
states the type of that field, nullability included. References are looked at from left to right and
the first one at fault is reported. -/

namespace QueryPlan

namespace FieldReference

/-- The reference to a field of a row type, with its type. -/
def resolve (input : List DataType) (offset : Nat) : Except PlanError FieldReference :=
  match input[offset]? with
  | some type => .ok ⟨offset, type⟩
  | none => .error (.fieldOutOfBounds offset input.length)

/-- Checks a reference against a row type. -/
def validate (input : List DataType) (reference : FieldReference) : Except PlanError Unit :=
  match input[reference.offset]? with
  | none => .error (.fieldOutOfBounds reference.offset input.length)
  | some expected =>
    if expected = reference.type then .ok ()
    else .error (.fieldTypeMismatch reference.offset expected reference.type)

end FieldReference

namespace Expression

/-- The field of a row type at a position. -/
def resolve (input : List DataType) (offset : Nat) : Except PlanError Expression :=
  (FieldReference.resolve input offset).map field

mutual

/-- Checks the field references of an expression against a row type. -/
def validate (input : List DataType) : Expression → Except PlanError Unit
  | literal _ => .ok ()
  | field reference => reference.validate input
  | call _ arguments _ => validateAll input arguments
  | cast source _ => validate input source
  | ifThen clauses otherwise _ => do
    validateClauses input clauses
    validate input otherwise

/-- Checks the field references of a list of expressions. -/
def validateAll (input : List DataType) : List Expression → Except PlanError Unit
  | [] => .ok ()
  | expression :: expressions => do
    validate input expression
    validateAll input expressions

/-- Checks the field references of a list of clauses. -/
def validateClauses (input : List DataType) :
    List (Expression × Expression) → Except PlanError Unit
  | [] => .ok ()
  | (condition, result) :: clauses => do
    validate input condition
    validate input result
    validateClauses input clauses

end

/-- Checks an expression that has to be boolean. -/
def validatePredicate (input : List DataType) (place : PredicatePlace) (predicate : Expression) :
    Except PlanError Unit := do
  predicate.validate input
  if predicate.isBoolean then return ()
  else throw (.nonBooleanCondition place predicate.type)

end Expression

end QueryPlan

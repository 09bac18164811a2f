/-! # Nullability
Whether a value may be absent. Nullability stands beside the shape of a type and is combined when one
value is computed from several: the result may be absent as soon as one of its sources may be. -/

namespace QueryPlan

/-- The **nullability** of a type. -/
inductive Nullability
  /-- Every value is present. -/
  | required
  /-- A value may be null. -/
  | nullable
  deriving DecidableEq, Inhabited

namespace Nullability

/-- Whether null is allowed. -/
def isNullable : Nullability → Bool
  | required => false
  | nullable => true

/-- The nullability given by a flag that allows null. -/
def ofBool (mayBeNull : Bool) : Nullability := if mayBeNull then nullable else required

/-- The nullability of a value that is null as soon as one of two sources is. -/
def combine : Nullability → Nullability → Nullability
  | required, other => other
  | nullable, _ => nullable

/-- The nullability of a value that is null as soon as one of several sources is. -/
def combineAll (states : List Nullability) : Nullability := states.foldl combine required

/-- The displayed word. -/
def text : Nullability → String
  | required => "REQUIRED"
  | nullable => "NULLABLE"

/-- The mark written behind a type: a question mark when null is allowed. -/
def mark : Nullability → String
  | required => ""
  | nullable => "?"

@[simp] theorem isNullable_ofBool (mayBeNull : Bool) :
    (ofBool mayBeNull).isNullable = mayBeNull := by
  cases mayBeNull <;> rfl

@[simp] theorem ofBool_isNullable (state : Nullability) : ofBool state.isNullable = state := by
  cases state <;> rfl

/-- Null is allowed in a combination exactly when one side allows it. -/
@[simp] theorem isNullable_combine (left right : Nullability) :
    (left.combine right).isNullable = (left.isNullable || right.isNullable) := by
  cases left <;> rfl

/-- Null is allowed in a combination of many exactly when one of them allows it. -/
@[simp] theorem isNullable_combineAll (states : List Nullability) :
    (combineAll states).isNullable = states.any isNullable := by
  suffices grow : ∀ start : Nullability,
      (states.foldl combine start).isNullable = (start.isNullable || states.any isNullable) by
    simpa [combineAll, isNullable] using grow required
  induction states with
  | nil => simp
  | cons state states ih => intro start; simp [ih, Bool.or_assoc]

end Nullability

end QueryPlan

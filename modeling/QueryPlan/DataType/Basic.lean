import QueryPlan.Nullability
import QueryPlan.DataType.Kind

/-! # Data types
A data type is a shape together with a nullability. Shapes without component types are **atoms**;
structs, lists and maps are built from component types, each with a nullability of its own. Two types
have the **same shape** when they differ at most in the nullability at the top. -/

namespace QueryPlan

/-- An **atom** is a shape without component types. -/
inductive Atom
  /-- A kind without parameters. -/
  | plain (kind : PlainKind)
  /-- A kind with a length. -/
  | sized (kind : LengthKind) (length : UInt32)
  /-- A kind with a number of fractional-second digits. -/
  | precise (kind : PrecisionKind) (precision : UInt8)
  /-- Decimal numbers of `precision` digits, `scale` of them behind the point. -/
  | decimal (precision scale : UInt8)
  /-- A type known by name only. -/
  | userDefined (name : String)
  deriving DecidableEq

/-- A **data type**: a shape with a nullability at every level. -/
inductive DataType
  /-- A type without component types. -/
  | atom (kind : Atom) (nullability : Nullability)
  /-- A sequence of fields. -/
  | struct (fields : List DataType) (nullability : Nullability)
  /-- A sequence of elements of one type. -/
  | list (element : DataType) (nullability : Nullability)
  /-- A mapping from keys to values. -/
  | map (key value : DataType) (nullability : Nullability)
  deriving Inhabited

/-- The family of an atom. -/
def Atom.family : Atom → Family
  | plain kind => .plain kind
  | sized kind _ => .sized kind
  | precise kind _ => .precise kind
  | decimal _ _ => .decimal
  | userDefined _ => .userDefined

namespace DataType

/-! ## Equality -/

mutual

/-- Whether two types agree at every level. -/
def same : DataType → DataType → Bool
  | atom left leftNull, atom right rightNull => left = right && leftNull = rightNull
  | struct left leftNull, struct right rightNull => sameList left right && leftNull = rightNull
  | list left leftNull, list right rightNull => same left right && leftNull = rightNull
  | map leftKey leftValue leftNull, map rightKey rightValue rightNull =>
    same leftKey rightKey && same leftValue rightValue && leftNull = rightNull
  | _, _ => false

/-- Whether two lists of types agree member by member. -/
def sameList : List DataType → List DataType → Bool
  | [], [] => true
  | left :: lefts, right :: rights => same left right && sameList lefts rights
  | _, _ => false

end

mutual

/-- Types that agree at every level are equal. -/
theorem same_iff : ∀ left right : DataType, same left right = true ↔ left = right
  | atom _ _, right => by cases right <;> simp [same]
  | struct fields _, right => by
    cases right <;> simp [same, sameList_iff fields]
  | list element _, right => by
    cases right <;> simp [same, same_iff element]
  | map key value _, right => by
    cases right <;> simp [same, same_iff key, same_iff value, and_assoc]

/-- Lists of types that agree member by member are equal. -/
theorem sameList_iff : ∀ lefts rights : List DataType, sameList lefts rights = true ↔ lefts = rights
  | [], rights => by cases rights <;> simp [sameList]
  | left :: lefts, rights => by
    cases rights <;> simp [sameList, same_iff left, sameList_iff lefts]

end

/-- Equality of types is decided level by level. -/
instance : DecidableEq DataType := fun left right =>
  decidable_of_iff (same left right = true) (same_iff left right)

/-! ## Nullability and shape -/

/-- The nullability at the top of a type. -/
def nullability : DataType → Nullability
  | atom _ null | struct _ null | list _ null | map _ _ null => null

/-- The type of the same shape with another nullability at the top. -/
def withNullability (null : Nullability) : DataType → DataType
  | atom kind _ => atom kind null
  | struct fields _ => struct fields null
  | list element _ => list element null
  | map key value _ => map key value null

/-- The nullable type of the same shape. -/
def asNullable (type : DataType) : DataType := type.withNullability .nullable

/-- The required type of the same shape. -/
def asRequired (type : DataType) : DataType := type.withNullability .required

/-- Whether null is a value of the type. -/
def isNullable (type : DataType) : Bool := type.nullability.isNullable

/-- Two types have the **same shape** when they are equal up to the nullability at the top. -/
def SameShape (left right : DataType) : Prop := left.asRequired = right.asRequired

instance (left right : DataType) : Decidable (SameShape left right) :=
  inferInstanceAs (Decidable (left.asRequired = right.asRequired))

/-- The family of a type. -/
def family : DataType → Family
  | atom kind _ => kind.family
  | struct _ _ => .struct
  | list _ _ => .list
  | map _ _ _ => .map

/-- Whether the values of the type are truth values. -/
def isBoolean : DataType → Bool
  | atom (.plain .boolean) _ => true
  | _ => false

/-- The field types of a struct. -/
def structFields? : DataType → Option (List DataType)
  | struct fields _ => some fields
  | _ => none

/-- The required type of a plain kind. -/
def plain (kind : PlainKind) : DataType := atom (.plain kind) .required

@[simp] theorem nullability_withNullability (null : Nullability) (type : DataType) :
    (type.withNullability null).nullability = null := by
  cases type <;> rfl

@[simp] theorem withNullability_withNullability (outer inner : Nullability) (type : DataType) :
    (type.withNullability inner).withNullability outer = type.withNullability outer := by
  cases type <;> rfl

@[simp] theorem withNullability_nullability (type : DataType) :
    type.withNullability type.nullability = type := by
  cases type <;> rfl

/-- The nullable type of a shape is nullable. -/
@[simp] theorem isNullable_asNullable (type : DataType) : type.asNullable.isNullable = true := by
  rw [isNullable, asNullable, nullability_withNullability]
  rfl

@[simp] theorem family_withNullability (null : Nullability) (type : DataType) :
    (type.withNullability null).family = type.family := by
  cases type <;> rfl

theorem SameShape.refl (type : DataType) : SameShape type type := rfl

theorem SameShape.symm {left right : DataType} (same : SameShape left right) :
    SameShape right left := Eq.symm same

theorem SameShape.trans {left middle right : DataType} (first : SameShape left middle)
    (second : SameShape middle right) : SameShape left right := Eq.trans first second

/-- Changing the nullability at the top keeps the shape. -/
theorem sameShape_withNullability (null : Nullability) (type : DataType) :
    SameShape (type.withNullability null) type := by
  simp [SameShape, asRequired]

/-- Types of one shape are told apart by their nullability only. -/
theorem SameShape.eq_withNullability {type other : DataType} (same : SameShape type other) :
    other = type.withNullability other.nullability := by
  have lifted : type.asRequired.withNullability other.nullability =
      other.asRequired.withNullability other.nullability := by
    rw [same]
  rw [asRequired, asRequired, withNullability_withNullability, withNullability_withNullability,
    withNullability_nullability] at lifted
  exact lifted.symm

/-- A shape is compared without regard to nullability. -/
theorem sameShape_withNullability_iff {type other : DataType} {null : Nullability} :
    SameShape (type.withNullability null) other ↔ SameShape type other := by
  have kept : SameShape (type.withNullability null) type := sameShape_withNullability null type
  constructor
  · intro same
    exact kept.symm.trans same
  · intro same
    exact kept.trans same

/-- Types of the same shape belong to the same family. -/
theorem SameShape.family_eq {left right : DataType} (same : SameShape left right) :
    left.family = right.family := by
  have := congrArg family same
  simpa [asRequired] using this

end DataType

end QueryPlan

import QueryPlan.DataType.Basic

/-! # Type templates
The parameter of a function is described by a template: a type in which lengths, precisions and whole
component types may be left open. Open numbers carry the text that stands for them; an open type is a
**placeholder**, and every place with the same placeholder name stands for types of one shape. -/

namespace QueryPlan

/-- A **type template**. -/
inductive Template
  /-- A type without open parts. -/
  | concrete (type : DataType)
  /-- A type with an open length. -/
  | sized (kind : LengthKind) (length : String) (nullability : Nullability)
  /-- A type with an open precision. -/
  | precise (kind : PrecisionKind) (precision : String) (nullability : Nullability)
  /-- A decimal type with an open precision or scale. -/
  | decimal (precision scale : String) (nullability : Nullability)
  /-- A struct with an open part in some field. -/
  | struct (fields : List Template) (nullability : Nullability)
  /-- A list with an open part in its element type. -/
  | list (element : Template) (nullability : Nullability)
  /-- A map with an open part in its key or value type. -/
  | map (key value : Template) (nullability : Nullability)
  /-- An open type. -/
  | placeholder (name : String)
  deriving Inhabited

namespace Template

mutual

/-- Whether two templates agree at every level. -/
def same : Template → Template → Bool
  | concrete left, concrete right => left = right
  | sized left leftText leftNull, sized right rightText rightNull =>
    left = right && leftText = rightText && leftNull = rightNull
  | precise left leftText leftNull, precise right rightText rightNull =>
    left = right && leftText = rightText && leftNull = rightNull
  | decimal left leftScale leftNull, decimal right rightScale rightNull =>
    left = right && leftScale = rightScale && leftNull = rightNull
  | struct left leftNull, struct right rightNull => sameList left right && leftNull = rightNull
  | list left leftNull, list right rightNull => same left right && leftNull = rightNull
  | map leftKey leftValue leftNull, map rightKey rightValue rightNull =>
    same leftKey rightKey && same leftValue rightValue && leftNull = rightNull
  | placeholder left, placeholder right => left = right
  | _, _ => false

/-- Whether two lists of templates agree member by member. -/
def sameList : List Template → List Template → Bool
  | [], [] => true
  | left :: lefts, right :: rights => same left right && sameList lefts rights
  | _, _ => false

end

mutual

/-- Templates that agree at every level are equal. -/
theorem same_iff : ∀ left right : Template, same left right = true ↔ left = right
  | concrete _, right => by cases right <;> simp [same]
  | sized _ _ _, right => by cases right <;> simp [same, and_assoc]
  | precise _ _ _, right => by cases right <;> simp [same, and_assoc]
  | decimal _ _ _, right => by cases right <;> simp [same, and_assoc]
  | struct fields _, right => by cases right <;> simp [same, sameList_iff fields]
  | list element _, right => by cases right <;> simp [same, same_iff element]
  | map key value _, right => by cases right <;> simp [same, same_iff key, same_iff value, and_assoc]
  | placeholder _, right => by cases right <;> simp [same]

/-- Lists of templates that agree member by member are equal. -/
theorem sameList_iff : ∀ lefts rights : List Template, sameList lefts rights = true ↔ lefts = rights
  | [], rights => by cases rights <;> simp [sameList]
  | left :: lefts, rights => by
    cases rights <;> simp [sameList, same_iff left, sameList_iff lefts]

end

/-- Equality of templates is decided level by level. -/
instance : DecidableEq Template := fun left right =>
  decidable_of_iff (same left right = true) (same_iff left right)

/-- Whether the template has no open parts. -/
def isConcrete : Template → Bool
  | concrete _ => true
  | _ => false

/-- The nullability at the top; a placeholder states none and counts as required. -/
def nullability : Template → Nullability
  | concrete type => type.nullability
  | sized _ _ null | precise _ _ null | decimal _ _ null | struct _ null | list _ null
  | map _ _ null => null
  | placeholder _ => .required

/-- The **form** of a template: its family, and which kind of open part it has at the top. -/
inductive Form
  /-- No open part. -/
  | concrete (family : Family)
  /-- An open length. -/
  | sized (kind : LengthKind)
  /-- An open precision. -/
  | precise (kind : PrecisionKind)
  /-- An open decimal precision or scale. -/
  | decimal
  /-- A struct with an open part. -/
  | struct
  /-- A list with an open part. -/
  | list
  /-- A map with an open part. -/
  | map
  /-- An open type. -/
  | placeholder
  deriving DecidableEq

/-- The form of a template. -/
def form : Template → Form
  | concrete type => .concrete type.family
  | sized kind _ _ => .sized kind
  | precise kind _ _ => .precise kind
  | decimal _ _ _ => .decimal
  | struct _ _ => .struct
  | list _ _ => .list
  | map _ _ _ => .map
  | placeholder _ => .placeholder

/-- The family that a form belongs to, if it names one. -/
def Form.family? : Form → Option Family
  | concrete family => some family
  | sized kind => some (.sized kind)
  | precise kind => some (.precise kind)
  | decimal => some .decimal
  | struct => some .struct
  | list => some .list
  | map => some .map
  | placeholder => none

/-- The family of the types that fit a template, if it names one. -/
def family? (template : Template) : Option Family := template.form.family?

/-- The short name of a template, as it appears in the keys of functions. -/
def shortName (template : Template) : String :=
  match template.family? with
  | some family => family.shortName
  | none => "any"

end Template

end QueryPlan

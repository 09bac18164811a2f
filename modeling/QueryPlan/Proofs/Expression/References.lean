import QueryPlan.Proofs.Expression.Nodes
import QueryPlan.Proofs.Expression.Validity

/-! # Field references of expressions
The references of an expression are the field references among its nodes, in the order in which the
expression is written. Validation looks at these and at nothing else: it goes through them one after the
other and stops at the first one that does not fit the row (`Expression.validate_eq_forM_references`).
An expression is therefore valid when all its references fit, and otherwise reports the fault of the
first one that does not (`Expression.validate_decides_references`). -/

namespace QueryPlan

open Outcome

/-! ## Single references -/

namespace FieldReference

variable {input : List DataType} {reference : FieldReference}

/-- A reference **fits** a row when the row has a field at its position, of exactly its type. -/
def Fits (input : List DataType) (reference : FieldReference) : Prop :=
  ∃ inside : reference.offset < input.length, input[reference.offset] = reference.type

/-- The **fault** of a reference that does not fit a row. -/
inductive Fault (input : List DataType) (reference : FieldReference) : PlanError → Prop
  /-- The row has no field at its position. -/
  | outOfBounds (behind : input.length ≤ reference.offset) :
    Fault input reference (.fieldOutOfBounds reference.offset input.length)
  /-- The field at its position has another type, or another nullability. -/
  | typeMismatch (inside : reference.offset < input.length)
    (different : input[reference.offset] ≠ reference.type) :
    Fault input reference
      (.fieldTypeMismatch reference.offset input[reference.offset] reference.type)

/-- A reference fits exactly when its type is found at its position. -/
theorem fits_iff : reference.Fits input ↔ input[reference.offset]? = some reference.type :=
  List.getElem?_eq_some_iff.symm

/-- A reference passes the check exactly when it fits. -/
theorem validate_eq_ok_iff : reference.validate input = .ok () ↔ reference.Fits input := by
  rw [fits_iff, validate]
  cases input[reference.offset]? with
  | none => simp
  | some expected => by_cases same : expected = reference.type <;> simp [same]

/-- A reference fails the check exactly with its fault. -/
theorem validate_eq_error_iff {error : PlanError} :
    reference.validate input = .error error ↔ reference.Fault input error := by
  rw [validate]
  constructor
  · intro failed
    split at failed
    case h_1 missing =>
      cases failed
      exact .outOfBounds (List.getElem?_eq_none_iff.1 missing)
    case h_2 expected found =>
      split at failed
      case isTrue => cases failed
      case isFalse different =>
        cases failed
        obtain ⟨inside, rfl⟩ := List.getElem?_eq_some_iff.1 found
        exact .typeMismatch inside different
  · intro fault
    cases fault with
    | outOfBounds behind => rw [List.getElem?_eq_none behind]
    | typeMismatch inside different => simp [List.getElem?_eq_getElem inside, different]

end FieldReference

namespace Expression

/-! ## The references of an expression -/

/-- The field reference that an expression is, if it is one. -/
def reference? : Expression → Option FieldReference
  | field reference => some reference
  | _ => none

/-- The **references** of an expression: the field references in it at any depth, from left to right. -/
def references (expression : Expression) : List FieldReference :=
  expression.nodes.filterMap reference?

/-- The references of a field are itself, and those of any other expression the ones of its parts. -/
theorem references_eq (expression : Expression) :
    expression.references =
      expression.reference?.toList ++ expression.parts.flatMap references := by
  have below : expression.references =
      [expression].filterMap reference? ++ expression.parts.flatMap references := by
    rw [references, nodes_eq_cons, ← List.singleton_append, List.filterMap_append,
      List.filterMap_flatMap]
    rfl
  rw [below]
  cases expression <;> rfl

/-! ## Validation -/

variable {input : List DataType}

/-- Of clauses the parts are checked one after the other. -/
theorem validateClauses_eq_forM (clauses : List (Expression × Expression)) :
    validateClauses input clauses = forM (clauseParts clauses) (validate input) := by
  induction clauses with
  | nil => rfl
  | cons clause clauses ih =>
    obtain ⟨condition, result⟩ := clause
    rw [validateClauses, ih]
    rfl

/-- **One level of validation**: a field is checked itself, and of any other expression the parts are, one
after the other. -/
theorem validate_eq_forM_parts (expression : Expression) :
    expression.validate input =
      (do forM expression.reference?.toList (FieldReference.validate input)
          forM expression.parts (validate input)) := by
  cases expression with
  | literal constant => rfl
  | field reference => simp [validate, reference?, parts]
  | call function arguments type =>
    rw [validate, validateAll_eq_forM]
    rfl
  | cast source type => simp [validate, reference?, parts]
  | ifThen clauses otherwise type => simp [validate, reference?, parts, validateClauses_eq_forM]

/-- **Validation goes through the references** from left to right, and does nothing else. -/
theorem validate_eq_forM_references (expression : Expression) :
    expression.validate input = forM expression.references (FieldReference.validate input) := by
  induction expression using induction with
  | step expression ih =>
    rw [validate_eq_forM_parts, references_eq, List.forM_append, forM_flatMap, forM_congr ih]

/-- An expression is valid over a row exactly when all its references fit. -/
theorem valid_iff_fits {expression : Expression} :
    expression.Valid input ↔ ∀ reference ∈ expression.references, reference.Fits input := by
  rw [Valid, validate_eq_forM_references, forM_eq_ok_iff]
  exact forall₂_congr fun reference _ => FieldReference.validate_eq_ok_iff

/-- An expression is valid over a row exactly when it is no reference that does not fit, and its parts are
valid. -/
theorem valid_iff_parts {expression : Expression} :
    expression.Valid input ↔
      (∀ reference ∈ expression.reference?, reference.Fits input) ∧
        ∀ part ∈ expression.parts, part.Valid input := by
  simp only [valid_iff_fits, references_eq expression, List.forall_mem_append, Option.mem_toList,
    List.forall_mem_flatMap, Option.mem_def]

/-- **Validation decides on the references alone.** It passes exactly when each reference in the
expression has a field at its position, of its own type and nullability. Otherwise it reports the fault
of the first reference from the left that has not. -/
theorem validate_decides_references (expression : Expression) (input : List DataType) :
    (expression.validate input = .ok () ↔
      ∀ reference ∈ expression.references, reference.Fits input) ∧
    ∀ error, expression.validate input = .error error ↔
      ∃ before reference after, expression.references = before ++ reference :: after ∧
        (∀ earlier ∈ before, earlier.Fits input) ∧ reference.Fault input error := by
  refine ⟨valid_iff_fits, fun error => ?_⟩
  rw [validate_eq_forM_references, forM_eq_error_iff]
  simp only [FieldReference.validate_eq_ok_iff, FieldReference.validate_eq_error_iff]

/-- In a conditional the references of a condition come before those of its result, clause by clause, and
those of the last expression at the end. -/
example :
    let value (offset : Nat) : Expression := .field ⟨offset, .plain .i32⟩
    let positive (offset : Nat) : Expression :=
      .call ⟨"gt", "gt:any_any"⟩ [value offset, .literal (.i32 0)] (.plain .boolean)
    let picked : Expression := .ifThen [(positive 3, .cast (value 1) (.plain .i64)),
      (positive 2, .literal (.i64 5))] (.cast (value 0) (.plain .i64)) (.plain .i64)
    picked.references.map FieldReference.offset = [3, 1, 2, 0] := by decide

end Expression

end QueryPlan

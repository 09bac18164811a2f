import QueryPlan.Proofs.Plan.Rows

/-! # Order and grouping of the inputs of set operations
A set operation compares every input with the first one and takes the shapes of its fields from there.
Since having the same shapes is an equivalence, inputs line up in one order when they do in any other,
and the row is given by the shapes that they share and by where null may stand among them. So the order
of the inputs does not matter, but for which one is first in a difference, and a front part of the inputs
may be merged first: `Plan.merge_order_and_grouping`. -/

namespace QueryPlan

open DataType (SameShape)
open Outcome

/-! ## Rows by shape and nullability -/

/-- Fields have the same shapes exactly when they are equal without their nullability. -/
theorem forall₂_sameShape_iff {left right : List DataType} :
    List.Forall₂ SameShape left right ↔
      left.map DataType.asRequired = right.map DataType.asRequired := by
  rw [← List.forall₂_eq_eq_eq, List.forall₂_map_left_iff, List.forall₂_map_right_iff]
  rfl

/-- Null may stand at a position of given fields exactly when the field there is nullable. -/
theorem nullAllowed_iff {fields : List DataType} {index : Nat} (inside : index < fields.length) :
    NullAllowed index fields ↔ fields[index].isNullable = true := by
  simp [NullAllowed, inside]

/-- Fields are equal when their shapes are and null may stand in the same ones. -/
theorem eq_of_sameShape_of_nullAllowed {left right : List DataType}
    (shapes : left.map DataType.asRequired = right.map DataType.asRequired)
    (nulls : ∀ index, NullAllowed index left ↔ NullAllowed index right) : left = right := by
  have sameWidth : left.length = right.length := by
    simpa using congrArg List.length shapes
  refine List.ext_getElem sameWidth fun index inLeft inRight => ?_
  have same : SameShape left[index] right[index] :=
    (forall₂_sameShape_iff.2 shapes).get inLeft inRight
  have nullable : left[index].isNullable = right[index].isNullable := by
    rw [Bool.eq_iff_iff, ← nullAllowed_iff inLeft, ← nullAllowed_iff inRight]
    exact nulls index
  have state : left[index].nullability = right[index].nullability := by
    simpa [DataType.isNullable] using congrArg Nullability.ofBool nullable
  rw [same.eq_withNullability, ← state, DataType.withNullability_nullability]

/-! ## What holds among inputs -/

namespace SetKind

variable {α : Type} {kind : SetKind} {holds : α → Prop}

/-- The order of the inputs does not matter to what holds among them, but for which one is the first of a
difference. -/
theorem among_iff_of_perm {inputs others : List α} (reordered : inputs.Perm others)
    (sameFirst : kind = minus → inputs.head? = others.head?) :
    kind.Among holds inputs ↔ kind.Among holds others := by
  -- a difference looks at its first input, and the other two at which inputs there are
  cases kind with
  | minus => rw [Among, Among, sameFirst rfl]
  | union => simp only [Among, reordered.mem_iff]
  | intersection => simp only [Among, reordered.mem_iff]

/-- An input of which something holds when it holds among others can stand for them in front. -/
theorem among_cons_iff_append {merged : α} {front rest : List α} (filled : front ≠ [])
    (stands : holds merged ↔ kind.Among holds front) :
    kind.Among holds (merged :: rest) ↔ kind.Among holds (front ++ rest) := by
  cases kind with
  | minus =>
    obtain ⟨first, others, rfl⟩ := List.exists_cons_of_ne_nil filled
    simpa [Among] using stands
  | union =>
    simp only [Among, List.mem_cons, List.mem_append, or_and_right, exists_or, exists_eq_left] at stands ⊢
    exact or_congr_left stands
  | intersection =>
    simp only [Among, List.forall_mem_cons, List.forall_mem_append] at stands ⊢
    exact and_congr_left fun _ => stands

end SetKind

/-! ## Derived fields -/

namespace SetOperation

variable {operation : SetOperation} {inputs others : List (List DataType)}

/-- Inputs line up exactly when there are at least two, and all of them have the same shapes. -/
theorem check_eq_ok_iff_shapes : check inputs = .ok () ↔
    2 ≤ inputs.length ∧ ∃ shapes, ∀ fields ∈ inputs, fields.map DataType.asRequired = shapes := by
  simp only [check_eq_ok_iff, forall₂_sameShape_iff]
  constructor
  · rintro ⟨first, second, rest, rfl, aligned⟩
    refine ⟨by simp, first.map DataType.asRequired, List.forall_mem_cons.2 ⟨rfl, ?_⟩⟩
    exact fun fields member => (aligned fields member).symm
  · rintro ⟨several, shapes, shared⟩
    obtain ⟨first, second, rest, rfl⟩ : ∃ first second rest, inputs = first :: second :: rest :=
      match inputs, several with
      | first :: second :: rest, _ => ⟨first, second, rest, rfl⟩
    obtain ⟨ofFirst, ofRest⟩ := List.forall_mem_cons.1 shared
    exact ⟨first, second, rest, rfl, fun fields member => ofFirst.trans (ofRest fields member).symm⟩

/-- The result has the shapes of the first input. -/
theorem shapes_outputFields (operation : SetOperation) (inputs : List (List DataType)) :
    (operation.outputFields inputs).map DataType.asRequired =
      (inputs.headD []).map DataType.asRequired := by
  refine List.ext_getElem (by simp [outputFields]) fun index _ _ => ?_
  simp [outputFields, DataType.asRequired]

/-- The result has the shapes of each input, when they line up. -/
theorem shapes_outputFields_of_mem (aligned : check inputs = .ok ()) {fields : List DataType}
    (member : fields ∈ inputs) :
    (operation.outputFields inputs).map DataType.asRequired = fields.map DataType.asRequired := by
  obtain ⟨several, shapes, shared⟩ := check_eq_ok_iff_shapes.1 aligned
  obtain ⟨first, rest, rfl⟩ := List.exists_cons_of_ne_nil (List.ne_nil_of_mem member)
  rw [shapes_outputFields]
  exact (shared first List.mem_cons_self).trans (shared fields member).symm

/-- Inputs that line up give the same fields as others when some of both have the same shapes and null may
stand among both in the same fields. -/
theorem outputFields_eq_of_among (aligned : check inputs = .ok ()) (alignedToo : check others = .ok ())
    (shared : ∃ fields ∈ inputs, ∃ other ∈ others,
      fields.map DataType.asRequired = other.map DataType.asRequired)
    (among : ∀ index, operation.kind.Among (NullAllowed index) inputs ↔
      operation.kind.Among (NullAllowed index) others) :
    operation.outputFields inputs = operation.outputFields others := by
  obtain ⟨fields, member, other, memberToo, shapes⟩ := shared
  refine eq_of_sameShape_of_nullAllowed ?_ fun index => ?_
  · rw [shapes_outputFields_of_mem aligned member, shapes_outputFields_of_mem alignedToo memberToo]
    exact shapes
  · rw [nullAllowed_outputFields_iff aligned, nullAllowed_outputFields_iff alignedToo]
    exact among index

/-! ## Order -/

/-- Inputs line up in every order. -/
theorem check_eq_ok_iff_of_perm (reordered : inputs.Perm others) :
    check inputs = .ok () ↔ check others = .ok () := by
  simp only [check_eq_ok_iff_shapes, reordered.length_eq, reordered.mem_iff]

/-- **The order of the inputs** does not matter to the fields of the result, but for which input is the
first of a difference. -/
theorem outputFields_eq_of_perm (aligned : check inputs = .ok ()) (reordered : inputs.Perm others)
    (sameFirst : operation.kind = .minus → inputs.head? = others.head?) :
    operation.outputFields inputs = operation.outputFields others := by
  have alignedToo : check others = .ok () := (check_eq_ok_iff_of_perm reordered).1 aligned
  obtain ⟨first, second, rest, rfl, -⟩ := check_eq_ok_iff.1 aligned
  -- the shapes are those of the first input, wherever it stands in the other order
  have inBoth : first ∈ others := reordered.mem_iff.1 List.mem_cons_self
  exact outputFields_eq_of_among aligned alignedToo ⟨first, List.mem_cons_self, first, inBoth, rfl⟩
    fun index => SetKind.among_iff_of_perm reordered sameFirst

/-! ## Grouping -/

/-- Inputs line up exactly when those of a front part do, and what these are merged into lines up with
the rest. -/
theorem check_append_eq_ok_iff {front rest : List (List DataType)} (several : 2 ≤ front.length)
    (filled : rest ≠ []) :
    check (front ++ rest) = .ok () ↔
      check front = .ok () ∧ check (operation.outputFields front :: rest) = .ok () := by
  obtain ⟨first, inFront⟩ := List.exists_mem_of_length_pos (Nat.lt_of_lt_of_le Nat.zero_lt_two several)
  constructor
  · intro aligned
    obtain ⟨-, shapes, shared⟩ := check_eq_ok_iff_shapes.1 aligned
    obtain ⟨sharedInFront, sharedInRest⟩ := List.forall_mem_append.1 shared
    have alignedFront : check front = .ok () := check_eq_ok_iff_shapes.2 ⟨several, shapes, sharedInFront⟩
    have merged : (operation.outputFields front).map DataType.asRequired = shapes :=
      (shapes_outputFields_of_mem alignedFront inFront).trans (sharedInFront first inFront)
    refine ⟨alignedFront, check_eq_ok_iff_shapes.2 ⟨?_, shapes, ?_⟩⟩
    · exact Nat.succ_le_succ (List.length_pos_of_ne_nil filled)
    · exact List.forall_mem_cons.2 ⟨merged, sharedInRest⟩
  · rintro ⟨alignedFront, alignedMerged⟩
    obtain ⟨-, shapes, shared⟩ := check_eq_ok_iff_shapes.1 alignedMerged
    obtain ⟨merged, sharedInRest⟩ := List.forall_mem_cons.1 shared
    refine check_eq_ok_iff_shapes.2 ⟨?_, shapes, List.forall_mem_append.2 ⟨?_, sharedInRest⟩⟩
    · exact several.trans (by simp)
    · -- an input of the front part has the shapes of what the part is merged into
      exact fun fields member => (shapes_outputFields_of_mem alignedFront member).symm.trans merged

/-- **Grouping of the inputs**: a front part of the inputs can be merged first. -/
theorem outputFields_merged_cons {front rest : List (List DataType)} (several : 2 ≤ front.length)
    (filled : rest ≠ []) (aligned : check (front ++ rest) = .ok ()) :
    operation.outputFields (operation.outputFields front :: rest) =
      operation.outputFields (front ++ rest) := by
  obtain ⟨alignedFront, alignedMerged⟩ :
      check front = .ok () ∧ check (operation.outputFields front :: rest) = .ok () :=
    (check_append_eq_ok_iff several filled).1 aligned
  obtain ⟨first, inFront⟩ := List.exists_mem_of_length_pos (Nat.lt_of_lt_of_le Nat.zero_lt_two several)
  -- the merged part comes first on one side and an input of it on the other, of the same shapes
  have shapes : (operation.outputFields front).map DataType.asRequired = first.map DataType.asRequired :=
    shapes_outputFields_of_mem alignedFront inFront
  refine outputFields_eq_of_among alignedMerged aligned
    ⟨_, List.mem_cons_self, first, List.mem_append_left rest inFront, shapes⟩ fun index => ?_
  exact SetKind.among_cons_iff_append (List.ne_nil_of_mem inFront)
    (nullAllowed_outputFields_iff alignedFront)

end SetOperation

/-! ## Set operations over plans -/

namespace Plan

/-- The type of the rows of a set operation over given inputs, if it can be built. -/
def mergedRowType? (operation : SetOperation) (inputs : List Plan) : Option DataType :=
  (Draft.set inputs (some operation)).build.toOption.map rowType

/-- The type of the rows of a set operation whose front inputs are merged by the same operation first, if
both can be built. -/
def regroupedRowType? (operation : SetOperation) (front rest : List Plan) : Option DataType :=
  (Draft.set front (some operation)).build.toOption.bind fun merged =>
    mergedRowType? operation (merged :: rest)

variable {operation : SetOperation} {inputs : List Plan} {type : DataType}

/-- A set operation is built exactly over inputs that line up. -/
theorem build_set_eq_ok_iff {plan : Plan} :
    (Draft.set inputs (some operation)).build = .ok plan ↔
      plan = set operation inputs (operation.outputFields (inputs.map fields)) ∧
        SetOperation.check (inputs.map fields) = .ok () := by
  have drafted : (Draft.set inputs (some operation)).build = merge operation inputs := rfl
  rw [drafted, merge, check_then_eq_ok_iff]

/-- The row of a set operation is the struct of the fields that its inputs give. -/
theorem mergedRowType?_eq_some_iff :
    mergedRowType? operation inputs = some type ↔
      SetOperation.check (inputs.map fields) = .ok () ∧
        type = .struct (operation.outputFields (inputs.map fields)) .required := by
  simp only [mergedRowType?, Option.map_eq_some_iff, toOption_eq_some_iff, build_set_eq_ok_iff]
  constructor
  · rintro ⟨_, ⟨rfl, aligned⟩, rfl⟩
    exact ⟨aligned, rfl⟩
  · rintro ⟨aligned, rfl⟩
    exact ⟨_, ⟨rfl, aligned⟩, rfl⟩

/-- The row of a regrouped set operation is the struct of the fields that the merged front part and the
other inputs give. -/
theorem regroupedRowType?_eq_some_iff {front rest : List Plan} :
    regroupedRowType? operation front rest = some type ↔
      let merged := operation.outputFields (front.map fields)
      SetOperation.check (front.map fields) = .ok () ∧
        SetOperation.check (merged :: rest.map fields) = .ok () ∧
          type = .struct (operation.outputFields (merged :: rest.map fields)) .required := by
  simp only [regroupedRowType?, Option.bind_eq_some_iff, toOption_eq_some_iff, build_set_eq_ok_iff,
    mergedRowType?_eq_some_iff, List.map_cons]
  constructor
  · rintro ⟨_, ⟨rfl, aligned⟩, merged⟩
    exact ⟨aligned, merged⟩
  · rintro ⟨aligned, merged⟩
    exact ⟨_, ⟨rfl, aligned⟩, merged⟩

/-- The inputs of a set operation can be put into any order that keeps the first one of a difference. -/
theorem mergedRowType?_eq_of_perm {others : List Plan} (reordered : inputs.Perm others)
    (sameFirst : operation.kind = .minus → inputs.head? = others.head?) :
    mergedRowType? operation inputs = mergedRowType? operation others := by
  have fieldsReordered : (inputs.map fields).Perm (others.map fields) := reordered.map fields
  have sameFirstFields :
      operation.kind = .minus → (inputs.map fields).head? = (others.map fields).head? := by
    intro difference
    rw [List.head?_map, List.head?_map, sameFirst difference]
  ext type
  rw [mergedRowType?_eq_some_iff, mergedRowType?_eq_some_iff,
    ← SetOperation.check_eq_ok_iff_of_perm fieldsReordered]
  refine and_congr_right fun aligned => ?_
  rw [SetOperation.outputFields_eq_of_perm aligned fieldsReordered sameFirstFields]

/-- **Order and grouping of inputs.** The inputs of a union or an intersection can be put into any order,
and those of a difference behind the first one: the operation can be built over one order when it can
over the other, and has the same row type. For every operation a front part of two or more inputs can be
merged first. Where the operation is built, each field of its row is there in every input. -/
theorem merge_order_and_grouping (operation : SetOperation) :
    (operation.kind ≠ .minus → ∀ inputs others : List Plan, inputs.Perm others →
      mergedRowType? operation inputs = mergedRowType? operation others) ∧
    (∀ (first : Plan) (rest others : List Plan), rest.Perm others →
      mergedRowType? operation (first :: rest) = mergedRowType? operation (first :: others)) ∧
    (∀ front rest : List Plan, 2 ≤ front.length → rest ≠ [] →
      regroupedRowType? operation front rest = mergedRowType? operation (front ++ rest)) ∧
    ∀ (inputs : List Plan) (plan : Plan), (Draft.set inputs (some operation)).build = .ok plan →
      ∀ index < plan.fields.length, ∀ input ∈ inputs, index < input.fields.length := by
  refine ⟨?_, ?_, ?_, ?_⟩
  · intro noDifference inputs others reordered
    exact mergedRowType?_eq_of_perm reordered fun difference => absurd difference noDifference
  · intro first rest others reordered
    exact mergedRowType?_eq_of_perm (reordered.cons first) fun _ => rfl
  · intro front rest several filled
    have severalFields : 2 ≤ (front.map fields).length := by simpa using several
    have filledFields : rest.map fields ≠ [] := mt List.map_eq_nil_iff.1 filled
    ext type
    rw [regroupedRowType?_eq_some_iff, mergedRowType?_eq_some_iff, List.map_append, ← and_assoc,
      ← SetOperation.check_append_eq_ok_iff severalFields filledFields]
    refine and_congr_right fun aligned => ?_
    rw [SetOperation.outputFields_merged_cons severalFields filledFields aligned]
  · intro inputs plan built index inside input member
    obtain ⟨rfl, aligned⟩ := build_set_eq_ok_iff.1 built
    obtain ⟨first, head, widths⟩ := SetOperation.length_eq_of_check aligned
    rw [widths input.fields (List.mem_map_of_mem member)]
    simpa [Plan.fields, SetOperation.outputFields, List.headD_eq_head?_getD, head] using inside

/-- The ages of customers, suppliers, of whom some have none, and staff, put together in another order and
with the first two merged first; the suppliers without those of the others; and the first two alone. -/
theorem merge_order_and_grouping_ages :
    let customers := columnScan "customers" "age" (.plain .i32)
    let suppliers := columnScan "suppliers" "age" (DataType.plain .i32).asNullable
    let staff := columnScan "staff" "age" (.plain .i32)
    let perhaps : DataType := .struct [(DataType.plain .i32).asNullable] .required
    mergedRowType? ⟨.union, true⟩ [suppliers, staff, customers] = some perhaps ∧
      regroupedRowType? ⟨.union, true⟩ [customers, suppliers] [staff] = some perhaps ∧
      mergedRowType? ⟨.minus, false⟩ [suppliers, staff, customers] = some perhaps ∧
      ∀ index < allAges.fields.length, index < suppliers.fields.length := by
  intro customers suppliers staff perhaps
  obtain ⟨order, -, grouping, inside⟩ := merge_order_and_grouping ⟨.union, true⟩
  obtain ⟨-, behindFirst, -⟩ := merge_order_and_grouping ⟨.minus, false⟩
  have united : mergedRowType? ⟨.union, true⟩ [customers, suppliers, staff] = some perhaps := rfl
  have without : mergedRowType? ⟨.minus, false⟩ [suppliers, customers, staff] = some perhaps := rfl
  have rotated : [customers, suppliers, staff].Perm [suppliers, staff, customers] :=
    @List.perm_append_comm _ [customers] [suppliers, staff]
  have built : (Draft.set [customers, suppliers] (some ⟨.union, true⟩)).build = .ok allAges := rfl
  refine ⟨?_, ?_, ?_, ?_⟩
  · rw [← order (by decide) _ _ rotated, united]
  · rw [grouping [customers, suppliers] [staff] (by decide) (by decide)]
    exact united
  · rw [← behindFirst suppliers _ _ (List.Perm.swap staff customers []), without]
  · intro index shown
    exact inside _ _ built index shown suppliers (by simp)

end Plan

end QueryPlan

import Mathlib.Data.List.Basic
import Mathlib.Data.List.Induction
import QueryPlan.Proofs.Expression.References
import QueryPlan.Proofs.Plan.Coherence

/-! # Rows of aggregates
An aggregate gives one field for each distinct expression that rows are grouped by, one for each
measure, and with more than one grouping the number of the grouping. The distinct expressions are the
first occurrences among the expressions of all groupings, one after the other; since all of them are
valid over the rows of the input, no two of them refer to the same field
(`Draft.aggregateRow_of_build`). -/

namespace QueryPlan

open Outcome

/-! ## First occurrences -/

section FirstOccurrences

variable {α : Type} [DecidableEq α]

/-- One more value at the end is kept exactly when it did not occur before. -/
theorem eraseDups_concat (values : List α) (value : α) :
    (values ++ [value]).eraseDups =
      if value ∈ values then values.eraseDups else values.eraseDups ++ [value] := by
  rw [List.eraseDups_append]
  by_cases occurred : value ∈ values
  · simp [List.removeAll, occurred]
  · simp [List.removeAll, occurred, List.eraseDups_cons]

/-- Values are kept in the order of their first occurrence. -/
theorem pairwise_idxOf_eraseDups (values : List α) :
    values.eraseDups.Pairwise fun first later => values.idxOf first < values.idxOf later := by
  induction values using List.reverseRecOn with
  | nil => exact .nil
  | append_singleton values value ih =>
    -- a value that occurred before occurs where it did
    have kept : values.eraseDups.Pairwise fun first later =>
        (values ++ [value]).idxOf first < (values ++ [value]).idxOf later := by
      refine ih.imp_of_mem fun {first later} inside insideToo earlier => ?_
      rw [List.idxOf_append_of_mem (List.mem_eraseDups.1 inside),
        List.idxOf_append_of_mem (List.mem_eraseDups.1 insideToo)]
      exact earlier
    rw [eraseDups_concat]
    split
    · exact kept
    · rename_i fresh
      refine List.pairwise_append.2 ⟨kept, List.pairwise_singleton _ _, ?_⟩
      intro first inside later new
      obtain rfl := List.mem_singleton.1 new
      have occurs : first ∈ values := List.mem_eraseDups.1 inside
      rw [List.idxOf_append_of_mem occurs, List.idxOf_append_of_notMem fresh]
      exact Nat.lt_add_right _ (List.idxOf_lt_length_of_mem occurs)

/-- No value is kept twice. -/
theorem nodup_eraseDups (values : List α) : values.eraseDups.Nodup := by
  refine (pairwise_idxOf_eraseDups values).imp ?_
  rintro first later earlier rfl
  exact Nat.lt_irrefl _ earlier

end FirstOccurrences

/-! ## Field references -/

namespace Expression

/-- The position of the field, if an expression is a field reference and nothing else. -/
def bareOffset? : Expression → Option Nat
  | field reference => some reference.offset
  | _ => none

/-- Valid references to one field are equal, since both have the type of the field. -/
theorem eq_of_bareOffset? {left right : Expression} {input : List DataType} {offset : Nat}
    (validLeft : left.Valid input) (validRight : right.Valid input)
    (here : left.bareOffset? = some offset) (hereToo : right.bareOffset? = some offset) :
    left = right := by
  cases left with
  | field leftReference =>
    cases right with
    | field rightReference =>
      obtain ⟨leftOffset, leftType⟩ := leftReference
      obtain ⟨rightOffset, rightType⟩ := rightReference
      obtain rfl : leftOffset = offset := Option.some_inj.1 here
      obtain rfl : rightOffset = leftOffset := Option.some_inj.1 hereToo
      have found := FieldReference.fits_iff.1 (FieldReference.validate_eq_ok_iff.1 validLeft)
      have foundToo := FieldReference.fits_iff.1 (FieldReference.validate_eq_ok_iff.1 validRight)
      obtain rfl : leftType = rightType := Option.some_inj.1 (found.symm.trans foundToo)
      rfl
    | literal | call | cast | ifThen => cases hereToo
  | literal | call | cast | ifThen => cases here

end Expression

/-! ## Grouping keys -/

namespace UnaryOperator

variable {groupings : List Grouping} {measures : List Measure}

/-- The grouping keys are the expressions of the groupings. -/
theorem mem_groupingKeys_iff {expression : Expression} :
    expression ∈ groupingKeys groupings ↔ ∃ grouping ∈ groupings, expression ∈ grouping := by
  rw [groupingKeys, List.mem_eraseDups, List.mem_flatten]

/-- Of valid grouping keys at most one refers to each field of the input. -/
theorem nodup_bareOffsets {input : List DataType}
    (valid : ∀ expression ∈ groupings.flatten, expression.Valid input) :
    ((groupingKeys groupings).filterMap Expression.bareOffset?).Nodup := by
  rw [List.Nodup, List.pairwise_filterMap]
  refine (nodup_eraseDups groupings.flatten).imp_of_mem ?_
  intro left right inside insideToo different offset here other hereToo same
  subst same
  have validLeft := valid left (List.mem_eraseDups.1 inside)
  have validRight := valid right (List.mem_eraseDups.1 insideToo)
  exact different (Expression.eq_of_bareOffset? validLeft validRight here hereToo)

/-- An aggregate has a field for each key and each measure, and one more with several groupings. -/
theorem length_aggregateFields :
    (aggregateFields groupings measures).length =
      (groupingKeys groupings).length + measures.length + if 1 < groupings.length then 1 else 0 := by
  rw [aggregateFields, List.length_append, List.length_append, List.length_map, List.length_map]
  split <;> rfl

end UnaryOperator

/-! ## The row of an aggregate -/

open UnaryOperator (groupingKeys)

/-- What the **row of an aggregate** over given groupings and measures is. -/
structure AggregateRow (groupings : List Grouping) (measures : List Measure) (plan : Plan) : Prop where
  /-- No grouping key occurs twice. -/
  distinct : (groupingKeys groupings).Nodup
  /-- The keys are the expressions of all groupings. -/
  complete : ∀ expression, expression ∈ groupingKeys groupings ↔
    ∃ grouping ∈ groupings, expression ∈ grouping
  /-- They stand in the order of their first occurrence. -/
  inOrder : (groupingKeys groupings).Pairwise fun first later =>
    groupings.flatten.idxOf first < groupings.flatten.idxOf later
  /-- At most one of them refers to each field of the input. -/
  oneReference : ((groupingKeys groupings).filterMap Expression.bareOffset?).Nodup
  /-- The row has the types of the keys, then those of the measures, and with more than one grouping the
  number of the grouping. -/
  rowType : plan.rowType = .struct
    ((groupingKeys groupings).map Expression.type ++ measures.map (fun measure => measure.call.type) ++
      if 1 < groupings.length then [.plain .i32] else []) .required
  /-- So it is as wide as keys and measures together, and one wider with more than one grouping. -/
  width : plan.fields.length = (groupingKeys groupings).length + measures.length +
    if 1 < groupings.length then 1 else 0

/-- **The row of an aggregate**: whatever its groupings and measures are, an aggregate that can be built
is the one of its draft, and has such a row. -/
theorem Draft.aggregateRow_of_build {input : Option Plan} {groupings : List Grouping}
    {measures : List Measure} {plan : Plan}
    (built : (Draft.aggregate input groupings measures).build = .ok plan) :
    (∃ source, input = some source ∧
      plan = .unary (.aggregate groupings measures) source plan.fields) ∧
      AggregateRow groupings measures plan := by
  simp only [build, bind_eq_ok_iff, require_eq_ok_iff, Plan.apply_eq_ok_iff] at built
  obtain ⟨source, rfl, rfl, passed, -⟩ := built
  obtain ⟨-, valid, -⟩ := UnaryOperator.check_aggregate_eq_ok_iff.1 passed
  refine ⟨⟨source, rfl, rfl⟩, ?_⟩
  exact {
    distinct := nodup_eraseDups groupings.flatten
    complete := fun expression => UnaryOperator.mem_groupingKeys_iff
    inOrder := pairwise_idxOf_eraseDups groupings.flatten
    oneReference := UnaryOperator.nodup_bareOffsets valid
    rowType := rfl
    width := UnaryOperator.length_aggregateFields }

/-- Orders counted by payment and age, by payment and all together: payment is one key, although two
groupings have it. -/
theorem Draft.aggregateRow_of_build_payments :
    let paid := Plan.firstFieldHolds
    let age : Expression := .field ⟨1, (DataType.plain .i32).asNullable⟩
    let groupings : List Grouping := [[paid, age], [paid], []]
    let count : Measure := ⟨⟨⟨"count", "count:"⟩, [], .plain .i64, .initialToResult, .all⟩, none⟩
    let plan : Plan := .unary (.aggregate groupings [count]) Plan.filteredJoin
      [.plain .boolean, (DataType.plain .i32).asNullable, .plain .i64, .plain .i32]
    (Draft.aggregate (some Plan.filteredJoin) groupings [count]).build = .ok plan ∧
      AggregateRow groupings [count] plan ∧ groupingKeys groupings = [paid, age] := by
  intro paid age groupings count plan
  have built : (Draft.aggregate (some Plan.filteredJoin) groupings [count]).build = .ok plan := rfl
  obtain ⟨-, row⟩ := Draft.aggregateRow_of_build built
  exact ⟨built, row, by decide⟩

end QueryPlan

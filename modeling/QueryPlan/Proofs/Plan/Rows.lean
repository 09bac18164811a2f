import Mathlib.Data.List.Forall2
import Mathlib.Data.Set.Basic
import QueryPlan.Proofs.Plan.Building

/-! # Rows of nodes with several inputs
A row has a value or null for each field, and it **conforms** to fields when null stands only where a
field is nullable. From rows that conform to the fields of its inputs, a join, a product or a set
operation emits rows that conform to its own fields, and each nullable field of a set operation is one
in which it can emit null: `Plan.Built.emitted_conforms`. Joins are taken with any relation that says
which pairs of rows match, since that is for their condition to decide. -/

namespace QueryPlan

open DataType (SameShape)
open Outcome

variable {Value : Type}

/-! ## Rows and tables -/

/-- A **row**: a value or null for each field. -/
abbrev Row (Value : Type) := List (Option Value)

/-- A **table**: the rows that an input holds. -/
abbrev Table (Value : Type) := Set (Row Value)

/-- Null may stand at a position of rows with the given fields. -/
def NullAllowed (index : Nat) (fields : List DataType) : Prop :=
  ∃ type, fields[index]? = some type ∧ type.isNullable = true

namespace Row

/-- A row **conforms** to fields when it has a cell for each field and null in nullable ones only. -/
def Conforms (row : Row Value) (fields : List DataType) : Prop :=
  List.Forall₂ (fun cell type => cell = none → type.isNullable = true) row fields

/-- The row of nulls only. -/
def nulls (width : Nat) : Row Value := List.replicate width none

/-- A row conforms to fields when it is as wide as they are and null stands where it may. -/
theorem conforms_iff {row : Row Value} {fields : List DataType} :
    row.Conforms fields ↔
      row.length = fields.length ∧ ∀ index, row[index]? = some none → NullAllowed index fields := by
  rw [Conforms, List.forall₂_iff_get]
  refine and_congr_right fun sameWidth => ?_
  simp only [NullAllowed, List.getElem?_eq_some_iff, List.get_eq_getElem]
  constructor
  · rintro cells index ⟨inRow, absent⟩
    exact ⟨_, ⟨sameWidth ▸ inRow, rfl⟩, cells index inRow (sameWidth ▸ inRow) absent⟩
  · intro allowed index inRow inFields absent
    obtain ⟨type, ⟨_, rfl⟩, nullable⟩ := allowed index ⟨inRow, absent⟩
    exact nullable

/-- Rows side by side conform to the fields side by side. -/
theorem Conforms.append {left right : Row Value} {leftFields rightFields : List DataType}
    (first : left.Conforms leftFields) (second : right.Conforms rightFields) :
    (Row.Conforms (left ++ right) (leftFields ++ rightFields)) :=
  List.rel_append first second

/-- A row still conforms when its fields become nullable. -/
theorem Conforms.asNullable {row : Row Value} {fields : List DataType} (conforms : row.Conforms fields) :
    row.Conforms (fields.map DataType.asNullable) := by
  rw [Conforms, List.forall₂_map_right_iff]
  exact conforms.imp fun _ type _ _ => type.isNullable_asNullable

/-- Nulls conform to nullable fields. -/
theorem conforms_nulls (fields : List DataType) :
    (nulls fields.length : Row Value).Conforms (fields.map DataType.asNullable) := by
  rw [Conforms, List.forall₂_map_right_iff]
  induction fields with
  | nil => exact .nil
  | cons type fields ih => exact .cons (fun _ => type.isNullable_asNullable) ih

/-- A row with null at one position and the same value at every other. -/
def nullAt (index : Nat) (value : Value) (width : Nat) : Row Value :=
  (List.replicate width (some value)).set index none

/-- A row with a single null conforms to fields that allow null there. -/
theorem conforms_nullAt {index : Nat} {fields : List DataType} (allowed : NullAllowed index fields)
    (value : Value) : (nullAt index value fields.length).Conforms fields := by
  refine conforms_iff.2 ⟨by simp [nullAt], fun position absent => ?_⟩
  -- every other cell holds the value
  by_cases here : index = position
  · exact here ▸ allowed
  · rw [nullAt, List.getElem?_set_ne here, List.getElem?_replicate] at absent
    split at absent <;> simp at absent

/-- The single null is where it was put. -/
theorem getElem?_nullAt {index width : Nat} (inside : index < width) (value : Value) :
    (nullAt index value width)[index]? = some none := by
  rw [nullAt, List.getElem?_set_self (by simpa using inside)]

end Row

namespace Table

/-- A table conforms to fields when each of its rows does. -/
def Conforms (table : Table Value) (fields : List DataType) : Prop :=
  ∀ row ∈ table, row.Conforms fields

/-- Two tables together conform when both do. -/
theorem Conforms.union {table other : Table Value} {fields : List DataType}
    (first : table.Conforms fields) (second : other.Conforms fields) :
    Table.Conforms (table ∪ other) fields := by
  rintro row (member | member)
  · exact first row member
  · exact second row member

/-- The pairs of rows that match. -/
def pairs (matching : Row Value → Row Value → Prop) (left right : Table Value) : Table Value :=
  {row | ∃ first ∈ left, ∃ second ∈ right, matching first second ∧ row = first ++ second}

/-- The rows of a table that match some row of another. -/
def matched (matching : Row Value → Row Value → Prop) (table other : Table Value) : Table Value :=
  {row ∈ table | ∃ partner ∈ other, matching row partner}

/-- The rows of a table that match no row of another. -/
def unmatched (matching : Row Value → Row Value → Prop) (table other : Table Value) : Table Value :=
  {row ∈ table | ∀ partner ∈ other, ¬ matching row partner}

variable {matching : Row Value → Row Value → Prop} {table left right other : Table Value}
  {fields leftFields rightFields : List DataType}

/-- Matching pairs conform to the fields of both sides. -/
theorem Conforms.pairs (first : left.Conforms leftFields) (second : right.Conforms rightFields) :
    (pairs matching left right).Conforms (leftFields ++ rightFields) := by
  rintro row ⟨before, inLeft, behind, inRight, -, rfl⟩
  exact (first before inLeft).append (second behind inRight)

/-- Rows that match conform to the fields they had. -/
theorem Conforms.matched (conforms : table.Conforms fields) :
    (matched matching table other).Conforms fields :=
  fun row member => conforms row member.1

/-- Rows that match nothing conform to the fields they had. -/
theorem Conforms.unmatched (conforms : table.Conforms fields) :
    (unmatched matching table other).Conforms fields :=
  fun row member => conforms row member.1

/-- A table conforms still when its fields become nullable. -/
theorem Conforms.asNullable (conforms : table.Conforms fields) :
    table.Conforms (fields.map DataType.asNullable) :=
  fun row member => (conforms row member).asNullable

/-- Rows with nulls behind them conform when the fields behind are nullable. -/
theorem Conforms.nullsBehind (conforms : table.Conforms leftFields) (rightFields : List DataType) :
    Table.Conforms ((· ++ Row.nulls rightFields.length) '' table)
      (leftFields ++ rightFields.map DataType.asNullable) := by
  rintro row ⟨before, member, rfl⟩
  exact (conforms before member).append (Row.conforms_nulls rightFields)

/-- Rows with nulls in front of them conform when the fields in front are nullable. -/
theorem Conforms.nullsInFront (conforms : table.Conforms rightFields) (leftFields : List DataType) :
    Table.Conforms ((Row.nulls leftFields.length ++ ·) '' table)
      (leftFields.map DataType.asNullable ++ rightFields) := by
  rintro row ⟨behind, member, rfl⟩
  exact (Row.conforms_nulls leftFields).append (conforms behind member)

end Table

/-! ## Joins and products -/

/-- The rows that a join **emits** from the rows of its inputs. A row that matches nothing is completed
with as many nulls as the other side has fields. -/
def JoinType.emitted (type : JoinType) (matching : Row Value → Row Value → Prop)
    (left right : Table Value) (leftWidth rightWidth : Nat) : Table Value :=
  let matchedBy := fun second first => matching first second
  let pairs := Table.pairs matching left right
  let leftAlone := (· ++ Row.nulls rightWidth) '' Table.unmatched matching left right
  let rightAlone := (Row.nulls leftWidth ++ ·) '' Table.unmatched matchedBy right left
  match type with
  | inner => pairs
  | .left => pairs ∪ leftAlone
  | .right => pairs ∪ rightAlone
  | outer => pairs ∪ (leftAlone ∪ rightAlone)
  | leftSemi => Table.matched matching left right
  | leftAnti => Table.unmatched matching left right
  | rightSemi => Table.matched matchedBy right left
  | rightAnti => Table.unmatched matchedBy right left

/-- The rows that an operator of two inputs emits from their rows: a product pairs all of them. A filter
behind a join only leaves rows out. -/
def BinaryOperator.emitted (operator : BinaryOperator) (matching : Row Value → Row Value → Prop)
    (left right : Table Value) (leftWidth rightWidth : Nat) : Table Value :=
  match operator with
  | cross => Table.pairs (fun _ _ => True) left right
  | join type _ _ => type.emitted matching left right leftWidth rightWidth

/-- **Joins emit conforming rows** from conforming rows, whichever rows match. -/
theorem JoinType.conforms_emitted {left right : Table Value} {leftFields rightFields : List DataType}
    (first : left.Conforms leftFields) (second : right.Conforms rightFields) (type : JoinType)
    (matching : Row Value → Row Value → Prop) :
    (type.emitted matching left right leftFields.length rightFields.length).Conforms
      (type.outputFields leftFields rightFields) := by
  have pairs : (Table.pairs matching left right).Conforms (leftFields ++ rightFields) :=
    first.pairs second
  cases type with
  | inner => exact pairs
  | left =>
    have widened : (Table.pairs matching left right).Conforms
        (leftFields ++ rightFields.map DataType.asNullable) := first.pairs second.asNullable
    exact widened.union (first.unmatched.nullsBehind rightFields)
  | right =>
    have widened : (Table.pairs matching left right).Conforms
        (leftFields.map DataType.asNullable ++ rightFields) := first.asNullable.pairs second
    exact widened.union (second.unmatched.nullsInFront leftFields)
  | outer =>
    have widened : (Table.pairs matching left right).Conforms
        (leftFields.map DataType.asNullable ++ rightFields.map DataType.asNullable) :=
      first.asNullable.pairs second.asNullable
    exact widened.union
      ((first.asNullable.unmatched.nullsBehind rightFields).union
        (second.asNullable.unmatched.nullsInFront leftFields))
  | leftSemi => exact first.matched
  | leftAnti => exact first.unmatched
  | rightSemi => exact second.matched
  | rightAnti => exact second.unmatched

/-- Operators of two inputs emit conforming rows from conforming rows. -/
theorem BinaryOperator.conforms_emitted {left right : Table Value}
    {leftFields rightFields : List DataType} (first : left.Conforms leftFields)
    (second : right.Conforms rightFields) (operator : BinaryOperator)
    (matching : Row Value → Row Value → Prop) :
    (operator.emitted matching left right leftFields.length rightFields.length).Conforms
      (operator.outputFields leftFields rightFields) := by
  cases operator with
  | cross => exact first.pairs second
  | join type condition postFilter => exact type.conforms_emitted first second matching

/-! ## Set operations -/

/-- Something holds **among** the inputs, in the way a kind of set operation asks for it: of some input
for a union, of every input for an intersection, of the first one for a difference. -/
def SetKind.Among {α : Type} (kind : SetKind) (holds : α → Prop) (inputs : List α) : Prop :=
  match kind with
  | union => ∃ input ∈ inputs, holds input
  | intersection => ∀ input ∈ inputs, holds input
  | minus => ∃ first ∈ inputs.head?, holds first

/-- The rows that a set operation can **emit** from the rows of its inputs. The rows of the first input
that a difference leaves out are among them. -/
def SetOperation.emitted (operation : SetOperation) (inputs : List (Table Value)) : Table Value :=
  {row | operation.kind.Among (row ∈ ·) inputs}

namespace SetKind

variable {α β : Type} {kind : SetKind}

/-- What holds among inputs holds among related ones, when the relation carries it over. -/
theorem Among.of_forall₂ {related : α → β → Prop} {holds : α → Prop} {holdsToo : β → Prop}
    (carried : ∀ left right, related left right → holds left → holdsToo right)
    {lefts : List α} {rights : List β} (all : List.Forall₂ related lefts rights)
    (among : kind.Among holds lefts) : kind.Among holdsToo rights := by
  cases kind with
  | minus =>
    obtain ⟨first, there, held⟩ := among
    cases all with
    | nil => simp at there
    | @cons left right lefts rights same _ =>
      obtain rfl : left = first := by simpa using there
      exact ⟨right, by simp, carried _ _ same held⟩
  | union =>
    obtain ⟨left, member, held⟩ := among
    induction all with
    | nil => simp at member
    | @cons first second lefts rights same _ ih =>
      obtain rfl | later := List.mem_cons.1 member
      · exact ⟨second, List.mem_cons_self, carried _ _ same held⟩
      · obtain ⟨right, there, holds⟩ := ih later
        exact ⟨right, List.mem_cons_of_mem _ there, holds⟩
  | intersection =>
    induction all with
    | nil => exact nofun
    | @cons first second lefts rights same _ ih =>
      obtain ⟨head, rest⟩ := List.forall_mem_cons.1 among
      exact List.forall_mem_cons.2 ⟨carried _ _ same head, ih rest⟩

/-- What holds among inputs holds among them of everything weaker. -/
theorem Among.imp {holds weaker : α → Prop} {inputs : List α}
    (carried : ∀ input ∈ inputs, holds input → weaker input) (among : kind.Among holds inputs) :
    kind.Among weaker inputs := by
  cases kind with
  | minus =>
    obtain ⟨first, there, held⟩ := among
    exact ⟨first, there, carried first (List.mem_of_mem_head? there) held⟩
  | union =>
    obtain ⟨input, member, held⟩ := among
    exact ⟨input, member, carried input member held⟩
  | intersection => exact fun input member => carried input member (among input member)

/-- What holds among inputs holds of one of them. -/
theorem Among.exists_mem {holds : α → Prop} {inputs : List α} (some : inputs ≠ [])
    (among : kind.Among holds inputs) : ∃ input ∈ inputs, holds input := by
  cases kind with
  | minus =>
    obtain ⟨first, there, held⟩ := among
    exact ⟨first, List.mem_of_mem_head? there, held⟩
  | union => exact among
  | intersection =>
    obtain ⟨first, member⟩ := List.exists_mem_of_ne_nil inputs some
    exact ⟨first, member, among first member⟩

end SetKind

namespace SetOperation

variable {operation : SetOperation} {inputs : List (List DataType)} {index : Nat}

/-- The fields of an input line up with those of the first one exactly when they are as many, with the
same shapes. -/
theorem fieldFault?_eq_none_iff {input : Nat} {first fields : List DataType}
    (sameWidth : fields.length = first.length) :
    fieldFault? input index first fields = none ↔ List.Forall₂ SameShape first fields := by
  induction first generalizing fields index with
  | nil =>
    obtain rfl : fields = [] := List.length_eq_zero_iff.1 sameWidth
    exact ⟨fun _ => .nil, fun _ => rfl⟩
  | cons expected firsts ih =>
    obtain ⟨found, rest, rfl⟩ := List.exists_cons_of_length_eq_add_one sameWidth
    rw [fieldFault?, List.forall₂_cons]
    by_cases same : SameShape expected found
    · rw [if_pos same, ih (Nat.succ.inj sameWidth)]
      exact ⟨fun rest => ⟨same, rest⟩, And.right⟩
    · rw [if_neg same]
      exact ⟨nofun, fun both => absurd both.1 same⟩

/-- No input is at fault exactly when each lines up with the first one. -/
theorem inputFault?_eq_none_iff {position : Nat} {first : List DataType} :
    inputFault? first position inputs = none ↔
      ∀ fields ∈ inputs, List.Forall₂ SameShape first fields := by
  induction inputs generalizing position with
  | nil => exact ⟨fun _ => nofun, fun _ => rfl⟩
  | cons fields rest ih =>
    rw [inputFault?, List.forall_mem_cons]
    by_cases sameWidth : fields.length = first.length
    · rw [if_pos sameWidth, Option.or_eq_none_iff, fieldFault?_eq_none_iff sameWidth, ih]
    · rw [if_neg sameWidth]
      exact ⟨nofun, fun both => absurd both.1.length_eq.symm sameWidth⟩

/-- **Inputs that line up**: there are at least two, and the fields of each have the shapes of the fields
of the first one. -/
theorem check_eq_ok_iff : check inputs = .ok () ↔
    ∃ first second rest, inputs = first :: second :: rest ∧
      ∀ fields ∈ second :: rest, List.Forall₂ SameShape first fields := by
  have faultless : check inputs = .ok () ↔ fault? inputs = none := by
    unfold check
    cases fault? inputs with
    | none => simp
    | some fault => simp
  rw [faultless]
  match inputs with
  | [] | [single] => simp [fault?]
  | first :: second :: rest =>
    rw [fault?, inputFault?_eq_none_iff]
    · constructor
      · exact fun aligned => ⟨first, second, rest, rfl, aligned⟩
      · rintro ⟨_, _, _, same, aligned⟩
        cases same
        exact aligned
    · exact nofun

/-- Inputs that line up are as wide as the first one. -/
theorem length_eq_of_check (aligned : check inputs = .ok ()) :
    ∃ first, inputs.head? = some first ∧ ∀ fields ∈ inputs, fields.length = first.length := by
  obtain ⟨first, second, rest, rfl, shapes⟩ := check_eq_ok_iff.1 aligned
  exact ⟨first, rfl, List.forall_mem_cons.2
    ⟨rfl, fun fields member => (shapes fields member).length_eq.symm⟩⟩

/-- A column holds the nullability of the field in every input that has it. -/
theorem mem_column_iff {null : Nullability} : null ∈ column inputs index ↔
    ∃ fields ∈ inputs, ∃ type, fields[index]? = some type ∧ type.nullability = null := by
  simp only [column, List.mem_filterMap, Option.map_eq_some_iff]

/-- **The nullability of a field** of the result: null may stand there exactly when it may among the
inputs, in the way the operation asks for it. -/
theorem isNullable_fieldNullability_iff (some : inputs ≠ [])
    (present : ∀ fields ∈ inputs, index < fields.length) :
    (operation.fieldNullability (column inputs index)).isNullable = true ↔
      operation.kind.Among (NullAllowed index) inputs := by
  unfold fieldNullability
  cases operation.kind with
  | union =>
    simp only [Nullability.isNullable_ofBool, List.any_eq_true, mem_column_iff, SetKind.Among,
      NullAllowed]
    constructor
    · rintro ⟨_, ⟨fields, member, type, found, rfl⟩, nullable⟩
      exact ⟨fields, member, type, found, nullable⟩
    · rintro ⟨fields, member, type, found, nullable⟩
      exact ⟨_, ⟨fields, member, type, found, rfl⟩, nullable⟩
  | intersection =>
    have filled : (column inputs index).isEmpty = false := by
      obtain ⟨first, member⟩ := List.exists_mem_of_ne_nil inputs some
      have found := List.getElem?_eq_getElem (present first member)
      exact List.isEmpty_eq_false_iff_exists_mem.2
        ⟨_, mem_column_iff.2 ⟨first, member, _, found, rfl⟩⟩
    simp only [filled, Nullability.isNullable_ofBool, Bool.not_false, Bool.true_and,
      List.all_eq_true, mem_column_iff, SetKind.Among]
    constructor
    · intro nullable fields member
      have found := List.getElem?_eq_getElem (present fields member)
      exact ⟨_, found, nullable _ ⟨fields, member, _, found, rfl⟩⟩
    · rintro allowed _ ⟨fields, member, type, found, rfl⟩
      obtain ⟨other, foundToo, nullable⟩ := allowed fields member
      obtain rfl : type = other := Option.some_inj.1 (found.symm.trans foundToo)
      exact nullable
  | minus =>
    obtain ⟨first, rest, rfl⟩ := List.exists_cons_of_ne_nil some
    have found := List.getElem?_eq_getElem (present first List.mem_cons_self)
    simp [column, found, SetKind.Among, NullAllowed, DataType.isNullable]

/-- Null may stand in a field of the result exactly when the result has the field and null may stand
there among the inputs. -/
theorem nullAllowed_outputFields_iff (aligned : check inputs = .ok ()) :
    NullAllowed index (operation.outputFields inputs) ↔
      operation.kind.Among (NullAllowed index) inputs := by
  obtain ⟨first, head, widths⟩ := length_eq_of_check aligned
  have filled : inputs ≠ [] := by
    rintro rfl
    cases head
  by_cases inside : index < first.length
  · have present : ∀ fields ∈ inputs, index < fields.length :=
      fun fields member => widths fields member ▸ inside
    rw [← isNullable_fieldNullability_iff filled present]
    simp [NullAllowed, outputFields, List.headD_eq_head?_getD, head, inside, DataType.isNullable]
  · have outside : ∀ fields ∈ inputs, ¬ NullAllowed index fields := by
      rintro fields member ⟨type, found, -⟩
      exact inside (widths fields member ▸ (List.getElem?_eq_some_iff.1 found).1)
    constructor
    · rintro ⟨type, found, -⟩
      have bound := (List.getElem?_eq_some_iff.1 found).1
      rw [outputFields, List.length_mapIdx, List.headD_eq_head?_getD, head] at bound
      exact absurd bound inside
    · intro among
      obtain ⟨fields, member, allowed⟩ := among.exists_mem filled
      exact absurd allowed (outside fields member)

/-- **Set operations emit conforming rows** from conforming rows. -/
theorem conforms_emitted {tables : List (Table Value)} (aligned : check inputs = .ok ())
    (held : List.Forall₂ Table.Conforms tables inputs) (operation : SetOperation) :
    (operation.emitted tables).Conforms (operation.outputFields inputs) := by
  obtain ⟨first, head, widths⟩ := length_eq_of_check aligned
  have filled : inputs ≠ [] := by
    rintro rfl
    cases head
  intro row emitted
  have among : operation.kind.Among row.Conforms inputs :=
    emitted.of_forall₂ (fun table fields conforms member => conforms row member) held
  refine Row.conforms_iff.2 ⟨?_, fun index absent => ?_⟩
  · obtain ⟨fields, member, conforms⟩ := among.exists_mem filled
    rw [outputFields, List.length_mapIdx, List.headD_eq_head?_getD, head]
    exact (Row.conforms_iff.1 conforms).1.trans (widths fields member)
  · -- wherever the row conforms, null may stand
    refine (nullAllowed_outputFields_iff aligned).2 (among.imp fun fields _ conforms => ?_)
    exact (Row.conforms_iff.1 conforms).2 index absent

/-- **No field is nullable without need**: where null may stand in the result, rows that conform to the
inputs put it there. -/
theorem exists_emitted_null (aligned : check inputs = .ok ())
    (allowed : NullAllowed index (operation.outputFields inputs)) (value : Value) :
    ∃ tables : List (Table Value), List.Forall₂ Table.Conforms tables inputs ∧
      ∃ row ∈ operation.emitted tables, row[index]? = some none := by
  obtain ⟨first, head, widths⟩ := length_eq_of_check aligned
  have inside : index < first.length := by
    obtain ⟨type, found, -⟩ := allowed
    have bound := (List.getElem?_eq_some_iff.1 found).1
    rwa [outputFields, List.length_mapIdx, List.headD_eq_head?_getD, head] at bound
  -- each input holds all the rows it may hold, so that a row is emitted if it conforms among them
  refine ⟨inputs.map fun fields => {row | row.Conforms fields}, ?_, Row.nullAt index value first.length,
    ?_, Row.getElem?_nullAt inside value⟩
  · rw [List.forall₂_map_left_iff, List.forall₂_same]
    exact fun fields _ row conforms => conforms
  · have among : operation.kind.Among (Row.nullAt index value first.length).Conforms inputs :=
      ((nullAllowed_outputFields_iff aligned).1 allowed).imp fun fields member allowedHere =>
        widths fields member ▸ Row.conforms_nullAt allowedHere value
    have paired : List.Forall₂ (fun fields (table : Table Value) => table = {row | row.Conforms fields})
        inputs (inputs.map fun fields => {row | row.Conforms fields}) := by
      rw [List.forall₂_map_right_iff, List.forall₂_same]
      exact fun _ _ => rfl
    refine among.of_forall₂ (fun fields table whole conforms => ?_) paired
    rw [whole]
    exact conforms

end SetOperation

namespace Plan

/-- **Nullability is derived soundly and tightly.** From rows that conform to the fields of its inputs, a
built join or product emits rows that conform to its own fields, whichever rows match, and so does a
built set operation; and each nullable field of a built set operation holds null in some row that it
emits from such rows. -/
theorem Built.emitted_conforms (Value : Type) [Inhabited Value] :
    (∀ {operator : BinaryOperator} {left right : Plan} {types : List DataType},
      Built (binary operator left right types) →
        ∀ (matching : Row Value → Row Value → Prop) (leftRows rightRows : Table Value),
          leftRows.Conforms left.fields → rightRows.Conforms right.fields →
            (operator.emitted matching leftRows rightRows left.fields.length
              right.fields.length).Conforms types) ∧
    ∀ {operation : SetOperation} {inputs : List Plan} {types : List DataType},
      Built (set operation inputs types) →
        (∀ tables : List (Table Value), List.Forall₂ Table.Conforms tables (inputs.map fields) →
          (operation.emitted tables).Conforms types) ∧
        ∀ (index : Nat) (type : DataType), types[index]? = some type → type.isNullable = true →
          ∃ tables : List (Table Value), List.Forall₂ Table.Conforms tables (inputs.map fields) ∧
            ∃ row ∈ operation.emitted tables, row[index]? = some none := by
  constructor
  · intro operator left right types built matching leftRows rightRows first second
    obtain ⟨-, rfl⟩ := built.rootCoherent
    exact operator.conforms_emitted first second matching
  · intro operation inputs types built
    obtain ⟨aligned, rfl⟩ := built.rootCoherent
    refine ⟨fun tables held => SetOperation.conforms_emitted aligned held operation, ?_⟩
    intro index type found nullable
    exact SetOperation.exists_emitted_null aligned ⟨type, found, nullable⟩ default

/-- The ages of customers that are known and of suppliers that may not be, together. -/
def allAges : Plan :=
  set ⟨.union, true⟩
    [columnScan "customers" "age" (.plain .i32),
     columnScan "suppliers" "age" (DataType.plain .i32).asNullable]
    [(DataType.plain .i32).asNullable]

theorem built_allAges : Built allAges :=
  built_iff.2 ⟨⟨rfl, rfl⟩, by
    simp [allAges, inputs, built_columnScan (show Schema.isBlankName "customers" = false by decide),
      built_columnScan (show Schema.isBlankName "suppliers" = false by decide)]⟩

/-- An order without a customer is completed with null, which conforms to the fields of the left join,
and a union holds null in the field that is nullable in one of its inputs. -/
theorem emitted_conforms_filteredJoin :
    Built filteredJoin ∧ Row.Conforms [some 7, none] filteredJoin.fields ∧
      Built allAges ∧
        ∃ tables : List (Table Nat),
          List.Forall₂ Table.Conforms tables
            [[.plain .i32], [(DataType.plain .i32).asNullable]] ∧
          ∃ row ∈ SetOperation.emitted ⟨.union, true⟩ tables, row[0]? = some none := by
  obtain ⟨joins, sets⟩ := Built.emitted_conforms Nat
  have order : Table.Conforms {[some 7]} [.plain .boolean] := by
    rintro row rfl
    exact .cons nofun .nil
  have nobody : Table.Conforms (∅ : Table Nat) [.plain .i32] := nofun
  have emitted : [some 7, none] ∈ JoinType.left.emitted (fun _ _ => False) {[some 7]} ∅ 1 1 :=
    Or.inr ⟨[some 7], ⟨rfl, nofun⟩, rfl⟩
  exact ⟨built_filteredJoin, joins built_filteredJoin _ _ _ order nobody _ emitted, built_allAges,
    (sets built_allAges).2 0 _ rfl rfl⟩

end Plan

end QueryPlan

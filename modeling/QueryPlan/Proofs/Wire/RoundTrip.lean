import QueryPlan.Proofs.Expression.Construction
import QueryPlan.Proofs.Wire.Reading

/-! # Expressions on the wire
A constructed expression is read back from its wire form as it was, if its types have texts that are
read back and its floating point numbers are finite. The reader checks literals and conditionals again,
which a well-typed expression passes at each node. An expression is read from its root, given a reader
that takes back its parts (`Expression.ofContent_of_parts`), and since a part has fewer levels than the
expression it is in, the levels of the wire form are enough for all of it
(`Expression.ofWireWithin_toWire`). -/

namespace QueryPlan

open Outcome
open Wire (Value Reader)

/-- A well-typed literal of a finite value and a portable type is read back. -/
theorem Literal.WellTyped.ofWire_toWire {literal : Literal} (wellTyped : literal.WellTyped)
    (finite : literal.value.isFinite = true) (portable : literal.type.Portable) :
    ofWire literal.toWire = .ok literal :=
  bind_eq_ok_iff.2 ⟨literal.value, LiteralValue.ofWire_toWire finite,
    bind_eq_ok_iff.2 ⟨literal.type, portable.ofWire_toWire, mapError_eq_ok_iff.2 wellTyped⟩⟩

/-- A field reference of a portable type is read back. -/
theorem FieldReference.ofWire_toWire (reference : FieldReference)
    (portable : reference.type.Portable) : ofWire reference.toWire = .ok reference := by
  have readOffset : Wire.readNatural (.integer reference.offset) = .ok reference.offset := by
    simp [Wire.readNatural]
  refine bind_eq_ok_iff.2 ⟨reference.offset, readOffset, ?_⟩
  exact bind_eq_ok_iff.2 ⟨reference.type, portable.ofWire_toWire, rfl⟩

namespace Expression

/-! ## Portable expressions -/

/-- Whether an expression is not a literal of an infinite or undefined number. -/
def hasFiniteRoot : Expression → Bool
  | literal constant => constant.value.isFinite
  | _ => true

/-- An expression is **portable** when at each node the type is portable and a literal is finite. -/
def Portable (expression : Expression) : Prop :=
  ∀ node ∈ expression.nodes, node.type.Portable ∧ node.hasFiniteRoot = true

instance (expression : Expression) : Decidable expression.Portable :=
  inferInstanceAs
    (Decidable (∀ node ∈ expression.nodes, node.type.Portable ∧ node.hasFiniteRoot = true))

/-- An expression is portable when its root and its parts are. -/
theorem portable_iff {expression : Expression} :
    expression.Portable ↔ (expression.type.Portable ∧ expression.hasFiniteRoot = true) ∧
      ∀ part ∈ expression.parts, part.Portable :=
  forall_mem_nodes

/-! ## Levels -/

/-- The wire form of a clause. -/
def clauseToWire (clause : Expression × Expression) : Value :=
  .object [("condition", clause.1.toWire), ("then", clause.2.toWire)]

/-- The wire forms of a list are the wire forms of its members. -/
theorem toWires_eq_map (expressions : List Expression) :
    toWires expressions = expressions.map toWire := by
  induction expressions with
  | nil => rfl
  | cons expression expressions ih => rw [toWires, ih, List.map_cons]

/-- The wire forms of a list of clauses are the wire forms of its members. -/
theorem clausesToWire_eq_map (clauses : List (Expression × Expression)) :
    clausesToWire clauses = clauses.map clauseToWire := by
  induction clauses with
  | nil => rfl
  | cons clause clauses ih =>
    rw [clausesToWire, ih]
    rfl

/-- The wire form of a part has fewer levels than that of the expression. -/
theorem depth_toWire_lt_of_mem_parts {expression : Expression} :
    ∀ part ∈ expression.parts, part.toWire.depth < expression.toWire.depth := by
  cases expression with
  | literal | field => exact nofun
  | call function arguments type =>
    intro part member
    have inArray : part.toWire.depth ≤ Value.depthOfItems (toWires arguments) := by
      rw [toWires_eq_map]
      exact Value.depth_le_of_mem (List.mem_map_of_mem member)
    simp only [toWire, Value.choice, Value.depth, Value.depthOfMembers]
    omega
  | cast input type =>
    intro part member
    obtain rfl := List.mem_singleton.1 member
    simp only [toWire, Value.choice, Value.depth, Value.depthOfMembers]
    omega
  | ifThen clauses otherwise type =>
    have inClause : ∀ clause ∈ clauses,
        (clauseToWire clause).depth ≤ Value.depthOfItems (clausesToWire clauses) := by
      intro clause member
      rw [clausesToWire_eq_map]
      exact Value.depth_le_of_mem (List.mem_map_of_mem member)
    simp only [toWire, Value.choice, Value.depth, Value.depthOfMembers]
    refine List.forall_mem_append.2 ⟨forall_mem_clauseParts.2 ?_, List.forall_mem_singleton.2 ?_⟩
    · intro clause member
      have inArray := inClause clause member
      simp only [clauseToWire, Value.depth, Value.depthOfMembers] at inArray
      constructor
      · omega
      · omega
    · omega

/-! ## Reading -/

/-- A clause is read back by a reader that takes back its parts. -/
theorem clauseOfWire_clauseToWire {read : Reader Expression} {clause : Expression × Expression}
    (condition : read clause.1.toWire = .ok clause.1) (result : read clause.2.toWire = .ok clause.2) :
    clauseOfWire read (clauseToWire clause) = .ok clause :=
  bind_eq_ok_iff.2 ⟨clause.1, condition, bind_eq_ok_iff.2 ⟨clause.2, result, rfl⟩⟩

/-- Expressions are read back as a list by a reader that takes back each of them. -/
theorem readEach_toWires {read : Reader Expression} {expressions : List Expression}
    (each : ∀ expression ∈ expressions, read expression.toWire = .ok expression) :
    Wire.readEach read (toWires expressions) = .ok expressions := by
  rw [toWires_eq_map]
  exact Wire.readEach_map each

/-- **Reading from the root**: an expression is written as a choice of a form with a content, and is read
back from them by a reader that takes back its parts, if its root is well typed and portable. -/
theorem ofContent_of_parts {read : Reader Expression} {expression : Expression}
    (wellTyped : expression.RootWellTyped) (portable : expression.type.Portable)
    (finite : expression.hasFiniteRoot = true)
    (each : ∀ part ∈ expression.parts, read part.toWire = .ok part) :
    ∃ form content, expression.toWire = .choice form content ∧
      ofContent read form content = .ok expression := by
  cases expression with
  | literal constant =>
    have readConstant : Literal.ofWire constant.toWire = .ok constant :=
      Literal.WellTyped.ofWire_toWire wellTyped finite portable
    exact ⟨_, _, rfl, map_eq_ok_iff.2 ⟨constant, readConstant, rfl⟩⟩
  | field reference =>
    have readReference : FieldReference.ofWire reference.toWire = .ok reference :=
      reference.ofWire_toWire portable
    exact ⟨_, _, rfl, map_eq_ok_iff.2 ⟨reference, readReference, rfl⟩⟩
  | call function arguments type =>
    have readArguments : Wire.readEach read (toWires arguments) = .ok arguments :=
      readEach_toWires each
    refine ⟨_, _, rfl, bind_eq_ok_iff.2 ⟨function, rfl, ?_⟩⟩
    refine bind_eq_ok_iff.2 ⟨arguments, readArguments, ?_⟩
    exact bind_eq_ok_iff.2 ⟨type, portable.ofWire_toWire, rfl⟩
  | cast input type =>
    have readInput : read input.toWire = .ok input := each input List.mem_cons_self
    refine ⟨_, _, rfl, bind_eq_ok_iff.2 ⟨input, readInput, ?_⟩⟩
    exact bind_eq_ok_iff.2 ⟨type, portable.ofWire_toWire, rfl⟩
  | ifThen clauses otherwise type =>
    obtain ⟨inClauses, inLast⟩ := List.forall_mem_append.1 each
    have readOtherwise : read otherwise.toWire = .ok otherwise := inLast otherwise List.mem_cons_self
    have readClauses :
        Wire.readEach (clauseOfWire read) (clausesToWire clauses) = .ok clauses := by
      rw [clausesToWire_eq_map]
      refine Wire.readEach_map fun clause member => ?_
      obtain ⟨condition, result⟩ := forall_mem_clauseParts.1 inClauses clause member
      exact clauseOfWire_clauseToWire condition result
    -- the conditional is built again from what was read, with the type that was written
    have builtAgain : Wire.checked (conditional clauses otherwise) =
        .ok (ifThen clauses otherwise type) := mapError_eq_ok_iff.2 wellTyped
    refine ⟨_, _, rfl, bind_eq_ok_iff.2 ⟨clauses, readClauses, ?_⟩⟩
    refine bind_eq_ok_iff.2 ⟨otherwise, readOtherwise, ?_⟩
    refine bind_eq_ok_iff.2 ⟨type, portable.ofWire_toWire, ?_⟩
    exact bind_eq_ok_iff.2 ⟨ifThen clauses otherwise type, builtAgain, if_pos rfl⟩

/-- **Reading within a number of levels**: a well-typed portable expression is read back by the reader of
at least as many levels as its wire form has. -/
theorem ofWireWithin_toWire {expression : Expression} (wellTyped : expression.WellTyped)
    (portable : expression.Portable) {depth : Nat} (enough : expression.toWire.depth ≤ depth) :
    ofWireWithin depth expression.toWire = .ok expression := by
  induction expression using induction generalizing depth with
  | step expression ih =>
    obtain ⟨rootWellTyped, partsWellTyped⟩ := wellTyped_iff.1 wellTyped
    obtain ⟨⟨typePortable, finite⟩, partsPortable⟩ := portable_iff.1 portable
    cases depth with
    | zero =>
      have positive := Value.depth_pos expression.toWire
      omega
    | succ depth =>
      have each : ∀ part ∈ expression.parts, ofWireWithin depth part.toWire = .ok part := by
        intro part member
        have fewer := depth_toWire_lt_of_mem_parts part member
        exact ih part member (partsWellTyped part member) (partsPortable part member) (by omega)
      obtain ⟨form, content, written, read⟩ :=
        ofContent_of_parts rootWellTyped typePortable finite each
      rw [written]
      exact read

/-- A constructed portable expression is read back. -/
theorem Constructed.ofWire_toWire {expression : Expression} (constructed : expression.Constructed)
    (portable : expression.Portable) : ofWire expression.toWire = .ok expression :=
  ofWireWithin_toWire constructed.wellTyped portable (Nat.le_refl _)

/-- Constructed portable expressions are read back as a list. -/
theorem readEach_ofWire_toWires {expressions : List Expression}
    (each : ∀ expression ∈ expressions, expression.Constructed ∧ expression.Portable) :
    Wire.readEach ofWire (toWires expressions) = .ok expressions := by
  refine readEach_toWires fun expression member => ?_
  obtain ⟨constructed, portable⟩ := each expression member
  exact constructed.ofWire_toWire portable

/-- No expression is written as the absent value. -/
theorem toWire_ne_null (expression : Expression) : expression.toWire ≠ .null := by
  cases expression <;> exact nofun

end Expression

/-! ## Parts of aggregations and sorts -/

/-- A call of an aggregate function over constructed portable expressions is read back. -/
theorem AggregateCall.ofWire_toWire {call : AggregateCall}
    (arguments : ∀ argument ∈ call.arguments, argument.Constructed ∧ argument.Portable)
    (type : call.type.Portable) : ofWire call.toWire = .ok call := by
  have readArguments := Expression.readEach_ofWire_toWires arguments
  refine bind_eq_ok_iff.2 ⟨call.function, rfl, bind_eq_ok_iff.2 ⟨call.arguments, readArguments, ?_⟩⟩
  refine bind_eq_ok_iff.2 ⟨call.type, type.ofWire_toWire, ?_⟩
  refine bind_eq_ok_iff.2 ⟨call.phase, call.phase.ofName_wireName, ?_⟩
  exact bind_eq_ok_iff.2 ⟨call.scope, call.scope.ofName_wireName, rfl⟩

/-- A measure over constructed portable expressions is read back, with or without a filter. -/
theorem Measure.ofWire_toWire {measure : Measure}
    (parts : ∀ part ∈ measure.call.arguments ++ measure.filter.toList,
      part.Constructed ∧ part.Portable)
    (type : measure.call.type.Portable) : ofWire measure.toWire = .ok measure := by
  obtain ⟨inArguments, inFilter⟩ := List.forall_mem_append.1 parts
  have readFilter : Wire.readOptional "pre_measure_filter" Expression.ofWire measure.toWire =
      .ok measure.filter := by
    refine Wire.readOptional_optional rfl fun filter written => ⟨filter.toWire_ne_null, ?_⟩
    obtain ⟨constructed, portable⟩ := inFilter filter (Option.mem_toList.2 written)
    exact constructed.ofWire_toWire portable
  refine bind_eq_ok_iff.2 ⟨measure.call, AggregateCall.ofWire_toWire inArguments type, ?_⟩
  exact bind_eq_ok_iff.2 ⟨measure.filter, readFilter, rfl⟩

/-- A sort key over a constructed portable expression is read back. -/
theorem SortKey.ofWire_toWire {key : SortKey} (constructed : key.expression.Constructed)
    (portable : key.expression.Portable) : ofWire key.toWire = .ok key := by
  refine bind_eq_ok_iff.2 ⟨key.expression, constructed.ofWire_toWire portable, ?_⟩
  exact bind_eq_ok_iff.2 ⟨key.direction, key.direction.ofName_wireName, rfl⟩

/-- **The wire format keeps expressions**: every constructed portable expression, and every call of an
aggregate function, measure, grouping and sort key over such expressions, is read back from its wire
form as it was. -/
theorem Wire.ofWire_toWire_of_constructed :
    (∀ expression : Expression, expression.Constructed → expression.Portable →
      Expression.ofWire expression.toWire = .ok expression) ∧
    (∀ call : AggregateCall,
      (∀ argument ∈ call.arguments, argument.Constructed ∧ argument.Portable) →
      call.type.Portable → AggregateCall.ofWire call.toWire = .ok call) ∧
    (∀ measure : Measure,
      (∀ part ∈ measure.call.arguments ++ measure.filter.toList,
        part.Constructed ∧ part.Portable) →
      measure.call.type.Portable → Measure.ofWire measure.toWire = .ok measure) ∧
    (∀ grouping : Grouping,
      (∀ expression ∈ grouping, expression.Constructed ∧ expression.Portable) →
      Grouping.ofWire (Grouping.toWire grouping) = .ok grouping) ∧
    (∀ key : SortKey, key.expression.Constructed → key.expression.Portable →
      SortKey.ofWire key.toWire = .ok key) := by
  refine ⟨?_, ?_, ?_, ?_, ?_⟩
  · intro expression constructed portable
    exact constructed.ofWire_toWire portable
  · intro call arguments type
    exact AggregateCall.ofWire_toWire arguments type
  · intro measure parts type
    exact Measure.ofWire_toWire parts type
  · intro grouping each
    exact Expression.readEach_ofWire_toWires each
  · intro key constructed portable
    exact SortKey.ofWire_toWire constructed portable

/-- A conditional between a null and a nullable text of at most eight characters, whose condition tests a
field, is read back, and so is a measure that adds up a cast number over the rows with that field. -/
theorem Wire.ofWire_toWire_labelledTotal :
    let isMissing := Expression.call ⟨"is_null", "is_null:any"⟩
      [.field ⟨0, (DataType.plain .date).asNullable⟩] (.plain .boolean)
    let textType : DataType := .atom (.sized .varChar 8) .required
    let label := Expression.ifThen [(isMissing, .literal (.null textType))]
      (.literal (Literal.nullable ⟨.varChar "spät", textType⟩)) textType.asNullable
    let total : Measure :=
      ⟨{ function := ⟨"sum", "sum:fp64"⟩
         arguments := [.cast (.literal (.fp32 0x3FC00000)) (.plain .fp64)]
         type := .atom (.plain .fp64) .nullable
         scope := .distinct }, some isMissing⟩
    (label.Constructed ∧ label.Portable) ∧
      (∀ part ∈ total.call.arguments ++ total.filter.toList, part.Constructed ∧ part.Portable) ∧
      total.call.type.Portable ∧ Expression.ofWire label.toWire = .ok label ∧
      Measure.ofWire total.toWire = .ok total := by
  intro isMissing textType label total
  have missingConstructed : isMissing.Constructed :=
    .call _ _ (List.forall_mem_singleton.2 (.field _))
  have textConstructed : (Literal.nullable ⟨.varChar "spät", textType⟩).Constructed := by
    have checked : Literal.varChar "spät" 8 = .ok ⟨.varChar "spät", textType⟩ := by decide +kernel
    exact .nullable (.varChar checked)
  have labelConstructed : label.Constructed := by
    have checked : Expression.conditional [(isMissing, .literal (.null textType))]
        (.literal (Literal.nullable ⟨.varChar "spät", textType⟩)) = .ok label := by decide +kernel
    refine .conditional ?_ ?_ (.literal textConstructed) checked
    · exact List.forall_mem_singleton.2 missingConstructed
    · exact List.forall_mem_singleton.2 (.literal (.null textType))
  have labelPortable : label.Portable := by decide +kernel
  have parts : ∀ part ∈ total.call.arguments ++ total.filter.toList,
      part.Constructed ∧ part.Portable := by
    have castConstructed : (Expression.cast (.literal (.fp32 0x3FC00000)) (.plain .fp64)).Constructed :=
      .cast _ (.literal (.fp32 _))
    refine List.forall_mem_cons.2 ⟨⟨castConstructed, by decide +kernel⟩, ?_⟩
    exact List.forall_mem_singleton.2 ⟨missingConstructed, by decide +kernel⟩
  have typePortable : total.call.type.Portable := by decide +kernel
  obtain ⟨readExpression, -, readMeasure, -⟩ := ofWire_toWire_of_constructed
  exact ⟨⟨labelConstructed, labelPortable⟩, parts, typePortable,
    readExpression label labelConstructed labelPortable, readMeasure total parts typePortable⟩

end QueryPlan

import QueryPlan.Proofs.DataType.WellFormed
import QueryPlan.Proofs.Function.OutputType
import QueryPlan.Proofs.Plan.Building

/-! # Well-formedness throughout
No way of making a type out of well-formed ones leaves its bounds: a property of types that every such
way keeps is **closed**, and well-formedness is closed (`DataType.wellFormed_closed`). It says no less
than any other closed property (`DataType.Closed.of_wellFormed`). A plan therefore gives well-formed rows
at every node as soon as the types that its nodes bring in are well formed
(`Plan.Built.wellFormed_at`). -/

namespace QueryPlan

open Outcome

/-! ## Results of functions -/

namespace Signature

variable {signature : Signature} {arguments : List DataType} {type : DataType}

/-- **The return rule keeps types well formed**, if the type that it may name is. -/
theorem wellFormed_returnedType (named : ∀ fixed, signature.returns = .fixed fixed → fixed.WellFormed)
    (wellFormed : ∀ argument ∈ arguments, argument.WellFormed)
    (returned : signature.returnedType arguments = .ok type) : type.WellFormed := by
  cases rule : signature.returns with
  | fixed fixed =>
    simp only [returnedType, rule, Except.ok.injEq] at returned
    exact returned ▸ named fixed rule
  | argument index =>
    simp only [returnedType, rule, bind_eq_ok_iff, pure_eq_ok_iff, argumentAt_eq_ok_iff] at returned
    obtain ⟨argument, found, rfl⟩ := returned
    have source : argument.WellFormed := wellFormed argument (List.mem_of_getElem? found)
    obtain kept | ⟨parameter, coerced⟩ := signature.returnedArgument_eq_or_coerce? index argument
    · rwa [kept]
    · exact source.coerce? coerced
  | derived index target =>
    obtain ⟨source, found, coerced⟩ := exists_coerce?_of_derived rule returned
    exact (wellFormed source (List.mem_of_getElem? found)).coerce? coerced

/-- **Results are well formed** when the arguments are, and the type that the return rule may name. -/
theorem wellFormed_outputType (named : ∀ fixed, signature.returns = .fixed fixed → fixed.WellFormed)
    (wellFormed : ∀ argument ∈ arguments, argument.WellFormed)
    (result : signature.outputType arguments = .ok type) : type.WellFormed := by
  -- the rule for the nullability changes nothing below the top
  obtain ⟨-, returned, given, rfl⟩ := outputType_eq_ok_iff.1 result
  exact DataType.wellFormed_withNullability.2 (wellFormed_returnedType named wellFormed given)

end Signature

/-! ## Rows of operators -/

/-- The types that an operator of one input brings in: those of the fields that it computes. -/
def UnaryOperator.ownTypes : UnaryOperator → List DataType
  | filter _ | sort _ | fetch _ _ => []
  | project expressions => expressions.map Expression.type
  | aggregate groupings measures =>
    groupings.flatten.map Expression.type ++ measures.map fun measure => measure.call.type

/-- An operator gives well-formed fields when it is given them and brings in no others. -/
theorem UnaryOperator.wellFormed_outputFields {operator : UnaryOperator} {input : List DataType}
    (wellFormed : ∀ type ∈ input, type.WellFormed)
    (own : ∀ type ∈ operator.ownTypes, type.WellFormed) :
    ∀ type ∈ operator.outputFields input, type.WellFormed := by
  cases operator with
  | filter | sort | fetch => exact wellFormed
  | project expressions => exact List.forall_mem_append.2 ⟨wellFormed, own⟩
  | aggregate groupings measures =>
    obtain ⟨grouped, measured⟩ := List.forall_mem_append.1 own
    refine List.forall_mem_append.2 ⟨List.forall_mem_append.2 ⟨?_, measured⟩, ?_⟩
    · -- a grouping key is one of the expressions of the groupings
      refine List.forall_mem_map.2 fun key member => grouped _ (List.mem_map_of_mem ?_)
      exact List.mem_eraseDups.1 member
    · -- the number of the grouping is a plain integer
      split
      · exact List.forall_mem_singleton.2 trivial
      · exact nofun

/-- Fields made nullable are as well formed as before. -/
theorem DataType.wellFormed_map_asNullable {types : List DataType}
    (wellFormed : ∀ type ∈ types, type.WellFormed) :
    ∀ type ∈ types.map DataType.asNullable, type.WellFormed :=
  List.forall_mem_map.2 fun type member => wellFormed_withNullability.2 (wellFormed type member)

/-- A join gives well-formed fields when both sides do. -/
theorem JoinType.wellFormed_outputFields {type : JoinType} {left right : List DataType}
    (wellFormedLeft : ∀ field ∈ left, field.WellFormed)
    (wellFormedRight : ∀ field ∈ right, field.WellFormed) :
    ∀ field ∈ type.outputFields left right, field.WellFormed := by
  have nullableLeft := DataType.wellFormed_map_asNullable wellFormedLeft
  have nullableRight := DataType.wellFormed_map_asNullable wellFormedRight
  cases type with
  | inner => exact List.forall_mem_append.2 ⟨wellFormedLeft, wellFormedRight⟩
  | left => exact List.forall_mem_append.2 ⟨wellFormedLeft, nullableRight⟩
  | right => exact List.forall_mem_append.2 ⟨nullableLeft, wellFormedRight⟩
  | outer => exact List.forall_mem_append.2 ⟨nullableLeft, nullableRight⟩
  | leftSemi | leftAnti => exact wellFormedLeft
  | rightSemi | rightAnti => exact wellFormedRight

/-- An operator of two inputs gives well-formed fields when both inputs do. -/
theorem BinaryOperator.wellFormed_outputFields {operator : BinaryOperator} {left right : List DataType}
    (wellFormedLeft : ∀ field ∈ left, field.WellFormed)
    (wellFormedRight : ∀ field ∈ right, field.WellFormed) :
    ∀ field ∈ operator.outputFields left right, field.WellFormed := by
  cases operator with
  | cross => exact List.forall_mem_append.2 ⟨wellFormedLeft, wellFormedRight⟩
  | join type => exact type.wellFormed_outputFields wellFormedLeft wellFormedRight

/-- A set operation gives well-formed fields when its inputs do. -/
theorem SetOperation.wellFormed_outputFields {operation : SetOperation} {inputs : List (List DataType)}
    (wellFormed : ∀ fields ∈ inputs, ∀ type ∈ fields, type.WellFormed) :
    ∀ type ∈ operation.outputFields inputs, type.WellFormed := by
  cases inputs with
  | nil => exact nofun
  | cons first rest =>
    -- the other inputs contribute nullabilities only
    intro type member
    obtain ⟨index, bound, rfl⟩ := List.mem_mapIdx.1 member
    exact DataType.wellFormed_withNullability.2
      (wellFormed first List.mem_cons_self _ (List.getElem_mem bound))

/-! ## Rows of plans -/

namespace Plan

/-- The types that the node at the root brings in: those of its columns, or of the fields that its
operator computes. -/
def ownTypes : Plan → List DataType
  | scan _ schema _ => schema.types
  | unary operator _ _ => operator.ownTypes
  | binary _ _ _ _ | set _ _ _ => []

/-- A row is well formed when its fields are. -/
theorem wellFormed_rowType_iff {plan : Plan} :
    plan.rowType.WellFormed ↔ ∀ type ∈ plan.fields, type.WellFormed :=
  DataType.allWellFormed_iff

/-- **One node**: the row of a coherent node is well formed when the rows of its inputs are, and the types
that it brings in. -/
theorem RootCoherent.wellFormed_rowType {plan : Plan} (coherent : plan.RootCoherent)
    (inputs : ∀ input ∈ plan.inputs, input.rowType.WellFormed)
    (own : ∀ type ∈ plan.ownTypes, type.WellFormed) : plan.rowType.WellFormed := by
  simp only [wellFormed_rowType_iff] at inputs ⊢
  cases plan with
  | scan names schema fields =>
    obtain ⟨-, rfl⟩ := coherent
    exact own
  | unary operator input fields =>
    obtain ⟨-, rfl⟩ := coherent
    exact operator.wellFormed_outputFields (inputs input List.mem_cons_self) own
  | binary operator left right fields =>
    obtain ⟨-, rfl⟩ := coherent
    exact operator.wellFormed_outputFields (inputs left List.mem_cons_self)
      (inputs right (List.mem_cons_of_mem left List.mem_cons_self))
  | set operation merged fields =>
    obtain ⟨-, rfl⟩ := coherent
    exact operation.wellFormed_outputFields (List.forall_mem_map.2 inputs)

end Plan

namespace Draft

/-- The types that a draft brings in. -/
def ownTypes : Draft → List DataType
  | scan _ schema => schema.elim [] Schema.types
  | project _ expressions => (UnaryOperator.project expressions).ownTypes
  | aggregate _ groupings measures => (UnaryOperator.aggregate groupings measures).ownTypes
  | filter _ _ | sort _ _ | fetch _ _ _ | cross _ _ | join _ _ _ _ _ | set _ _ => []

/-- A node brings in the types of the draft it is built from. -/
theorem ownTypes_eq {draft : Draft} {plan : Plan} (built : draft.build = .ok plan) :
    plan.ownTypes = draft.ownTypes := by
  cases draft with
  | scan names schema =>
    simp only [build, bind_eq_ok_iff, require_eq_ok_iff, Plan.scanTable_eq_ok_iff] at built
    obtain ⟨_, rfl, rfl, -⟩ := built
    rfl
  | filter input condition =>
    simp only [build, bind_eq_ok_iff, require_eq_ok_iff, Plan.apply_eq_ok_iff] at built
    obtain ⟨_, -, _, -, rfl, -⟩ := built
    rfl
  | project input _ | sort input _ | fetch input _ _ | aggregate input _ _ =>
    simp only [build, bind_eq_ok_iff, require_eq_ok_iff, Plan.apply_eq_ok_iff] at built
    obtain ⟨_, -, rfl, -⟩ := built
    rfl
  | cross left right =>
    simp only [build, bind_eq_ok_iff, require_eq_ok_iff, Plan.combine_eq_ok_iff] at built
    obtain ⟨_, -, _, -, rfl, -⟩ := built
    rfl
  | join left right type condition postFilter =>
    simp only [build, bind_eq_ok_iff, require_eq_ok_iff, Plan.combine_eq_ok_iff] at built
    obtain ⟨_, -, _, -, _, -, _, -, rfl, -⟩ := built
    rfl
  | set inputs operation =>
    simp only [build, bind_eq_ok_iff, require_eq_ok_iff, Plan.merge_eq_ok_iff] at built
    obtain ⟨_, -, rfl, -⟩ := built
    rfl

/-- **One building step**: the row of a new node is well formed when the rows of the inputs are, and the
types that the draft brings in. -/
theorem wellFormed_rowType {draft : Draft} {plan : Plan} (built : draft.build = .ok plan)
    (inputs : ∀ input ∈ draft.inputs, input.rowType.WellFormed)
    (own : ∀ type ∈ draft.ownTypes, type.WellFormed) : plan.rowType.WellFormed := by
  obtain ⟨same, coherent⟩ := build_eq_ok built
  exact coherent.wellFormed_rowType (same ▸ inputs) (ownTypes_eq built ▸ own)

end Draft

/-- **Rows of built plans are well formed** at every position, if the types that the nodes of the plan
bring in are. -/
theorem Plan.Built.wellFormed_at {plan node : Plan} {path : List Nat} (built : Built plan)
    (own : ∀ path node, plan.at? path = some node → ∀ type ∈ node.ownTypes, type.WellFormed)
    (position : plan.at? path = some node) : node.rowType.WellFormed := by
  -- the rows of a node's inputs come before its own, so the induction is on how the plan was built
  induction built generalizing path node with
  | @step draft plan drafted step ih =>
    obtain ⟨same, coherent⟩ := Draft.build_eq_ok step
    -- what the nodes below an input bring in is brought in below the new node
    have below {index : Nat} {input node : Plan} {path : List Nat}
        (found : plan.inputs[index]? = some input) (position : input.at? path = some node) :
        node.rowType.WellFormed := by
      refine ih input (same ▸ List.mem_of_getElem? found) (fun path node position => ?_) position
      exact own (index :: path) node (at?_cons_eq_some_iff.2 ⟨input, found, position⟩)
    cases path with
    | nil =>
      cases position
      refine coherent.wellFormed_rowType (fun input member => ?_) (own [] plan rfl)
      obtain ⟨index, found⟩ := List.mem_iff_getElem?.1 member
      exact below found (at?_nil input)
    | cons index path =>
      obtain ⟨input, found, position⟩ := at?_cons_eq_some_iff.1 position
      exact below found position

/-! ## Closed properties -/

namespace DataType

/-- A property of types is **closed** when every way of making a type keeps it. -/
structure Closed (holds : DataType → Prop) : Prop where
  /-- It holds of every type that is read off a text. -/
  parse {text : String} {type : DataType} : DataType.parse text = .ok type → holds type
  /-- It holds of the plain kinds, which are made without a check. -/
  plain (kind : PlainKind) (null : Nullability) : holds (atom (.plain kind) null)
  /-- It holds of every atom that the checked constructor makes. -/
  checked {kind : Atom} {null : Nullability} {type : DataType} :
    ofAtom kind null = .ok type → holds type
  /-- It holds of the structs, lists and maps of types it holds of. -/
  composed {null : Nullability} {keyword : Keyword} {components : List DataType} {type : DataType} :
    Composed null keyword components type → (∀ component ∈ components, holds component) → holds type
  /-- It is kept by a change of the nullability at the top. -/
  withNullability {type : DataType} (null : Nullability) :
    holds type → holds (type.withNullability null)
  /-- It is kept by coercion, onto every template. -/
  coerce {source type : DataType} {target : Template} :
    holds source → source.coerce? target = some type → holds type
  /-- It holds of the result of a function on arguments it holds of, if it holds of the type that the
  return rule may name. -/
  outputType {signature : Signature} {arguments : List DataType} {type : DataType} :
    (∀ fixed, signature.returns = .fixed fixed → holds fixed) →
      (∀ argument ∈ arguments, holds argument) → signature.outputType arguments = .ok type → holds type
  /-- It holds of the row of a new node, if it holds of the rows of its inputs and of the types that the
  draft brings in. -/
  rowType {draft : Draft} {plan : Plan} :
    (∀ input ∈ draft.inputs, holds input.rowType) → (∀ type ∈ draft.ownTypes, holds type) →
      draft.build = .ok plan → holds plan.rowType

/-- Whatever is closed holds of every well-formed type. -/
theorem Closed.of_wellFormed {holds : DataType → Prop} (closed : Closed holds) {type : DataType}
    (wellFormed : type.WellFormed) : holds type := by
  induction type using DataType.induction with
  | atom kind null => exact closed.checked (ofAtom_eq_ok_iff.2 ⟨wellFormed, rfl⟩)
  | composed composed ih =>
    rw [composed.wellFormed_iff] at wellFormed
    exact closed.composed composed fun component member =>
      ih component member (wellFormed component member)

/-- **Well-formedness is closed**: a type is well formed when each of its nodes passes the check of its own
parameters, and every way of making a type gives a well-formed one. -/
theorem wellFormed_closed :
    (∀ type : DataType, type.WellFormed ↔ ∀ node ∈ type.nodes, node.check = .ok node) ∧
      Closed WellFormed :=
  ⟨fun _ => wellFormed_iff,
    { parse := ReadsText.wellFormed
      plain := fun _ _ => trivial
      checked := by
        intro kind null type made
        obtain ⟨inBounds, rfl⟩ := ofAtom_eq_ok_iff.1 made
        exact inBounds
      composed := fun composed components => composed.wellFormed_iff.2 components
      withNullability := fun _ wellFormed => wellFormed_withNullability.2 wellFormed
      coerce := fun wellFormed coerced => wellFormed.coerce? coerced
      outputType := Signature.wellFormed_outputType
      rowType := fun inputs own built => Draft.wellFormed_rowType built inputs own }⟩

/-- A column of codes that is read off a text, cut short by a function and computed in a projection: the
row of the projection passes every check again, at each of its nodes. -/
theorem wellFormed_closed_codes :
    let code : DataType := atom (.sized .fixedChar 7) .nullable
    let cut : DataType := atom (.sized .varChar 7) .nullable
    let trim : Signature := ⟨"rtrim", .scalar, [.sized .fixedChar "L" .required],
      .derived 0 (.sized .varChar "L" .required), .fromArguments⟩
    let items : Plan := .columnScan "items" "code" code
    let call : Expression := .call trim.reference [.field ⟨0, code⟩] cut
    let plan : Plan := .unary (.project [call]) items [code, cut]
    DataType.parse " FixedChar < 07 > ? " = .ok code ∧ trim.outputType [code] = .ok cut ∧
      (Draft.project (some items) [call]).build = .ok plan ∧
      ∀ node ∈ plan.rowType.nodes, node.check = .ok node := by
  intro code cut trim items call plan
  obtain ⟨iff, closed⟩ := wellFormed_closed
  have read : DataType.parse " FixedChar < 07 > ? " = .ok code := by decide +kernel
  have result : trim.outputType [code] = .ok cut := by decide
  have built : (Draft.project (some items) [call]).build = .ok plan := by decide +kernel
  have wellFormed : code.WellFormed := closed.parse read
  have named : ∀ fixed, trim.returns = .fixed fixed → fixed.WellFormed := by
    intro fixed derived
    cases derived
  have shortened : cut.WellFormed :=
    closed.outputType named (List.forall_mem_singleton.2 wellFormed) result
  have column : items.rowType.WellFormed :=
    closed.composed (.struct [code]) (List.forall_mem_singleton.2 wellFormed)
  have row : plan.rowType.WellFormed := by
    refine closed.rowType ?_ ?_ built
    · exact List.forall_mem_singleton.2 column
    · exact List.forall_mem_singleton.2 shortened
  exact ⟨read, result, built, (iff plan.rowType).1 row⟩

end DataType

end QueryPlan

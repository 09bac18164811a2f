import QueryPlan.Plan.Explain
import QueryPlan.Proofs.Plan.Building

/-! # The lines of an explanation
A printer goes through a plan with a depth that it raises and lowers as it comes to the inputs of each
node. The **places** of a plan say without any such memory what it comes to: the nodes from the root on,
each in front of its inputs and the inputs from left to right, with the position of each node in the
tree. The main result, `Plan.explain_eq_places`, is that an explanation consists of one line for each
place, as far in as the position is deep and with the name, the particulars and the row type of the node,
and that each position of the tree is a place exactly once. -/

namespace QueryPlan

namespace Plan

/-- An input is smaller than the plan whose root reads it. -/
theorem sizeOf_lt_of_mem_inputs {plan : Plan} :
    ∀ input ∈ plan.inputs, sizeOf input < sizeOf plan := by
  cases plan with
  | scan =>
    intro member found
    cases found
  | unary operator input types =>
    simp only [unary.sizeOf_spec]
    exact List.forall_mem_singleton.2 (by omega)
  | binary operator left right types =>
    simp only [binary.sizeOf_spec]
    exact List.forall_mem_cons.2 ⟨by omega, List.forall_mem_singleton.2 (by omega)⟩
  | set operation inputs types =>
    intro member found
    have smaller : sizeOf member < sizeOf inputs := List.sizeOf_lt_of_mem found
    simp only [set.sizeOf_spec]
    omega

/-- **Induction over plans**: what holds of a plan as soon as it holds of its inputs holds of every
plan. -/
theorem induction {motive : Plan → Prop}
    (step : ∀ plan : Plan, (∀ input ∈ plan.inputs, motive input) → motive plan) (plan : Plan) :
    motive plan :=
  step plan fun input member =>
    have := sizeOf_lt_of_mem_inputs input member
    induction step input
termination_by sizeOf plan

end Plan

/-! ## Places -/

/-- A **place** in a plan: a position, and the node there. -/
structure Place where
  /-- The numbers of the inputs on the way from the root. -/
  path : List Nat
  /-- The subtree whose root is the node. -/
  node : Plan

namespace Place

/-- The place in a plan of a place in its input of a number. -/
def below (index : Nat) (place : Place) : Place := ⟨index :: place.path, place.node⟩

@[simp] theorem path_below (index : Nat) (place : Place) :
    (place.below index).path = index :: place.path := rfl

/-- The line of a place in a plan whose root is at a depth: as many levels further in as the position
is deep. -/
def line (depth : Nat) (place : Place) : String := place.node.line (depth + place.path.length)

/-- A place of an input has the line there that it has in the plan. -/
theorem line_below (depth index : Nat) (place : Place) :
    (place.below index).line depth = place.line (depth + 1) := by
  rw [line, line, path_below, List.length_cons]
  congr 1
  omega

end Place

namespace Plan

mutual

/-- The **places** of a plan: the root, and behind it the places of its inputs from left to right. -/
def places : Plan → List Place
  | scan names schema types => [⟨[], scan names schema types⟩]
  | unary operator input types =>
    ⟨[], unary operator input types⟩ :: (places input).map (Place.below 0)
  | binary operator left right types =>
    ⟨[], binary operator left right types⟩ ::
      ((places left).map (Place.below 0) ++ (places right).map (Place.below 1))
  | set operation inputs types => ⟨[], set operation inputs types⟩ :: placesFrom 0 inputs

/-- The places of a list of inputs that are numbered from a number on. -/
def placesFrom (number : Nat) : List Plan → List Place
  | [] => []
  | input :: inputs =>
    (places input).map (Place.below number) ++ placesFrom (number + 1) inputs

end

/-- **The places of a plan** are the root and the places of the inputs that it lists. -/
theorem places_eq_cons (plan : Plan) : plan.places = ⟨[], plan⟩ :: placesFrom 0 plan.inputs := by
  cases plan <;> simp [places, placesFrom, inputs]

/-- The places of inputs lie behind their numbers. -/
theorem exists_path_eq_of_mem_placesFrom {place : Place} {number : Nat} {inputs : List Plan}
    (member : place ∈ placesFrom number inputs) :
    ∃ index path, number ≤ index ∧ place.path = index :: path := by
  induction inputs generalizing number with
  | nil => cases member
  | cons input inputs ih =>
    rw [placesFrom, List.mem_append, List.mem_map] at member
    obtain ⟨inner, -, rfl⟩ | later := member
    · exact ⟨number, inner.path, Nat.le_refl number, rfl⟩
    · obtain ⟨index, path, behind, equal⟩ := ih later
      exact ⟨index, path, Nat.le_of_succ_le behind, equal⟩

/-! ### Every position once -/

/-- A place behind the number of an input is a place of that input. -/
theorem mem_placesFrom_iff {number index : Nat} {path : List Nat} {node : Plan} {inputs : List Plan} :
    ⟨(number + index) :: path, node⟩ ∈ placesFrom number inputs ↔
      ∃ input, inputs[index]? = some input ∧ ⟨path, node⟩ ∈ input.places := by
  induction inputs generalizing number index with
  | nil => simp [placesFrom]
  | cons input inputs ih =>
    have shifted {place : Place} : place.below number = ⟨(number + index) :: path, node⟩ ↔
        index = 0 ∧ place = ⟨path, node⟩ := by
      obtain ⟨_, _⟩ := place
      simp [Place.below, and_assoc]
    simp only [placesFrom, List.mem_append, List.mem_map, shifted]
    cases index with
    | zero =>
      -- the inputs behind the first one have higher numbers
      have outside : ⟨(number + 0) :: path, node⟩ ∉ placesFrom (number + 1) inputs := by
        intro member
        obtain ⟨index, _, behind, equal⟩ := exists_path_eq_of_mem_placesFrom member
        have := (List.cons.inj equal).1
        omega
      rw [or_iff_left outside]
      simp
    | succ index =>
      have moved : number + (index + 1) = number + 1 + index := by omega
      simp [moved, ih]

/-- **The places are the positions**: a node stands at a position exactly when the two are a place. -/
theorem mem_places_iff {plan node : Plan} {path : List Nat} :
    ⟨path, node⟩ ∈ plan.places ↔ plan.at? path = some node := by
  induction path generalizing plan with
  | nil =>
    have outside : ⟨[], node⟩ ∉ placesFrom 0 plan.inputs := by
      intro member
      obtain ⟨_, _, -, equal⟩ := exists_path_eq_of_mem_placesFrom member
      cases equal
    simp [places_eq_cons, outside, eq_comm]
  | cons index path ih =>
    have inner : ⟨index :: path, node⟩ ∈ placesFrom 0 plan.inputs ↔
        ∃ input, plan.inputs[index]? = some input ∧ ⟨path, node⟩ ∈ input.places := by
      rw [← @mem_placesFrom_iff 0, Nat.zero_add]
    simp only [places_eq_cons plan, List.mem_cons, Place.mk.injEq, reduceCtorEq, false_and, false_or,
      inner, at?_cons_eq_some_iff, ih]

/-- The places of inputs in turn rise when those of each of them do. -/
theorem pairwise_placesFrom {number : Nat} {inputs : List Plan}
    (rising : ∀ input ∈ inputs, input.places.Pairwise fun left right => left.path < right.path) :
    (placesFrom number inputs).Pairwise fun left right => left.path < right.path := by
  induction inputs generalizing number with
  | nil => exact .nil
  | cons input inputs ih =>
    obtain ⟨first, rest⟩ := List.forall_mem_cons.1 rising
    rw [placesFrom, List.pairwise_append, List.pairwise_map]
    refine ⟨first.imp fun less => List.cons_lt_cons_iff.2 (.inr ⟨rfl, less⟩), ih rest, ?_⟩
    intro left member right later
    obtain ⟨inner, -, rfl⟩ := List.mem_map.1 member
    obtain ⟨index, path, behind, equal⟩ := exists_path_eq_of_mem_placesFrom later
    rw [equal, Place.path_below]
    exact List.cons_lt_cons_iff.2 (.inl behind)

/-- The places of a plan rise: a node stands in front of what is below it, and what is below an input in
front of what is below the next one. -/
theorem pairwise_places (plan : Plan) :
    plan.places.Pairwise fun left right => left.path < right.path := by
  induction plan using Plan.induction with
  | step plan ih =>
    rw [places_eq_cons, List.pairwise_cons]
    refine ⟨fun place member => ?_, pairwise_placesFrom ih⟩
    obtain ⟨index, path, -, equal⟩ := exists_path_eq_of_mem_placesFrom member
    rw [equal]
    exact List.nil_lt_cons index path

end Plan

/-! ## What a printer writes -/

namespace Place

/-- The lines of places in a plan whose root is at a depth. -/
def lines (depth : Nat) (places : List Place) : String := String.join (places.map (line depth))

theorem lines_nil (depth : Nat) : lines depth [] = "" := rfl

theorem lines_cons (depth : Nat) (place : Place) (places : List Place) :
    lines depth (place :: places) = place.line depth ++ lines depth places :=
  String.join_cons

theorem lines_append (depth : Nat) (places others : List Place) :
    lines depth (places ++ others) = lines depth places ++ lines depth others := by
  rw [lines, List.map_append, String.join_append, lines, lines]

/-- The places of an input have the lines there that they have in the plan. -/
theorem lines_map_below (depth index : Nat) (places : List Place) :
    lines depth (places.map (below index)) = lines (depth + 1) places := by
  rw [lines, lines, List.map_map]
  congr 1
  exact List.map_congr_left fun place _ => line_below depth index place

end Place

namespace Printer

open Plan

/-- A printer **adds** a text and stands where it stood. -/
def add (printer : Printer) (text : String) : Printer := ⟨printer.depth, printer.text ++ text⟩

/-- Going down and back up leads to where it began. -/
@[simp] theorem ascend_descend (printer : Printer) : printer.descend.ascend = printer := rfl

/-- **One node**: a printer writes its line, and one level down goes through the inputs that the node
lists. -/
theorem write_eq (printer : Printer) (plan : Plan) :
    printer.write plan = ((printer.writeLine plan).descend.writeAll plan.inputs).ascend := by
  cases plan <;> simp [write, writeAll, inputs]

/-- Inputs in turn: a printer that adds the lines of each of them adds the lines of all. -/
theorem writeAll_descend {inputs : List Plan}
    (each : ∀ input ∈ inputs, ∀ printer : Printer,
      printer.write input = printer.add (Place.lines printer.depth input.places))
    (printer : Printer) (number : Nat) :
    printer.descend.writeAll inputs =
      (printer.add (Place.lines printer.depth (placesFrom number inputs))).descend := by
  induction inputs generalizing printer number with
  | nil => simp [writeAll, placesFrom, Place.lines_nil, add]
  | cons input inputs ih =>
    obtain ⟨first, rest⟩ := List.forall_mem_cons.1 each
    have down (text : String) : printer.descend.add text = (printer.add text).descend := rfl
    -- the depth behind the first input is the depth in front of it, so the others are as deep
    have again (text : String) : (printer.add text).depth = printer.depth := rfl
    rw [writeAll, first, down, ih rest _ (number + 1), again, placesFrom, Place.lines_append,
      Place.lines_map_below]
    simp only [add, descend, String.append_assoc]

/-- **A whole plan**: wherever a printer stands, it adds the lines of the places of the plan as seen from
its depth, and comes back to that depth. -/
theorem write_eq_add (printer : Printer) (plan : Plan) :
    printer.write plan = printer.add (Place.lines printer.depth plan.places) := by
  induction plan using Plan.induction generalizing printer with
  | step plan ih =>
    rw [write_eq, writeAll_descend ih _ 0, ascend_descend, places_eq_cons]
    simp only [writeLine, add, Place.lines_cons, String.append_assoc]
    rfl

end Printer

namespace Plan

/-- An explanation consists of the lines of the places, the root at depth zero. -/
theorem explain_eq_lines (plan : Plan) : plan.explain = Place.lines 0 plan.places := by
  rw [explain, Printer.write_eq_add]
  exact String.empty_append

/-- The header of a node is its name, what is particular to it behind a colon unless there is nothing, and
the type of its rows behind an arrow. -/
theorem header_eq (plan : Plan) :
    plan.header =
      plan.name ++ (if plan.detail = "" then "" else ": " ++ plan.detail) ++ " -> " ++
        plan.rowType.text := by
  have text (part : String) : toString part = part := rfl
  by_cases empty : plan.detail = ""
  · simp [header, text, empty]
  · simp [header, text, String.isEmpty_iff, empty, String.append_assoc]

/-- **An explanation is the walk through the plan.** It consists of the lines of the places in turn: two
blanks for each step of the position, the name of the node, what is particular to the node behind a colon
unless there is nothing, and the type of its rows behind an arrow. The positions rise, so that no node has
two lines; and a node has a line at a position exactly when it stands there in the tree. -/
theorem explain_eq_places (plan : Plan) :
    plan.explain =
        String.join (plan.places.map fun place =>
          String.ofList (List.replicate (2 * place.path.length) ' ') ++
            (place.node.name ++ (if place.node.detail = "" then "" else ": " ++ place.node.detail) ++
              " -> " ++ place.node.rowType.text) ++ "\n") ∧
      plan.places.Pairwise (fun left right => left.path < right.path) ∧
      ∀ path node, ⟨path, node⟩ ∈ plan.places ↔ plan.at? path = some node := by
  refine ⟨?_, pairwise_places plan, fun path node => mem_places_iff⟩
  rw [explain_eq_lines, Place.lines]
  congr 1
  refine List.map_congr_left fun place _ => ?_
  rw [Place.line, Nat.zero_add, line, header_eq]

/-- An aggregate over a join of two scans has four lines, and a product no colon. -/
example :
    groupedJoin.explain =
        "Aggregate: groupings=[($0), ()] measures=[count() FILTER $0] -> struct<boolean,i64,i32>\n" ++
        "  Join: LEFT ON $0 WHERE $0 -> struct<boolean,i32?>\n" ++
        "    NamedScan: orders [paid] -> struct<boolean>\n" ++
        "    NamedScan: customers [age] -> struct<i32>\n" ∧
      (binary .cross (columnScan "orders" "id" (.plain .i64)) (columnScan "items" "name" (.plain .string))
          [.plain .i64, .plain .string]).header =
        "Cross -> struct<i64,string>" := by
  decide +kernel

end Plan

end QueryPlan

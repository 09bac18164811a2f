import QueryPlan.Plan.Basic

/-! # Explanations of plans
A plan is explained by one line for each node, the inputs below the node that reads them and two
blanks further in. A line names the node, says what is particular to it, and gives the type of its
rows. -/

namespace QueryPlan

/-- A list of texts with commas between them. -/
def commaSeparated (texts : List String) : String := ", ".intercalate texts

/-- The text of a sort key. -/
def SortKey.text (key : SortKey) : String := s!"{key.expression.text} {key.direction.text}"

/-- The text of a grouping. -/
def Grouping.text (grouping : Grouping) : String :=
  "(" ++ commaSeparated (grouping.map Expression.text) ++ ")"

/-- The text of a measure. -/
def Measure.text (measure : Measure) : String :=
  match measure.filter with
  | some filter => s!"{measure.call.text} FILTER {filter.text}"
  | none => measure.call.text

/-- What is particular to an operator of one input. -/
def UnaryOperator.text : UnaryOperator → String
  | filter condition => condition.text
  | project expressions => "[" ++ commaSeparated (expressions.map Expression.text) ++ "]"
  | sort keys => "[" ++ commaSeparated (keys.map SortKey.text) ++ "]"
  | fetch offset count =>
    match count with
    | some count => s!"offset={offset}, count={count}"
    | none => s!"offset={offset}"
  | aggregate groupings measures =>
    "groupings=[" ++ commaSeparated (groupings.map Grouping.text) ++ "] measures=[" ++
      commaSeparated (measures.map Measure.text) ++ "]"

/-- What is particular to an operator of two inputs; nothing is to a product. -/
def BinaryOperator.text : BinaryOperator → String
  | cross => ""
  | join type condition postFilter =>
    let matching := s!"{type.text} ON {condition.text}"
    match postFilter with
    | some filter => s!"{matching} WHERE {filter.text}"
    | none => matching

namespace Plan

/-- What is particular to the node at the root. -/
def detail : Plan → String
  | scan names schema _ => ".".intercalate names ++ " [" ++ commaSeparated schema.names ++ "]"
  | unary operator _ _ => operator.text
  | binary operator _ _ _ => operator.text
  | set operation _ _ => operation.text

/-- The line of the node at the root, without indentation. -/
def header (plan : Plan) : String :=
  let detail := plan.detail
  let lead := if detail.isEmpty then plan.name else s!"{plan.name}: {detail}"
  s!"{lead} -> {plan.rowType.text}"

/-- The line of a node at a depth. -/
def line (depth : Nat) (plan : Plan) : String :=
  String.ofList (List.replicate (2 * depth) ' ') ++ plan.header ++ "\n"

end Plan

/-! ## Printing -/

/-- A **printer** of explanations, which goes through a plan from node to node. -/
structure Printer where
  /-- The depth of the node it has come to. -/
  depth : Nat
  /-- The text written so far. -/
  text : String

namespace Printer

/-- A printer that has come to the root and has written nothing. -/
def start : Printer := ⟨0, ""⟩

/-- Writes the line of a node at the depth of the printer. -/
def writeLine (printer : Printer) (node : Plan) : Printer :=
  ⟨printer.depth, printer.text ++ node.line printer.depth⟩

/-- Goes down to the inputs of a node. -/
def descend (printer : Printer) : Printer := ⟨printer.depth + 1, printer.text⟩

/-- Goes back up from the inputs of a node. -/
def ascend (printer : Printer) : Printer := ⟨printer.depth - 1, printer.text⟩

mutual

/-- Writes the lines of a plan: that of its root and then, one level down, those of its inputs. -/
def write (printer : Printer) : Plan → Printer
  | .scan names schema fields => printer.writeLine (.scan names schema fields)
  | .unary operator input fields =>
    (write (printer.writeLine (.unary operator input fields)).descend input).ascend
  | .binary operator left right fields =>
    (write (write (printer.writeLine (.binary operator left right fields)).descend left) right).ascend
  | .set operation inputs fields =>
    (writeAll (printer.writeLine (.set operation inputs fields)).descend inputs).ascend

/-- Writes the lines of one plan after the other. -/
def writeAll (printer : Printer) : List Plan → Printer
  | [] => printer
  | plan :: plans => writeAll (write printer plan) plans

end

end Printer

namespace Plan

/-- The explanation of a plan. -/
def explain (plan : Plan) : String := (Printer.start.write plan).text

instance : ToString Plan := ⟨explain⟩

end Plan

end QueryPlan

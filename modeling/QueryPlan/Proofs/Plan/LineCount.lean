import QueryPlan.Proofs.DataType.Components
import QueryPlan.Proofs.Expression.Nodes
import QueryPlan.Proofs.Plan.Explanation
import QueryPlan.Proofs.Text.LineBreak

/-! # How many lines an explanation has
The line of a node ends with a line break. Every other line break of an explanation stands in a text
that the plan **carries**: a name of a table, a column, a function or a type, or a character string,
each written as it was given. The main result, `Plan.length_lines_explain`, counts the lines of an
explanation by the nodes of the plan and the line breaks in the texts it carries, so that there is one
line for each node exactly when none of these texts has a line break. -/

namespace QueryPlan

open Text

/-! ## Types -/

@[simp] theorem breaks_mark (null : Nullability) : breaks null.mark = 0 := by cases null <;> rfl

/-- A keyword and its parameters have the line breaks that each of them has. -/
theorem breaks_bracketed (keyword : String) (parameters : List String) :
    breaks (bracketed keyword parameters) = breaks keyword + breaksIn parameters := by
  have comma : breaks "," = 0 := rfl
  have opened : breaks "<" = 0 := rfl
  have closed : breaks ">" = 0 := rfl
  simp [bracketed, breaks_intercalate comma, opened, closed]

@[simp] theorem breaks_keyword_sized (kind : LengthKind) : breaks kind.keyword = 0 := by
  cases kind <;> rfl

@[simp] theorem breaks_keyword_precise (kind : PrecisionKind) : breaks kind.keyword = 0 := by
  cases kind <;> rfl

namespace DataType

/-- The text of an atom has the line breaks of its name, if it has one. -/
theorem breaks_atom_text (kind : Atom) (null : Nullability) :
    breaks kind.text = breaksIn (atom kind null).userDefinedNames := by
  cases kind with
  | plain kind => cases kind <;> rfl
  | sized kind length => simp [Atom.text, breaks_bracketed, userDefinedNames]
  | precise kind precision => simp [Atom.text, breaks_bracketed, userDefinedNames]
  | decimal precision scale =>
    have keyword : breaks "decimal" = 0 := rfl
    simp [Atom.text, breaks_bracketed, userDefinedNames, keyword]
  | userDefined name =>
    have mark : breaks userDefinedMark = 0 := rfl
    simp [Atom.text, userDefinedNames, mark]

/-- The text of a composed type has the line breaks of its components. -/
theorem Composed.breaks_text {null : Nullability} {keyword : Keyword} {components : List DataType}
    {type : DataType} (composed : Composed null keyword components type) :
    breaks type.text = breaksIn (components.map text) := by
  have keywords : breaks "struct" = 0 ∧ breaks "list" = 0 ∧ breaks "map" = 0 := ⟨rfl, rfl, rfl⟩
  cases composed <;> simp [text, texts_eq_map, breaks_bracketed, keywords]

/-- **Types**: the text of a type has the line breaks of the names in it. -/
theorem breaks_text (type : DataType) : breaks type.text = breaksIn type.userDefinedNames := by
  induction type using DataType.induction with
  | atom kind null => rw [text, breaks_append, breaks_mark, Nat.add_zero, breaks_atom_text]
  | composed composed ih =>
    rw [composed.breaks_text, breaksIn_map_eq ih, composed.userDefinedNames_eq]

end DataType

/-! ## Expressions -/

namespace LiteralValue

/-- The characters that a value is given by, if it is a character string. -/
def characters : LiteralValue → List String
  | string value | fixedChar value | varChar value => [value]
  | _ => []

/-- Doubling quotes adds no line break. -/
theorem count_break_doubleQuotes (text : List Char) :
    (doubleQuotes text).count '\n' = text.count '\n' := by
  fun_induction doubleQuotes text with
  | case1 => rfl
  | case2 rest ih => simp [ih]
  | case3 c rest _ ih => simp [List.count_cons, ih]

/-- A quoted text has the line breaks of the text. -/
@[simp] theorem breaks_quote (value : String) : breaks (quote value) = breaks value := by
  simp [breaks, quote, count_break_doubleQuotes]

/-- **Values**: the text of a value has the line breaks of its characters. -/
theorem breaks_text (value : LiteralValue) : breaks value.text = breaksIn value.characters := by
  cases value with
  | boolean value => cases value <;> rfl
  | i8 | i16 | i32 | i64 => exact breaks_repr_int _
  | fp32 | fp64 => exact breaks_format_text _ _
  | string | fixedChar | varChar => simp [text, characters]
  | date days =>
    have word : breaks "date(" = 0 ∧ breaks ")" = 0 := ⟨rfl, rfl⟩
    simp [text, characters, word]
  | null => rfl

end LiteralValue

namespace Expression

/-- The texts that the root of an expression carries. -/
def rootTexts : Expression → List String
  | literal constant => constant.value.characters
  | field _ | ifThen _ _ _ => []
  | call function _ _ => [function.name]
  | cast _ type => type.userDefinedNames

/-- The texts that an expression **carries**, at any depth. -/
def carried (expression : Expression) : List String := expression.nodes.flatMap rootTexts

/-- An expression carries what its root and its parts carry. -/
theorem carried_eq (expression : Expression) :
    expression.carried = expression.rootTexts ++ expression.parts.flatMap carried := by
  rw [carried, nodes_eq_cons, List.flatMap_cons, List.flatMap_assoc]
  rfl

/-- The text of clauses has the line breaks of their conditions and results. -/
theorem breaks_clauseTexts (clauses : List (Expression × Expression)) :
    breaks (clauseTexts clauses) = breaksIn ((clauseParts clauses).map text) := by
  have words : breaks " " = 0 ∧ breaks " then " = 0 := ⟨rfl, rfl⟩
  induction clauses with
  | nil => rfl
  | cons clause clauses ih =>
    have first : clauseParts (clause :: clauses) = clause.1 :: clause.2 :: clauseParts clauses := rfl
    simp [clauseTexts, first, ih, words, Nat.add_assoc]

/-- **One node of an expression** adds the line breaks of the texts at the root to those of the parts. -/
theorem breaks_text_eq (expression : Expression) :
    breaks expression.text =
      breaksIn expression.rootTexts + breaksIn (expression.parts.map text) := by
  cases expression with
  | literal constant => simp [text, rootTexts, parts, constant.value.breaks_text]
  | field reference =>
    have sign : breaks "$" = 0 := rfl
    simp [text, rootTexts, parts, sign]
  | call function arguments type =>
    have marks : breaks "(" = 0 ∧ breaks ")" = 0 ∧ breaks ", " = 0 := ⟨rfl, rfl, rfl⟩
    simp [text, texts_eq_map, rootTexts, parts, breaks_intercalate, marks]
  | cast input type =>
    have words : breaks "cast(" = 0 ∧ breaks " AS " = 0 ∧ breaks ")" = 0 := ⟨rfl, rfl, rfl⟩
    simp [text, rootTexts, parts, type.breaks_text, words, Nat.add_comm]
  | ifThen clauses otherwise type =>
    have words : breaks "if" = 0 ∧ breaks " else " = 0 := ⟨rfl, rfl⟩
    simp [text, rootTexts, parts, breaks_clauseTexts, words]

/-- **Expressions**: the text of an expression has the line breaks of the texts it carries. -/
theorem breaks_text (expression : Expression) :
    breaks expression.text = breaksIn expression.carried := by
  induction expression using Expression.induction with
  | step expression ih =>
    rw [breaks_text_eq, breaksIn_map_eq ih, carried_eq, breaksIn_append]

end Expression

/-! ## Operators -/

/-- Texts with commas between them have the line breaks that each of them has. -/
@[simp] theorem breaks_commaSeparated (texts : List String) :
    breaks (commaSeparated texts) = breaksIn texts :=
  breaks_intercalate rfl texts

/-- The texts of expressions have the line breaks of the texts that the expressions carry. -/
theorem Expression.breaksIn_map_text (expressions : List Expression) :
    breaksIn (expressions.map text) = breaksIn (expressions.flatMap carried) :=
  breaksIn_map_eq fun expression _ => expression.breaks_text

/-- The text of a sort key has the line breaks of what its expression carries. -/
theorem SortKey.breaks_text (key : SortKey) :
    breaks key.text = breaksIn key.expression.carried := by
  have words : breaks " " = 0 ∧ breaks key.direction.text = 0 := ⟨rfl, by cases key.direction <;> rfl⟩
  simp [text, key.expression.breaks_text, words]

/-- The text of a grouping has the line breaks of what its expressions carry. -/
theorem Grouping.breaks_text (grouping : Grouping) :
    breaks grouping.text = breaksIn (grouping.flatMap Expression.carried) := by
  have marks : breaks "(" = 0 ∧ breaks ")" = 0 := ⟨rfl, rfl⟩
  simp [text, Expression.breaksIn_map_text, marks]

/-- The texts that a call of an aggregate function carries. -/
def AggregateCall.carried (call : AggregateCall) : List String :=
  call.function.name :: call.arguments.flatMap Expression.carried

/-- The text of a call has the line breaks of the texts it carries. -/
theorem AggregateCall.breaks_text (call : AggregateCall) :
    breaks call.text = breaksIn call.carried := by
  have marks : breaks "(" = 0 ∧ breaks ")" = 0 ∧ breaks ", " = 0 := ⟨rfl, rfl, rfl⟩
  have scope : breaks (if call.scope = .distinct then "DISTINCT " else "") = 0 := by split <;> rfl
  simp [text, carried, Expression.texts_eq_map, breaks_intercalate, Expression.breaksIn_map_text,
    scope, marks]

/-- The texts that a measure carries: those of its call and those of its filter. -/
def Measure.carried (measure : Measure) : List String :=
  measure.call.carried ++ measure.filter.toList.flatMap Expression.carried

/-- The text of a measure has the line breaks of the texts it carries. -/
theorem Measure.breaks_text (measure : Measure) : breaks measure.text = breaksIn measure.carried := by
  have word : breaks " FILTER " = 0 := rfl
  obtain ⟨call, filter⟩ := measure
  cases filter with
  | none => simp [text, carried, call.breaks_text]
  | some filter => simp [text, carried, call.breaks_text, filter.breaks_text, word]

/-- The texts that an operator of one input carries. -/
def UnaryOperator.carried : UnaryOperator → List String
  | filter condition => condition.carried
  | project expressions => expressions.flatMap Expression.carried
  | sort keys => keys.flatMap fun key => key.expression.carried
  | fetch _ _ => []
  | aggregate groupings measures =>
    groupings.flatMap (fun grouping => grouping.flatMap Expression.carried) ++
      measures.flatMap Measure.carried

/-- The text of an operator of one input has the line breaks of the texts it carries. -/
theorem UnaryOperator.breaks_text (operator : UnaryOperator) :
    breaks operator.text = breaksIn operator.carried := by
  have brackets : breaks "[" = 0 ∧ breaks "]" = 0 := ⟨rfl, rfl⟩
  cases operator with
  | filter condition => exact condition.breaks_text
  | project expressions => simp [text, carried, Expression.breaksIn_map_text, brackets]
  | sort keys =>
    have each : breaksIn (keys.map SortKey.text) =
        breaksIn (keys.flatMap fun key => key.expression.carried) :=
      breaksIn_map_eq fun key _ => key.breaks_text
    simp [text, carried, each, brackets]
  | fetch offset count =>
    have words : breaks "offset=" = 0 ∧ breaks ", count=" = 0 := ⟨rfl, rfl⟩
    cases count <;> simp [text, carried, words]
  | aggregate groupings measures =>
    have words : breaks "groupings=[" = 0 ∧ breaks "] measures=[" = 0 := ⟨rfl, rfl⟩
    have grouped : breaksIn (groupings.map Grouping.text) =
        breaksIn (groupings.flatMap fun grouping => grouping.flatMap Expression.carried) :=
      breaksIn_map_eq fun grouping _ => Grouping.breaks_text grouping
    have measured : breaksIn (measures.map Measure.text) = breaksIn (measures.flatMap Measure.carried) :=
      breaksIn_map_eq fun measure _ => measure.breaks_text
    simp [text, carried, grouped, measured, words, brackets]

/-- The texts that an operator of two inputs carries. -/
def BinaryOperator.carried : BinaryOperator → List String
  | cross => []
  | join _ condition postFilter =>
    condition.carried ++ postFilter.toList.flatMap Expression.carried

/-- The text of an operator of two inputs has the line breaks of the texts it carries. -/
theorem BinaryOperator.breaks_text (operator : BinaryOperator) :
    breaks operator.text = breaksIn operator.carried := by
  cases operator with
  | cross => rfl
  | join type condition postFilter =>
    have words : breaks " ON " = 0 ∧ breaks " WHERE " = 0 := ⟨rfl, rfl⟩
    have kind : breaks type.text = 0 := by cases type <;> rfl
    cases postFilter with
    | none => simp [text, carried, condition.breaks_text, kind, words]
    | some filter => simp [text, carried, condition.breaks_text, filter.breaks_text, kind, words]

/-- The words for a set operation stand on one line. -/
theorem SetOperation.breaks_text (operation : SetOperation) : breaks operation.text = 0 := by
  obtain ⟨kind, keepsDuplicates⟩ := operation
  cases kind <;> cases keepsDuplicates <;> decide

/-! ## Nodes -/

namespace Plan

/-- The texts that the parameters of the node at the root carry. -/
def parameterTexts : Plan → List String
  | scan names schema _ => names ++ schema.names
  | unary operator _ _ => operator.carried
  | binary operator _ _ _ => operator.carried
  | set _ _ _ => []

/-- What is particular to a node has the line breaks of the texts that its parameters carry. -/
theorem breaks_detail (plan : Plan) : breaks plan.detail = breaksIn plan.parameterTexts := by
  cases plan with
  | scan names schema types =>
    have marks : breaks "." = 0 ∧ breaks " [" = 0 ∧ breaks "]" = 0 := ⟨rfl, rfl, rfl⟩
    simp [detail, parameterTexts, breaks_intercalate, marks]
  | unary operator input types => exact operator.breaks_text
  | binary operator left right types => exact operator.breaks_text
  | set operation inputs types =>
    rw [detail, operation.breaks_text]
    rfl

/-- The texts that the line of a node carries: those of its parameters, and the names in the type of its
rows. -/
def lineTexts (plan : Plan) : List String := plan.parameterTexts ++ plan.rowType.userDefinedNames

/-- The line of a node, up to its end, has the line breaks of the texts it carries. -/
theorem breaks_header (plan : Plan) : breaks plan.header = breaksIn plan.lineTexts := by
  have words : breaks ": " = 0 ∧ breaks " -> " = 0 := ⟨rfl, rfl⟩
  have name : breaks plan.name = 0 := by
    rw [Plan.name]
    cases plan.kind <;> rfl
  have details : breaks (if plan.detail = "" then "" else ": " ++ plan.detail) = breaks plan.detail := by
    split
    · rename_i empty
      rw [empty]
    · rw [breaks_append, words.1, Nat.zero_add]
  simp [header_eq, name, words, details, lineTexts, breaks_detail, plan.rowType.breaks_text]

/-- The line of a node ends with a line break behind the blanks and the header. -/
theorem toList_line (depth : Nat) (plan : Plan) :
    (plan.line depth).toList =
      List.replicate (2 * depth) ' ' ++ plan.header.toList ++ ['\n'] := by
  simp [line]

/-- The texts that a plan **carries**, at any of its nodes. -/
def carried (plan : Plan) : List String := plan.places.flatMap fun place => place.node.lineTexts

end Plan

/-- **The lines of places** are one for each place, and one for each line break that a place carries. -/
theorem Place.length_lines (depth : Nat) (places : List Place) :
    (Text.lines (Place.lines depth places).toList).length =
      places.length + breaksIn (places.flatMap fun place => place.node.lineTexts) := by
  induction places with
  | nil => rfl
  | cons place places ih =>
    have blanks (width : Nat) : (List.replicate width ' ').count '\n' = 0 := by
      simp [List.count_replicate]
    have header : place.node.header.toList.count '\n' = breaksIn place.node.lineTexts :=
      place.node.breaks_header
    rw [Place.lines_cons, String.toList_append, Place.line, Plan.toList_line, List.append_assoc,
      List.singleton_append, Text.length_lines_append, List.count_append, blanks, header, ih,
      List.length_cons, List.flatMap_cons, breaksIn_append]
    omega

/-- **Lines and nodes.** An explanation has a line for each node of the plan and one more for each line
break in the texts that the plan carries. So the lines are as many as the nodes exactly when no name and
no character string in the plan has a line break. -/
theorem Plan.length_lines_explain (plan : Plan) :
    (Text.lines plan.explain.toList).length = plan.places.length + breaksIn plan.carried ∧
      ((Text.lines plan.explain.toList).length = plan.places.length ↔
        ∀ text ∈ plan.carried, '\n' ∉ text.toList) := by
  have counted : (Text.lines plan.explain.toList).length =
      plan.places.length + breaksIn plan.carried := by
    rw [explain_eq_lines, Place.length_lines, carried]
  refine ⟨counted, ?_⟩
  rw [counted, ← breaksIn_eq_zero_iff]
  omega

/-- A name with a line break in it is written as it is: a built scan, one node, has two lines. -/
theorem Plan.not_length_lines_explain :
    ¬ ∀ plan : Plan, Built plan →
      (Text.lines plan.explain.toList).length = plan.places.length := by
  intro single
  have lines := single (columnScan "a\nb" "x" (.plain .i32)) (built_columnScan (by decide))
  exact absurd lines (by decide)

end QueryPlan

import QueryPlan.Expression.Basic

/-! # Nodes of expressions
The parts of an expression are the expressions directly inside it, and its nodes are the expression
itself and the nodes of its parts, at any depth. Both stand in the order in which an expression is
written: the arguments of a call one after the other, of each clause the condition and then the result,
and the last expression of a conditional behind its clauses. -/

namespace QueryPlan.Expression

/-! ## Parts -/

/-- The conditions and results of a list of clauses, clause by clause. -/
def clauseParts (clauses : List (Expression × Expression)) : List Expression :=
  clauses.flatMap fun clause => [clause.1, clause.2]

/-- The **parts** of an expression: the expressions directly inside it. -/
def parts : Expression → List Expression
  | literal _ | field _ => []
  | call _ arguments _ => arguments
  | cast input _ => [input]
  | ifThen clauses otherwise _ => clauseParts clauses ++ [otherwise]

/-- Something holds of the parts of clauses when it holds of each condition and each result. -/
theorem forall_mem_clauseParts {property : Expression → Prop}
    {clauses : List (Expression × Expression)} :
    (∀ part ∈ clauseParts clauses, property part) ↔
      ∀ clause ∈ clauses, property clause.1 ∧ property clause.2 := by
  rw [clauseParts, List.forall_mem_flatMap]
  exact forall₂_congr fun clause _ => by simp

/-- A part is smaller than the expression it is in. -/
theorem sizeOf_lt_of_mem_parts {expression : Expression} :
    ∀ part ∈ expression.parts, sizeOf part < sizeOf expression := by
  cases expression with
  | literal | field => exact nofun
  | call function arguments type =>
    intro part member
    have smaller : sizeOf part < sizeOf arguments := List.sizeOf_lt_of_mem member
    simp only [call.sizeOf_spec]
    omega
  | cast input type =>
    intro part member
    obtain rfl := List.mem_singleton.1 member
    simp only [cast.sizeOf_spec]
    omega
  | ifThen clauses otherwise type =>
    simp only [ifThen.sizeOf_spec]
    refine List.forall_mem_append.2 ⟨forall_mem_clauseParts.2 ?_, List.forall_mem_singleton.2 ?_⟩
    · rintro ⟨condition, result⟩ member
      have smaller : sizeOf (condition, result) < sizeOf clauses := List.sizeOf_lt_of_mem member
      simp only [Prod.mk.sizeOf_spec] at smaller ⊢
      constructor
      · omega
      · omega
    · omega

/-- **Induction over expressions**: what holds of an expression as soon as it holds of its parts holds
of every expression. -/
theorem induction {motive : Expression → Prop}
    (step : ∀ expression : Expression, (∀ part ∈ expression.parts, motive part) → motive expression)
    (expression : Expression) : motive expression :=
  step expression fun part member =>
    have := sizeOf_lt_of_mem_parts part member
    induction step part
termination_by sizeOf expression

/-! ## Nodes -/

mutual

/-- The **nodes** of an expression: the expression itself and everything inside it, from left to
right. -/
def nodes : Expression → List Expression
  | literal constant => [literal constant]
  | field reference => [field reference]
  | call function arguments type => call function arguments type :: allNodes arguments
  | cast input type => cast input type :: nodes input
  | ifThen clauses otherwise type =>
    ifThen clauses otherwise type :: (clauseNodes clauses ++ nodes otherwise)

/-- The nodes of a list of expressions. -/
def allNodes : List Expression → List Expression
  | [] => []
  | expression :: expressions => nodes expression ++ allNodes expressions

/-- The nodes of a list of clauses. -/
def clauseNodes : List (Expression × Expression) → List Expression
  | [] => []
  | (condition, result) :: clauses => nodes condition ++ (nodes result ++ clauseNodes clauses)

end

/-- The nodes of a list are the nodes of its members. -/
theorem allNodes_eq_flatMap (expressions : List Expression) :
    allNodes expressions = expressions.flatMap nodes := by
  induction expressions with
  | nil => rfl
  | cons expression expressions ih => rw [allNodes, ih, List.flatMap_cons]

/-- The nodes of clauses are the nodes of their parts. -/
theorem clauseNodes_eq_flatMap (clauses : List (Expression × Expression)) :
    clauseNodes clauses = (clauseParts clauses).flatMap nodes := by
  induction clauses with
  | nil => rfl
  | cons clause clauses ih =>
    rw [clauseNodes, ih]
    rfl

/-- **The nodes of an expression** are itself and then the nodes of its parts. -/
theorem nodes_eq_cons (expression : Expression) :
    expression.nodes = expression :: expression.parts.flatMap nodes := by
  cases expression with
  | literal | field => rfl
  | call function arguments type => rw [nodes, allNodes_eq_flatMap, parts]
  | cast input type => rw [nodes, parts, List.flatMap_singleton]
  | ifThen clauses otherwise type =>
    rw [nodes, clauseNodes_eq_flatMap, parts, List.flatMap_append, List.flatMap_singleton]

/-- Something holds at every node when it holds of the expression and at every node of its parts. -/
theorem forall_mem_nodes {property : Expression → Prop} {expression : Expression} :
    (∀ node ∈ expression.nodes, property node) ↔
      property expression ∧ ∀ part ∈ expression.parts, ∀ node ∈ part.nodes, property node := by
  rw [nodes_eq_cons, List.forall_mem_cons, List.forall_mem_flatMap]

end QueryPlan.Expression

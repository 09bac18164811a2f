import QueryPlan.Function.Catalog
import QueryPlan.Plan.Basic

/-! # Shorthand for plans
Plans over a catalog in which fields are named by their positions. Each shorthand resolves the
positions against the fields of the input and the functions against the catalog, and builds the node
like any other. -/

namespace QueryPlan

namespace Plan

/-- A scan of a table with the given column names and types. -/
def scanColumns (names columnNames : List String) (types : List DataType) :
    Except PlanError Plan := do
  let schema ← Schema.ofColumns columnNames types
  scanTable names schema

/-- The fields of a plan at the given positions. -/
def fieldsAt (input : Plan) : List Nat → Except PlanError (List Expression)
  | [] => .ok []
  | offset :: offsets => do
    let field ← Expression.resolve input.fields offset
    return field :: (← input.fieldsAt offsets)

/-- The rows of a plan that satisfy a condition. -/
def filterBy (condition : Expression) (input : Plan) : Except PlanError Plan :=
  apply (.filter condition) input

/-- The rows of a plan with expressions added. -/
def projectTo (expressions : List Expression) (input : Plan) : Except PlanError Plan :=
  apply (.project expressions) input

/-- The first rows of a plan. -/
def limit (count : Int) (input : Plan) : Except PlanError Plan :=
  apply (.fetch 0 (some count)) input

end Plan

namespace Catalog

/-- A measure of the fields at the given positions. -/
def measure (catalog : Catalog) (input : Plan) (name : String) (offsets : List Nat) :
    Except PlanError Measure := do
  let arguments ← input.fieldsAt offsets
  return ⟨← catalog.aggregate name arguments, none⟩

/-- The groupings of the fields at the given positions. -/
def groupings (input : Plan) : List (List Nat) → Except PlanError (List Grouping)
  | [] => .ok []
  | offsets :: rest => do
    let grouping ← input.fieldsAt offsets
    return grouping :: (← groupings input rest)

/-- The measures of the given names over the fields at the given positions. -/
def measures (catalog : Catalog) (input : Plan) :
    List (String × List Nat) → Except PlanError (List Measure)
  | [] => .ok []
  | (name, offsets) :: rest => do
    let first ← catalog.measure input name offsets
    return first :: (← catalog.measures input rest)

/-- The aggregate of a plan by the fields at the given positions. -/
def aggregateBy (catalog : Catalog) (groupingOffsets : List (List Nat))
    (measureOffsets : List (String × List Nat)) (input : Plan) : Except PlanError Plan := do
  let groupings ← groupings input groupingOffsets
  let measures ← catalog.measures input measureOffsets
  Plan.apply (.aggregate groupings measures) input

end Catalog

end QueryPlan

import QueryPlan.Text.Blank
import QueryPlan.Text.Lowercase
import QueryPlan.PlanError

/-! # Table schemas
A schema gives the columns of a table: a name and a type for each, in order. A name may not be blank,
but two columns may have the same name; a column is looked up by its name in either case, and the
first one wins. -/

namespace QueryPlan

/-- A **schema**: column names with as many types. -/
structure Schema where
  /-- The names of the columns. -/
  names : List String
  /-- The types of the columns. -/
  types : List DataType
  deriving DecidableEq, Inhabited

namespace Schema

/-- Whether a name is blank. -/
def isBlankName (name : String) : Bool := (Text.trim name.toList).isEmpty

/-- A schema of names and types, which have to be equally many, the names not blank. -/
def ofColumns (names : List String) (types : List DataType) : Except PlanError Schema :=
  if names.length = types.length then
    match names.findIdx? isBlankName with
    | some column => .error (.invalidSchema (.blankName column))
    | none => .ok ⟨names, types⟩
  else .error (.invalidSchema (.count names.length types.length))

/-- The number of columns. -/
def size (schema : Schema) : Nat := schema.names.length

/-- Whether there are no columns. -/
def isEmpty (schema : Schema) : Bool := schema.names.isEmpty

/-- The type of a row. -/
def rowType (schema : Schema) : DataType := .struct schema.types .required

/-- The position of the first column with a name, in either case. -/
def indexOf? (schema : Schema) (name : String) : Option Nat :=
  schema.names.findIdx? fun column => Text.lowercaseName column = Text.lowercaseName name

/-- The type of the first column with a name, in either case. -/
def type? (schema : Schema) (name : String) : Option DataType :=
  (schema.indexOf? name).bind fun index => schema.types[index]?

end Schema

end QueryPlan

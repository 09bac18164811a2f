import QueryPlan.Text.Lowercase
import QueryPlan.Function.Signature

/-! # Function catalogs
A catalog holds the overloads of many functions, grouped by the lowercase of their names; inside a
group they keep the order in which they were declared. A call is resolved to the first overload of its
name and kind that accepts the arguments. -/

namespace QueryPlan

/-- A **catalog**: groups of overloads, each under a lowercase name of its own. -/
structure Catalog where
  /-- The groups, in the order in which their names were first declared. -/
  groups : List (String × List Signature)

namespace Catalog

/-- The catalog without functions. -/
def empty : Catalog := ⟨[]⟩

/-- Puts an overload at the end of the group of a name, or of a new group. -/
def addTo (name : String) (signature : Signature) :
    List (String × List Signature) → List (String × List Signature)
  | [] => [(name, [signature])]
  | (other, overloads) :: groups =>
    if other = name then (other, overloads ++ [signature]) :: groups
    else (other, overloads) :: addTo name signature groups

/-- The catalog with one more overload. -/
def add (catalog : Catalog) (signature : Signature) : Catalog :=
  ⟨addTo (Text.lowercaseName signature.name) signature catalog.groups⟩

/-- The catalog of a list of declarations. -/
def ofList (signatures : List Signature) : Catalog := signatures.foldl add empty

/-- The number of overloads. -/
def size (catalog : Catalog) : Nat := (catalog.groups.flatMap fun group => group.2).length

/-- Whether there are no functions. -/
def isEmpty (catalog : Catalog) : Bool := catalog.groups.isEmpty

/-- The overloads of a name, in either case. -/
def overloads (catalog : Catalog) (name : String) : List Signature :=
  (catalog.groups.lookup (Text.lowercaseName name)).getD []

/-- The name that a key starts with. -/
def nameOfKey (key : String) : String := String.ofList (key.toList.takeWhile (· ≠ ':'))

/-- The overload with a key. -/
def get? (catalog : Catalog) (key : String) : Option Signature :=
  (catalog.overloads (nameOfKey key)).find? fun signature => signature.key = key

/-- The first overload of a name and kind that accepts arguments of the given types. -/
def resolve (catalog : Catalog) (kind : FunctionKind) (name : String) (arguments : List DataType) :
    Except PlanError Signature :=
  let found := (catalog.overloads name).find? fun signature =>
    signature.kind = kind && signature.accepts arguments
  match found with
  | some signature => .ok signature
  | none => .error (.noMatchingFunction kind name arguments)

/-- The overload that a call resolves to, with the type of its result. -/
def resolveCall (catalog : Catalog) (kind : FunctionKind) (name : String)
    (arguments : List DataType) : Except PlanError (FunctionReference × DataType) := do
  let signature ← catalog.resolve kind name arguments
  return (signature.reference, ← signature.outputType arguments)

/-- A call of a scalar function. -/
def scalar (catalog : Catalog) (name : String) (arguments : List Expression) :
    Except PlanError Expression := do
  let (function, type) ← catalog.resolveCall .scalar name (arguments.map Expression.type)
  return .call function arguments type

/-- A call of an aggregate function. -/
def aggregate (catalog : Catalog) (name : String) (arguments : List Expression) :
    Except PlanError AggregateCall := do
  let (function, type) ← catalog.resolveCall .aggregate name (arguments.map Expression.type)
  return { function, arguments, type }

end Catalog

end QueryPlan

import QueryPlan.Function.Catalog

/-! # The standard catalog
The built-in functions: arithmetic within each numeric type, comparisons of two types of one shape,
logic, a few functions of character strings, and the usual aggregates. -/

namespace QueryPlan.Catalog

/-- The integer types. -/
def integerKinds : List PlainKind := [.i8, .i16, .i32, .i64]

/-- The floating point types. -/
def floatKinds : List PlainKind := [.fp32, .fp64]

/-- The numeric types. -/
def numericKinds : List PlainKind := integerKinds ++ floatKinds

/-- The template of a required type of a plain kind. -/
def exactly (kind : PlainKind) : Template := .concrete (.plain kind)

/-- The template of any character string of variable length. -/
def anyVarChar : Template := .sized .varChar "L1" .required

/-- The template of any character string of fixed length. -/
def anyFixedChar : Template := .sized .fixedChar "L1" .required

/-- A scalar function. -/
def scalarSignature (name : String) (parameters : List Template) (returns : ReturnRule) : Signature :=
  { name, kind := .scalar, parameters, returns }

/-- An aggregate function of a declared result type. -/
def aggregateSignature (name : String) (parameters : List Template) (type : DataType) : Signature :=
  { name, kind := .aggregate, parameters, returns := .fixed type, nullability := .asDeclared }

/-- Arithmetic within each numeric type. -/
def arithmetic : List Signature :=
  numericKinds.flatMap fun kind =>
    ["add", "subtract", "multiply", "divide"].map fun name =>
      scalarSignature name [exactly kind, exactly kind] (.argument 0)

/-- Comparisons of two values of one shape. -/
def comparisons : List Signature :=
  ["equal", "not_equal", "lt", "lte", "gt", "gte"].map fun name =>
    scalarSignature name [.placeholder "any1", .placeholder "any1"] (.fixed (.plain .boolean))

/-- Logic, and the test for null, whose result is never null. -/
def logic : List Signature :=
  [scalarSignature "and" [exactly .boolean, exactly .boolean] (.fixed (.plain .boolean)),
   scalarSignature "or" [exactly .boolean, exactly .boolean] (.fixed (.plain .boolean)),
   scalarSignature "not" [exactly .boolean] (.fixed (.plain .boolean)),
   { scalarSignature "is_null" [.placeholder "any1"] (.fixed (.plain .boolean)) with
      nullability := .asDeclared }]

/-- Functions of character strings. Trimming drops the padding of a fixed length, so its result is of
variable length. -/
def characterFunctions : List Signature :=
  ["upper", "lower"].flatMap (fun name =>
    [scalarSignature name [anyVarChar] (.argument 0),
     scalarSignature name [exactly .string] (.argument 0)]) ++
  [scalarSignature "rtrim" [anyFixedChar] (.derived 0 anyVarChar),
   scalarSignature "concat" [.placeholder "any1", .placeholder "any2"] (.fixed (.plain .string))]

/-- Aggregates of a numeric type. The result over no rows is null, except for the sum that starts at
zero. -/
def numericAggregates (kind : PlainKind) : List Signature :=
  let total : DataType := .plain (if kind ∈ floatKinds then .fp64 else .i64)
  ["min", "max", "avg"].map (fun name =>
    aggregateSignature name [exactly kind] (DataType.plain kind).asNullable) ++
  [aggregateSignature "sum" [exactly kind] total.asNullable,
   aggregateSignature "sum0" [exactly kind] total]

/-- The number of rows in which a value is present, and the number of rows. -/
def counts : List Signature :=
  [aggregateSignature "count" [.placeholder "any1"] (.plain .i64),
   aggregateSignature "count" [] (.plain .i64)]

/-- The declarations of the standard catalog. -/
def standardSignatures : List Signature :=
  arithmetic ++ comparisons ++ logic ++ characterFunctions ++
    numericKinds.flatMap numericAggregates ++ counts

/-- The standard catalog. -/
def standard : Catalog := ofList standardSignatures

end QueryPlan.Catalog

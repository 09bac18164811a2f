import QueryPlan.Plan.Basic
import QueryPlan.Wire.Names
import QueryPlan.Wire.Value

/-! # Writing wire values
The wire form of every part of a plan. Types and templates are written as their canonical texts,
members of enumerated types as their names, records as objects, and a choice between forms as an
object with the name of the form for its only member. A floating point number that is not finite has
no wire form of its own and is written as null. -/

namespace QueryPlan

open Wire (Value)

/-- The wire form of a type. -/
def DataType.toWire (type : DataType) : Value := .string type.text

/-- The wire form of a template. -/
def Template.toWire (template : Template) : Value := .string template.text

/-- The wire form of a nullability. -/
def Nullability.toWire (null : Nullability) : Value := .string null.wireName

/-- A choice of a form with its content. -/
def Wire.Value.choice (form : String) (content : Value) : Value := .object [(form, content)]

/-- The wire form of an optional part. -/
def Wire.Value.optional (encode : α → Value) : Option α → Value
  | some content => encode content
  | none => .null

/-- The wire form of a list of texts. -/
def Wire.Value.strings (texts : List String) : Value := .array (texts.map Value.string)

/-- The wire form of a literal value. -/
def LiteralValue.toWire : LiteralValue → Value
  | boolean value => .choice "Boolean" (.boolean value)
  | i8 value => .choice "I8" (.integer value.toInt)
  | i16 value => .choice "I16" (.integer value.toInt)
  | i32 value => .choice "I32" (.integer value.toInt)
  | i64 value => .choice "I64" (.integer value.toInt)
  | fp32 bits =>
    .choice "Fp32" (if Decimal.single.isFinite bits.toNat then .single bits else .null)
  | fp64 bits =>
    .choice "Fp64" (if Decimal.double.isFinite bits.toNat then .double bits else .null)
  | string value => .choice "String" (.string value)
  | fixedChar value => .choice "FixedChar" (.string value)
  | varChar value => .choice "VarChar" (.string value)
  | date days => .choice "Date" (.integer days.toInt)
  | null => .string "Null"

/-- The wire form of a literal. -/
def Literal.toWire (literal : Literal) : Value :=
  .object [("value", literal.value.toWire), ("type", literal.type.toWire)]

/-- The wire form of a field reference. -/
def FieldReference.toWire (reference : FieldReference) : Value :=
  .object [("offset", .integer reference.offset), ("type", reference.type.toWire)]

/-- The wire form of a function reference. -/
def FunctionReference.toWire (reference : FunctionReference) : Value :=
  .object [("name", .string reference.name), ("key", .string reference.key)]

namespace Expression

mutual

/-- The wire form of an expression. -/
def toWire : Expression → Value
  | literal constant => .choice "Literal" constant.toWire
  | field reference => .choice "FieldReference" reference.toWire
  | call function arguments type =>
    .choice "ScalarFunction"
      (.object [("function", function.toWire), ("arguments", .array (toWires arguments)),
        ("output_type", type.toWire)])
  | cast input type => .choice "Cast" (.object [("input", toWire input), ("type", type.toWire)])
  | ifThen clauses otherwise type =>
    .choice "IfThen"
      (.object [("clauses", .array (clausesToWire clauses)), ("otherwise", toWire otherwise),
        ("type", type.toWire)])

/-- The wire forms of a list of expressions. -/
def toWires : List Expression → List Value
  | [] => []
  | expression :: expressions => toWire expression :: toWires expressions

/-- The wire forms of a list of clauses. -/
def clausesToWire : List (Expression × Expression) → List Value
  | [] => []
  | (condition, result) :: clauses =>
    .object [("condition", toWire condition), ("then", toWire result)] :: clausesToWire clauses

end

end Expression

/-- The wire form of a call of an aggregate function. -/
def AggregateCall.toWire (call : AggregateCall) : Value :=
  .object [("function", call.function.toWire),
    ("arguments", .array (Expression.toWires call.arguments)),
    ("output_type", call.type.toWire), ("phase", .string call.phase.wireName),
    ("invocation", .string call.scope.wireName)]

/-- The wire form of a measure. -/
def Measure.toWire (measure : Measure) : Value :=
  .object [("function", measure.call.toWire),
    ("pre_measure_filter", .optional Expression.toWire measure.filter)]

/-- The wire form of a grouping. -/
def Grouping.toWire (grouping : Grouping) : Value :=
  .object [("expressions", .array (Expression.toWires grouping))]

/-- The wire form of a sort key. -/
def SortKey.toWire (key : SortKey) : Value :=
  .object [("expression", key.expression.toWire), ("direction", .string key.direction.wireName)]

/-- The wire form of a column with its type. -/
def Schema.columnToWire (name : String) (type : DataType) : Value :=
  .object [("name", .string name), ("type", type.toWire)]

/-- The wire form of a schema. -/
def Schema.toWire (schema : Schema) : Value :=
  .object [("names", .strings schema.names), ("struct_type", schema.rowType.toWire)]

/-- The wire form of a return rule. -/
def ReturnRule.toWire : ReturnRule → Value
  | fixed type => .choice "fixed" type.toWire
  | argument index => .choice "argument" (.integer index)
  | derived index target =>
    .choice "derived" (.object [("argument", .integer index), ("template", target.toWire)])

/-- The wire form of a signature. -/
def Signature.toWire (signature : Signature) : Value :=
  .object [("name", .string signature.name), ("kind", .string signature.kind.name),
    ("args", .array (signature.parameters.map Template.toWire)),
    ("return_type", signature.returns.toWire),
    ("nullability", .string signature.nullability.wireName)]

/-- What an operator of one input writes beside its input and the type of its rows. -/
def UnaryOperator.wireMembers : UnaryOperator → List (String × Value)
  | filter condition => [("condition", condition.toWire)]
  | project expressions => [("expressions", .array (Expression.toWires expressions))]
  | sort keys => [("sorts", .array (keys.map SortKey.toWire))]
  | fetch offset count =>
    [("offset", .integer offset), ("count", .optional Value.integer count)]
  | aggregate groupings measures =>
    [("groupings", .array (groupings.map Grouping.toWire)),
     ("measures", .array (measures.map Measure.toWire))]

/-- What an operator of two inputs writes beside its inputs and the type of its rows. -/
def BinaryOperator.wireMembers : BinaryOperator → List (String × Value)
  | cross => []
  | join type condition postFilter =>
    [("join_type", .string type.wireName), ("condition", condition.toWire),
     ("post_join_filter", .optional Expression.toWire postFilter)]

namespace Plan

/-- A node on the wire: its name, its members and the type of its rows. -/
def nodeToWire (kind : NodeKind) (members : List (String × Value)) (fields : List DataType) : Value :=
  .choice kind.name
    (.object (members ++ [("record_type", (DataType.struct fields .required).toWire)]))

mutual

/-- The wire form of a plan. -/
def toWire : Plan → Value
  | scan names schema fields =>
    nodeToWire .namedScan [("names", .strings names), ("schema", schema.toWire)] fields
  | unary operator input fields =>
    nodeToWire operator.kind (("input", toWire input) :: operator.wireMembers) fields
  | binary operator left right fields =>
    nodeToWire operator.kind
      (("left", toWire left) :: ("right", toWire right) :: operator.wireMembers) fields
  | set operation inputs fields =>
    nodeToWire .set [("inputs", .array (toWires inputs)), ("op", .string operation.wireName)] fields

/-- The wire forms of a list of plans. -/
def toWires : List Plan → List Value
  | [] => []
  | plan :: plans => toWire plan :: toWires plans

end

end Plan

end QueryPlan

import QueryPlan.Decimal.Shortest

/-! # Literal values
The constants that an expression may hold. Whole numbers have the width of their type, floating point
numbers are kept as bits, so that two of them are equal exactly when their bits are, and the three
kinds of character strings stay apart. -/

namespace QueryPlan

/-- A **literal value**. -/
inductive LiteralValue
  /-- A truth value. -/
  | boolean (value : Bool)
  /-- An integer of 8 bits. -/
  | i8 (value : Int8)
  /-- An integer of 16 bits. -/
  | i16 (value : Int16)
  /-- An integer of 32 bits. -/
  | i32 (value : Int32)
  /-- An integer of 64 bits. -/
  | i64 (value : Int64)
  /-- The bits of a floating point number of 32 bits. -/
  | fp32 (bits : UInt32)
  /-- The bits of a floating point number of 64 bits. -/
  | fp64 (bits : UInt64)
  /-- A character string of any length. -/
  | string (value : String)
  /-- A character string of the length of its type. -/
  | fixedChar (value : String)
  /-- A character string within the length of its type. -/
  | varChar (value : String)
  /-- A date, in days since the first of January 1970. -/
  | date (days : Int32)
  /-- The absent value. -/
  | null
  deriving DecidableEq, Inhabited

namespace LiteralValue

/-- A quote inside quoted text is written twice. -/
def doubleQuotes : List Char → List Char
  | [] => []
  | '\'' :: rest => '\'' :: '\'' :: doubleQuotes rest
  | c :: rest => c :: doubleQuotes rest

/-- A character string in single quotes. -/
def quote (value : String) : String :=
  String.ofList ('\'' :: (doubleQuotes value.toList ++ ['\'']))

/-- The text of a literal value. -/
def text : LiteralValue → String
  | boolean value => if value then "true" else "false"
  | i8 value => toString value.toInt
  | i16 value => toString value.toInt
  | i32 value => toString value.toInt
  | i64 value => toString value.toInt
  | fp32 bits => Decimal.single.text bits.toNat
  | fp64 bits => Decimal.double.text bits.toNat
  | string value | fixedChar value | varChar value => quote value
  | date days => s!"date({days.toInt})"
  | null => "null"

end LiteralValue

end QueryPlan

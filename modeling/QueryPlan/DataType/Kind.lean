/-! # Kinds of types
The kinds of data types by the parameters they take: `PlainKind` takes none, `LengthKind` a length and
`PrecisionKind` a number of fractional-second digits. Each kind has a keyword, under which it is
written in a type text, and a short name, which appears in the keys of functions. `Family` gathers
every kind of type with its parameters left out. -/

namespace QueryPlan

/-- The kinds of types without parameters. -/
inductive PlainKind
  /-- Truth values. -/
  | boolean
  /-- Signed integers of 8 bits. -/
  | i8
  /-- Signed integers of 16 bits. -/
  | i16
  /-- Signed integers of 32 bits. -/
  | i32
  /-- Signed integers of 64 bits. -/
  | i64
  /-- Binary floating point numbers of 32 bits. -/
  | fp32
  /-- Binary floating point numbers of 64 bits. -/
  | fp64
  /-- Character strings of any length. -/
  | string
  /-- Byte strings of any length. -/
  | binary
  /-- Calendar dates. -/
  | date
  /-- Times of day. -/
  | time
  /-- Intervals in years and months. -/
  | intervalYear
  /-- Universally unique identifiers. -/
  | uuid
  deriving DecidableEq

/-- The kinds of types that take a length. -/
inductive LengthKind
  /-- Character strings of exactly the length. -/
  | fixedChar
  /-- Character strings of at most the length. -/
  | varChar
  /-- Byte strings of exactly the length. -/
  | fixedBinary
  deriving DecidableEq

/-- The kinds of types that take a number of fractional-second digits. -/
inductive PrecisionKind
  /-- Points in time without a time zone. -/
  | timestamp
  /-- Points in time with a time zone. -/
  | timestampTz
  /-- Intervals in days and seconds. -/
  | intervalDay
  /-- Intervals with a year-month and a day-second part. -/
  | intervalCompound
  deriving DecidableEq

namespace PlainKind

/-- Every plain kind. -/
def all : List PlainKind :=
  [boolean, i8, i16, i32, i64, fp32, fp64, string, binary, date, time, intervalYear, uuid]

/-- The keyword of a plain kind. -/
def keyword : PlainKind → String
  | boolean => "boolean"
  | i8 => "i8"
  | i16 => "i16"
  | i32 => "i32"
  | i64 => "i64"
  | fp32 => "fp32"
  | fp64 => "fp64"
  | string => "string"
  | binary => "binary"
  | date => "date"
  | time => "time"
  | intervalYear => "interval_year"
  | uuid => "uuid"

/-- The short name of a plain kind. -/
def shortName : PlainKind → String
  | boolean => "bool"
  | string => "str"
  | binary => "vbin"
  | intervalYear => "iyear"
  | kind => kind.keyword

end PlainKind

namespace LengthKind

/-- Every kind with a length. -/
def all : List LengthKind := [fixedChar, varChar, fixedBinary]

/-- The keyword of a kind with a length. -/
def keyword : LengthKind → String
  | fixedChar => "fixedchar"
  | varChar => "varchar"
  | fixedBinary => "fixedbinary"

/-- The short name of a kind with a length. -/
def shortName : LengthKind → String
  | fixedChar => "fchar"
  | varChar => "vchar"
  | fixedBinary => "fbin"

/-- Whether the values are character strings. -/
def isCharacter : LengthKind → Bool
  | fixedChar | varChar => true
  | fixedBinary => false

end LengthKind

namespace PrecisionKind

/-- Every kind with a precision. -/
def all : List PrecisionKind := [timestamp, timestampTz, intervalDay, intervalCompound]

/-- The keyword of a kind with a precision. -/
def keyword : PrecisionKind → String
  | timestamp => "precision_timestamp"
  | timestampTz => "precision_timestamp_tz"
  | intervalDay => "interval_day"
  | intervalCompound => "interval_compound"

/-- The short name of a kind with a precision. -/
def shortName : PrecisionKind → String
  | timestamp => "pts"
  | timestampTz => "ptstz"
  | intervalDay => "iday"
  | intervalCompound => "icompound"

/-- The largest number of fractional-second digits. -/
def maxPrecision : PrecisionKind → UInt8
  | timestamp | timestampTz => 12
  | intervalDay | intervalCompound => 9

end PrecisionKind

/-- The **family** of a type is its kind without parameters and without nullability. -/
inductive Family
  /-- A kind without parameters. -/
  | plain (kind : PlainKind)
  /-- A kind with a length. -/
  | sized (kind : LengthKind)
  /-- A kind with a precision. -/
  | precise (kind : PrecisionKind)
  /-- Exact decimal numbers. -/
  | decimal
  /-- Types known by name only. -/
  | userDefined
  /-- Sequences of fields, each of its own type. -/
  | struct
  /-- Sequences of elements of one type. -/
  | list
  /-- Mappings from keys of one type to values of one type. -/
  | map
  deriving DecidableEq

namespace Family

/-- Every family, in the order of the reference list. -/
def all : List Family :=
  [plain .boolean, plain .i8, plain .i16, plain .i32, plain .i64, plain .fp32, plain .fp64,
   plain .string, plain .binary, sized .fixedChar, sized .varChar, sized .fixedBinary,
   plain .date, plain .time, precise .timestamp, precise .timestampTz, plain .intervalYear,
   precise .intervalDay, precise .intervalCompound, decimal, plain .uuid, userDefined,
   struct, list, map]

/-- The short name of a family, as it appears in the keys of functions. -/
def shortName : Family → String
  | plain kind => kind.shortName
  | sized kind => kind.shortName
  | precise kind => kind.shortName
  | decimal => "dec"
  | userDefined => "u"
  | struct => "struct"
  | list => "list"
  | map => "map"

/-- Whether the values are character strings. -/
def isCharacter : Family → Bool
  | plain .string => true
  | sized kind => kind.isCharacter
  | _ => false

/-- The position of a family in the reference list. -/
def position (family : Family) : Nat := all.idxOf family

/-- The reference list leaves no family out. -/
theorem mem_all (family : Family) : family ∈ all := by
  rcases family with kind | kind | kind | _ | _ | _ | _ | _ <;> (try cases kind) <;> decide

end Family

end QueryPlan

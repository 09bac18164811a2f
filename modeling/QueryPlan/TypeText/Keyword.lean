import QueryPlan.Text.Lowercase
import QueryPlan.Text.Numeral
import QueryPlan.DataType.Bounds
import QueryPlan.DataType.Printer

/-! # Keywords of type texts
What each keyword announces: an atom, with the parameters it takes, or a struct, a list or a map.
Keywords are looked up in lowercase. A timestamp may be written by two keywords: one that takes the
precision and one that stands for the default precision. -/

namespace QueryPlan

/-- The form of an atom: which parameters follow its keyword. -/
inductive AtomForm
  /-- The keyword alone. -/
  | fixed (kind : Atom)
  /-- A length. -/
  | sized (kind : LengthKind)
  /-- A precision. -/
  | precise (kind : PrecisionKind)
  /-- A precision and a scale. -/
  | decimal
  deriving DecidableEq

/-- What a keyword announces. -/
inductive Keyword
  /-- An atom of a form. -/
  | atom (form : AtomForm)
  /-- A struct of the types that follow. -/
  | struct
  /-- A list of the type that follows. -/
  | list
  /-- A map from the first to the second of the types that follow. -/
  | map
  deriving DecidableEq

/-- The number of parameters of an atom. -/
def AtomForm.arity : AtomForm → Nat
  | fixed _ => 0
  | sized _ | precise _ => 1
  | decimal => 2

namespace Keyword

/-- Every keyword with what it announces. -/
def table : List (String × Keyword) :=
  PlainKind.all.map (fun kind => (kind.keyword, atom (.fixed (.plain kind)))) ++
  [("bool", atom (.fixed (.plain .boolean))),
   ("timestamp", atom (.fixed (.precise .timestamp defaultTimestampPrecision))),
   ("timestamp_tz", atom (.fixed (.precise .timestampTz defaultTimestampPrecision)))] ++
  LengthKind.all.map (fun kind => (kind.keyword, atom (.sized kind))) ++
  PrecisionKind.all.map (fun kind => (kind.keyword, atom (.precise kind))) ++
  [("decimal", atom .decimal), ("struct", struct), ("list", list), ("map", map)]

/-- What a lowercase word announces, if it is a keyword. -/
def find? (word : List Char) : Option Keyword := table.lookup (String.ofList word)

@[simp] theorem find?_plain (kind : PlainKind) :
    find? kind.keyword.toList = some (atom (.fixed (.plain kind))) := by
  cases kind <;> decide

@[simp] theorem find?_sized (kind : LengthKind) :
    find? kind.keyword.toList = some (atom (.sized kind)) := by
  cases kind <;> decide

@[simp] theorem find?_precise (kind : PrecisionKind) :
    find? kind.keyword.toList = some (atom (.precise kind)) := by
  cases kind <;> decide

end Keyword

/-- The name behind the mark of a type known by name only. -/
def userDefinedName? : List Char → Option (List Char)
  | 'u' :: '!' :: name => some name
  | _ => none

namespace AtomForm

/-- Reads a parameter that has to be a whole number. -/
def readNumber (read? : List Char → Option α) (text parameter : List Char) : Except TypeError α :=
  match read? parameter with
  | some value => .ok value
  | none => .error (.unreadable (String.ofList text) (.notInteger (String.ofList parameter)))

/-- Reads the parameters behind the keyword `word` of `text` into an atom, whose bounds are left to be
checked. -/
def readAtom (text word : List Char) : AtomForm → List (List Char) → Except TypeError Atom
  | fixed kind, [] => .ok kind
  | sized kind, [length] => do
    return .sized kind (← readNumber Text.readLength? text length)
  | precise kind, [precision] => do
    return .precise kind (← readNumber Text.readPrecision? text precision)
  | decimal, [precision, scale] => do
    let precision ← readNumber Text.readPrecision? text precision
    return .decimal precision (← readNumber Text.readPrecision? text scale)
  | form, parameters =>
    .error (.unreadable (String.ofList text)
      (.parameterCount (String.ofList word) form.arity parameters.length))

end AtomForm

end QueryPlan

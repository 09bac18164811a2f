import QueryPlan.DataType.Basic

/-! # Written types
The canonical text of a type: the keyword of its kind in lowercase, the parameters in angle brackets
with commas between them and no blanks, and a question mark behind a nullable type. -/

namespace QueryPlan

/-- A keyword with its parameters in angle brackets. -/
def bracketed (keyword : String) (parameters : List String) : String :=
  keyword ++ "<" ++ ",".intercalate parameters ++ ">"

/-- The mark in front of the name of a type known by name only. -/
def userDefinedMark : String := "u!"

/-- The text of an atom. -/
def Atom.text : Atom → String
  | plain kind => kind.keyword
  | sized kind length => bracketed kind.keyword [toString length]
  | precise kind precision => bracketed kind.keyword [toString precision]
  | decimal precision scale => bracketed "decimal" [toString precision, toString scale]
  | userDefined name => userDefinedMark ++ name

namespace DataType

mutual

/-- The canonical text of a type. -/
def text : DataType → String
  | atom kind null => kind.text ++ null.mark
  | struct fields null => bracketed "struct" (texts fields) ++ null.mark
  | list element null => bracketed "list" [text element] ++ null.mark
  | map key value null => bracketed "map" [text key, text value] ++ null.mark

/-- The canonical texts of a list of types. -/
def texts : List DataType → List String
  | [] => []
  | type :: types => text type :: texts types

end

/-- The texts of a list are the texts of its members. -/
theorem texts_eq_map (types : List DataType) : texts types = types.map text := by
  induction types with
  | nil => rfl
  | cons type types ih => simp [texts, ih]

end DataType

end QueryPlan

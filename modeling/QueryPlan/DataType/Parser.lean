import QueryPlan.TypeText.Outline
import QueryPlan.TypeText.Keyword

/-! # Reading types
`DataType.parse` reads a type text in any spelling: keywords in either case, blanks around every part,
and numbers with leading zeros. `DataType.ofOutline` reads the outline of such a text, level by
level; the text of the level at fault is named in the error. -/

namespace QueryPlan.DataType

/-- The error of a level that has another number of parameters than its keyword takes. -/
def wrongCount (text word : List Char) (expected : Nat) (parameters : List Outline) : TypeError :=
  .unreadable (String.ofList text)
    (.parameterCount (String.ofList word) expected parameters.length)

mutual

/-- Reads the outline of a type text. -/
def ofOutline : Outline → Except TypeError DataType
  | .malformed text fault => .error (.unreadable (String.ofList text) fault)
  | .node text written null _ parameters =>
    let word := Text.lowercase written
    match userDefinedName? written with
    | some name =>
      if parameters.isEmpty then ofAtom (.userDefined (String.ofList name)) null
      else .error (wrongCount text word 0 parameters)
    | none =>
      match Keyword.find? word with
      | none => .error (.unreadable (String.ofList text) (.unknownKeyword (String.ofList word)))
      | some (.atom form) => do
        let kind ← form.readAtom text word (parameters.map Outline.text)
        ofAtom kind null
      | some .struct => do
        return struct (← ofOutlines parameters) null
      | some .list =>
        match parameters with
        | [element] => do return list (← ofOutline element) null
        | _ => .error (wrongCount text word 1 parameters)
      | some .map =>
        match parameters with
        | [key, value] => do
          let key ← ofOutline key
          return map key (← ofOutline value) null
        | _ => .error (wrongCount text word 2 parameters)

/-- Reads the outlines of a list of type texts, up to the first that is at fault. -/
def ofOutlines : List Outline → Except TypeError (List DataType)
  | [] => .ok []
  | outline :: outlines => do
    let type ← ofOutline outline
    return type :: (← ofOutlines outlines)

end

/-- Reads a type text. -/
def parse (text : String) : Except TypeError DataType := ofOutline (Outline.ofText text.toList)

end QueryPlan.DataType

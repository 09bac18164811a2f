import QueryPlan.DataType.Parser
import QueryPlan.Template.Basic

/-! # Reading templates
A template text is a type text in which a number may be replaced by any text and a type by an
identifier that is no keyword. Where every part is bound the text is read as a type, with all the
checks of types; a text that is no type and no identifier is refused with the fault of reading it as
a type. -/

namespace QueryPlan.Template

/-- Whether a character may stand in an identifier. -/
def isIdentifierChar (c : Char) : Bool := c.isAlphanum || c == '_'

/-- Whether a text is an identifier: ASCII letters, digits and underscores, at least one. -/
def isIdentifier (text : List Char) : Bool := !text.isEmpty && text.all isIdentifierChar

/-- Whether some parameter of an atom is not a whole number and thus left open. -/
def isOpen (parameters : List Outline) : Bool :=
  parameters.any fun parameter => (Text.readLength? parameter.text).isNone

/-- The type of a template without open parts. -/
def ofType (type : Except TypeError DataType) : Except TypeError Template := type.map concrete

/-- A text that has to be a type, or else a placeholder: an identifier without brackets. -/
def ofTypeOrPlaceholder (outline : Outline) : Except TypeError Template :=
  match DataType.ofOutline outline, outline with
  | .ok type, _ => .ok (concrete type)
  | .error error, .node _ written _ false _ =>
    if isIdentifier written then .ok (placeholder (String.ofList written)) else .error error
  | .error error, _ => .error error

/-- Reads an atom with an open parameter, which keeps the texts of all its parameters. -/
def openAtom (outline : Outline) (text word : List Char) (null : Nullability) :
    AtomForm → List Outline → Except TypeError Template
  | .sized kind, [length] => .ok (sized kind (String.ofList length.text) null)
  | .precise kind, [precision] => .ok (precise kind (String.ofList precision.text) null)
  | .decimal, [precision, scale] =>
    .ok (decimal (String.ofList precision.text) (String.ofList scale.text) null)
  -- a keyword without parameters is refused with them, as a type is
  | .fixed _, _ => ofTypeOrPlaceholder outline
  | form, parameters => .error (DataType.wrongCount text word form.arity parameters)

mutual

/-- Reads the outline of a template text. -/
def ofOutline : Outline → Except TypeError Template
  | .malformed text fault => .error (.unreadable (String.ofList text) fault)
  | .node text written null hasBrackets parameters =>
    let outline := Outline.node text written null hasBrackets parameters
    let word := Text.lowercase written
    match Keyword.find? word with
    | some (.atom form) =>
      if isOpen parameters then openAtom outline text word null form parameters
      else ofTypeOrPlaceholder outline
    | some .struct => do
      let fields ← ofOutlines parameters
      -- a struct without open parts is a type
      if fields.all isConcrete then ofType (DataType.ofOutline outline)
      else return struct fields null
    | some .list => do
      let children ← ofOutlines parameters
      if children.all isConcrete then ofType (DataType.ofOutline outline)
      else match children with
        | [element] => return list element null
        | _ => .error (DataType.wrongCount text word 1 parameters)
    | some .map => do
      let children ← ofOutlines parameters
      if children.all isConcrete then ofType (DataType.ofOutline outline)
      else match children with
        | [key, value] => return map key value null
        | _ => .error (DataType.wrongCount text word 2 parameters)
    | none => ofTypeOrPlaceholder outline

/-- Reads the outlines of a list of template texts, up to the first that is at fault. -/
def ofOutlines : List Outline → Except TypeError (List Template)
  | [] => .ok []
  | outline :: outlines => do
    let template ← ofOutline outline
    return template :: (← ofOutlines outlines)

end

/-- Reads a template text. -/
def parse (text : String) : Except TypeError Template := ofOutline (Outline.ofText text.toList)

end QueryPlan.Template

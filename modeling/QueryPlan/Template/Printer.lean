import QueryPlan.DataType.Printer
import QueryPlan.Template.Basic

/-! # Written templates
The canonical text of a template: that of a type, with the texts of open numbers and the names of
placeholders in their places. -/

namespace QueryPlan.Template

mutual

/-- The canonical text of a template. -/
def text : Template → String
  | concrete type => type.text
  | sized kind length null => bracketed kind.keyword [length] ++ null.mark
  | precise kind precision null => bracketed kind.keyword [precision] ++ null.mark
  | decimal precision scale null => bracketed "decimal" [precision, scale] ++ null.mark
  | struct fields null => bracketed "struct" (texts fields) ++ null.mark
  | list element null => bracketed "list" [text element] ++ null.mark
  | map key value null => bracketed "map" [text key, text value] ++ null.mark
  | placeholder name => name

/-- The canonical texts of a list of templates. -/
def texts : List Template → List String
  | [] => []
  | template :: templates => text template :: texts templates

end

/-- The texts of a list are the texts of its members. -/
theorem texts_eq_map (templates : List Template) : texts templates = templates.map text := by
  induction templates with
  | nil => rfl
  | cons template templates ih => simp [texts, ih]

end QueryPlan.Template

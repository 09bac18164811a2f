import QueryPlan.DataType.Bounds
import QueryPlan.Template.Basic

/-! # Coercion onto templates
A source type is coerced onto a template when a value of the source can stand where the template asks
for a type. A concrete template takes the types of its own shape. The character templates take both
character types of bounded length, whose length is carried over, and a placeholder takes every
character type as a string. The result keeps the nullability of the source. `Family.targetForms`
announces the forms of the templates a family can be coerced onto. -/

namespace QueryPlan

/-- The result of a constructor that may refuse, refusals left aside. -/
def DataType.ofAtom? (kind : Atom) (null : Nullability) : Option DataType :=
  (DataType.ofAtom kind null).toOption

/-- Coerces a source type onto a template, if it fits. -/
def DataType.coerce? (source : DataType) (target : Template) : Option DataType :=
  match target, source with
  | .concrete type, _ => if SameShape source type then some source else none
  | .sized .fixedChar _ _, atom (.sized .fixedChar _) _ => some source
  | .sized .fixedChar _ _, atom (.sized .varChar length) null =>
    ofAtom? (.sized .fixedChar length) null
  | .sized .varChar _ _, atom (.sized .varChar _) _ => some source
  | .sized .varChar _ _, atom (.sized .fixedChar length) null =>
    ofAtom? (.sized .varChar length) null
  | .placeholder _, atom (.plain .string) _ => some source
  | .placeholder _, atom (.sized .fixedChar _) null => some (atom (.plain .string) null)
  | .placeholder _, atom (.sized .varChar _) null => some (atom (.plain .string) null)
  | _, _ => none

/-- The forms of the templates that a family can be coerced onto: its own types, and for the character
families the character templates and the placeholder. -/
def Family.targetForms (family : Family) : List Template.Form :=
  match family with
  | sized .fixedChar | sized .varChar =>
    [.concrete family, .sized .fixedChar, .sized .varChar, .placeholder]
  | plain .string => [.concrete family, .placeholder]
  | _ => [.concrete family]

end QueryPlan

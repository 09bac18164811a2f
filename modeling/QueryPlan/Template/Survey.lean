import QueryPlan.Template.Printer

/-! # Surveys of types and templates
A survey goes through a type or a template from the outside in and from left to right. The types it
meets are its **components**: character types of variable length, decimals, named types and the
composite types are told apart, all others are met as a whole. Each component has a weight; a survey
adds the weights up, and stops at the first component of a refused family. -/

namespace QueryPlan

/-- A **component** of a type or a template. -/
inductive Component
  /-- A character type of variable length. -/
  | varChar (length : UInt32) (nullability : Nullability)
  /-- A decimal type. -/
  | decimal (precision scale : UInt8)
  /-- A type known by name only. -/
  | userDefined (name : String)
  /-- A struct, whose fields follow. -/
  | struct (width : Nat)
  /-- A list, whose element type follows. -/
  | list
  /-- A map, whose key and value types follow. -/
  | map
  /-- Any other type. -/
  | type (type : DataType)
  /-- A character type of open length. -/
  | openVarChar (length : String)
  /-- A struct with open parts, whose fields follow. -/
  | openStruct (width : Nat)
  /-- A list with open parts, whose element type follows. -/
  | openList
  /-- An open type. -/
  | placeholder (name : String)
  /-- Any other template. -/
  | template (template : Template)

namespace Component

/-- The text of a component. -/
def text : Component → String
  | varChar length null => s!"var_char {length} {null.text}"
  | decimal precision scale => s!"decimal {precision} {scale}"
  | userDefined name => s!"user_defined {name}"
  | struct width => s!"struct {width}"
  | list => "list"
  | map => "map"
  | type found => s!"fallback {found.text}"
  | openVarChar length => s!"var_char_template {length}"
  | openStruct width => s!"struct_template {width}"
  | openList => "list_template"
  | placeholder name => s!"string_literal {name}"
  | template found => s!"template_fallback {found.text}"

/-- The weight of a component: nothing for a composite, one for a type, ten for a template and a hundred
for a placeholder. -/
def weight : Component → Nat
  | varChar .. | decimal .. | userDefined _ | type _ => 1
  | openVarChar _ | template _ => 10
  | placeholder _ => 100
  | struct _ | list | map | openStruct _ | openList => 0

/-- The complaint about a component of a refused family. -/
def refusal? (refused : Option String) : Component → Option String
  | userDefined name =>
    if refused = some "u" then some s!"user-defined type {name} not allowed" else none
  | type found =>
    if refused = some found.family.shortName then some s!"rejected {found.text}" else none
  | placeholder name =>
    if refused = some "any" then some s!"placeholder {name} not allowed" else none
  | _ => none

end Component

/-- What a survey has seen, and either the sum of the weights or a complaint. -/
structure Survey where
  /-- The components met, the refused one included. -/
  components : List Component
  /-- The sum of the weights, unless a component was refused. -/
  outcome : Except String Nat

/-- Goes through components with a running sum, up to the first one refused. -/
def Survey.run (refused : Option String) (sum : Nat) : List Component → Survey
  | [] => ⟨[], .ok sum⟩
  | component :: rest =>
    match component.refusal? refused with
    | some complaint => ⟨[component], .error complaint⟩
    | none =>
      let survey := run refused (sum + component.weight) rest
      ⟨component :: survey.components, survey.outcome⟩

namespace DataType

mutual

/-- The components of a type, from the outside in. -/
def components : DataType → List Component
  | atom (.sized .varChar length) null => [.varChar length null]
  | atom (.decimal precision scale) _ => [.decimal precision scale]
  | atom (.userDefined name) _ => [.userDefined name]
  | struct fields _ => .struct fields.length :: allComponents fields
  | list element _ => .list :: components element
  | map key value _ => .map :: (components key ++ components value)
  | type => [.type type]

/-- The components of a list of types. -/
def allComponents : List DataType → List Component
  | [] => []
  | type :: types => components type ++ allComponents types

end

/-- Surveys a type. -/
def survey (refused : Option String) (type : DataType) : Survey :=
  Survey.run refused 0 type.components

end DataType

namespace Template

mutual

/-- The components of a template, from the outside in; a map is met as a whole. -/
def components : Template → List Component
  | concrete type => type.components
  | sized .varChar length _ => [.openVarChar length]
  | struct fields _ => .openStruct fields.length :: allComponents fields
  | list element _ => .openList :: components element
  | placeholder name => [.placeholder name]
  | template => [.template template]

/-- The components of a list of templates. -/
def allComponents : List Template → List Component
  | [] => []
  | template :: templates => components template ++ allComponents templates

end

/-- Surveys a template. -/
def survey (refused : Option String) (template : Template) : Survey :=
  Survey.run refused 0 template.components

end Template

end QueryPlan

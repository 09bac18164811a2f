import QueryPlan.Proofs.Template.Reading

/-! # Types and templates off the same text
A text is read as a template without open parts exactly when it is read as a type, and then the template
is that type. What a type text cannot say is what makes a template: a template with an open part is only
read off a text that is refused as a type, and a struct, a list or a map is only read as a template when
one of its components has an open part (`Template.parse_agrees`). -/

namespace QueryPlan.Template

/-! ## Nodes -/

/-- A template is composed of one list of components only. -/
theorem Composed.unique {null other : Nullability} {keyword word : Keyword}
    {children others : List Template} {template : Template}
    (composed : Composed null keyword children template)
    (again : Composed other word others template) : children = others := by
  cases composed <;> cases again <;> rfl

mutual

/-- The **nodes** of a template: the template itself and the nodes of its components, from left to
right. A type without open parts is a node as a whole. -/
def nodes : Template → List Template
  | struct fields null => struct fields null :: allNodes fields
  | list element null => list element null :: nodes element
  | map key value null => map key value null :: (nodes key ++ nodes value)
  | template => [template]

/-- The nodes of a list of templates. -/
def allNodes : List Template → List Template
  | [] => []
  | template :: templates => nodes template ++ allNodes templates

end

/-- The nodes of a list of templates are the nodes of its members. -/
theorem allNodes_eq_flatMap_nodes (templates : List Template) :
    allNodes templates = templates.flatMap nodes := by
  induction templates with
  | nil => rfl
  | cons template templates ih => rw [allNodes, ih, List.flatMap_cons]

/-- The nodes of a composed template are the template and the nodes of its components. -/
theorem Composed.nodes_eq {null : Nullability} {keyword : Keyword} {children : List Template}
    {template : Template} (composed : Composed null keyword children template) :
    template.nodes = template :: children.flatMap nodes := by
  cases composed with
  | struct => rw [nodes, allNodes_eq_flatMap_nodes]
  | list element => rw [nodes, List.flatMap_singleton]
  | map key value => simp [nodes]

/-- A template that is not composed is its only node. -/
theorem nodes_eq_singleton {template : Template}
    (simple : ∀ null keyword children, ¬ Composed null keyword children template) :
    template.nodes = [template] := by
  cases template with
  | struct fields null => exact absurd (.struct fields) (simple null .struct fields)
  | list element null => exact absurd (.list element) (simple null .list [element])
  | map key value null => exact absurd (.map key value) (simple null .map [key, value])
  | concrete | sized | precise | decimal | placeholder => rfl

/-- An atom with an open part is not composed of others, nor is it a type without open parts. -/
theorem OpenAtom.simple {null : Nullability} {form : AtomForm} {texts : List (List Char)}
    {template : Template} (stands : OpenAtom null form texts template) :
    template.isConcrete = false ∧
      ∀ other keyword children, ¬ Composed other keyword children template := by
  cases stands <;> exact ⟨rfl, fun _ _ _ => nofun⟩

/-! ## Agreement -/

/-- A text that is read as a template without open parts is read as a type. -/
theorem ReadsText.to_type {text : List Char} {type : DataType}
    (read : ReadsText text (concrete type)) : DataType.ReadsText text type := by
  obtain ⟨parts, level, reads⟩ := read.exists_level
  cases reads with
  | concrete typeReads => exact typeReads.readsText level
  | openAtom found opens stands => cases stands.simple.1
  | composite found members opens composed => cases composed

/-- **Both readers agree** on the texts of types. -/
theorem readsText_concrete_iff {text : List Char} {type : DataType} :
    ReadsText text (concrete type) ↔ DataType.ReadsText text type :=
  ⟨fun read => read.to_type, fun read => .of_type read⟩

/-- A level that is read as a composed template has an open part in some component. -/
theorem ReadsLevel.members_of_composed {parts : Parts} {null : Nullability} {keyword : Keyword}
    {children : List Template} {template : Template} (reads : ReadsLevel parts template)
    (composed : Composed null keyword children template) :
    List.Forall₂ ReadsText parts.parameters children ∧ ∃ child ∈ children, child.isConcrete = false := by
  cases reads with
  | concrete typeReads => cases composed
  | openAtom found opens stands => exact absurd composed (stands.simple.2 null keyword children)
  | composite found members opens again =>
    obtain rfl := again.unique composed
    obtain ⟨child, member, opened⟩ := List.all_eq_false.1 opens
    exact ⟨members, child, member, Bool.not_eq_true _ ▸ opened⟩
  | placeholder => cases composed

/-- **Open parts all the way down**: every struct, list or map in a template that was read has a
component with an open part. -/
theorem ReadsText.exists_open_child {text : List Char} {template : Template}
    (read : ReadsText text template) :
    ∀ node ∈ template.nodes, ∀ null keyword children, Composed null keyword children node →
      ∃ child ∈ children, child.isConcrete = false := by
  induction text using Parts.text_induction generalizing template with
  | step text ih =>
    obtain ⟨parts, level, reads⟩ := read.exists_level
    intro node member
    by_cases composite : ∃ null keyword children, Composed null keyword children template
    · obtain ⟨null, keyword, children, composed⟩ := composite
      rw [composed.nodes_eq] at member
      obtain rfl | below := List.mem_cons.1 member
      · intro null keyword children again
        exact (reads.members_of_composed again).2
      · obtain ⟨child, among, inside⟩ := List.mem_flatMap.1 below
        obtain ⟨members, -⟩ := reads.members_of_composed composed
        obtain ⟨parameter, cut, readInside⟩ := exists_mem_of_forall₂ members among
        exact ih parts level parameter cut readInside node inside
    · have simple : ∀ null keyword children, ¬ Composed null keyword children template :=
        fun null keyword children composed => composite ⟨null, keyword, children, composed⟩
      rw [nodes_eq_singleton simple] at member
      obtain rfl := List.mem_singleton.1 member
      exact fun null keyword children composed => absurd composed (simple null keyword children)

/-- **Types and templates agree**: a text is read as the template of a type exactly when it is read as
the type; a template with an open part is read off texts only that are refused as types; and in a
template that is read, every struct, list or map has a component with an open part. -/
theorem parse_agrees :
    (∀ (text : String) (type : DataType),
      parse text = .ok (concrete type) ↔ DataType.parse text = .ok type) ∧
    (∀ (text : String) (template : Template), parse text = .ok template →
      template.isConcrete = false → ∃ error, DataType.parse text = .error error) ∧
    ∀ (text : String) (template : Template), parse text = .ok template →
      ∀ node ∈ template.nodes, ∀ null keyword children, Composed null keyword children node →
        ∃ child ∈ children, child.isConcrete = false := by
  have agrees : ∀ (text : String) (type : DataType),
      parse text = .ok (concrete type) ↔ DataType.parse text = .ok type :=
    fun text type => readsText_concrete_iff
  refine ⟨agrees, ?_, fun text template read => ReadsText.exists_open_child read⟩
  intro text template read opened
  cases typed : DataType.parse text with
  | error error => exact ⟨error, rfl⟩
  | ok type =>
    rw [(agrees text type).2 typed] at read
    cases read
    cases opened

/-- A map from an open type to structs with an open scale in the last field. -/
def openMap : Template :=
  map (placeholder "any1") (struct [concrete (.atom (.userDefined "a?b") .required),
    concrete (.atom (.precise .timestamp 6) .nullable), decimal "+5" "S" .required] .required) .nullable

/-- The map is read as a template only, and some field of its structs has an open part; with a type for
the key and a scale for the last field, the text is read as the same type by both readers. -/
theorem parse_agrees_openMap :
    parse "Map< any1? , struct<u!a?b, timestamp? , DECIMAL< +5 ,S>> >?" = .ok openMap ∧
      (∃ error,
        DataType.parse "Map< any1? , struct<u!a?b, timestamp? , DECIMAL< +5 ,S>> >?" = .error error) ∧
      (∃ field ∈ [concrete (.atom (.userDefined "a?b") .required),
        concrete (.atom (.precise .timestamp 6) .nullable), decimal "+5" "S" .required],
        field.isConcrete = false) ∧
      ∃ type, DataType.parse "Map< date , struct<u!a?b, timestamp? , DECIMAL< +5 ,2>> >?" = .ok type ∧
        parse "Map< date , struct<u!a?b, timestamp? , DECIMAL< +5 ,2>> >?" = .ok (concrete type) := by
  obtain ⟨agrees, refused, opened⟩ := parse_agrees
  have read : parse "Map< any1? , struct<u!a?b, timestamp? , DECIMAL< +5 ,S>> >?" = .ok openMap := by
    decide +kernel
  have structInside : struct [concrete (.atom (.userDefined "a?b") .required),
      concrete (.atom (.precise .timestamp 6) .nullable), decimal "+5" "S" .required] .required ∈
      openMap.nodes := by
    simp [openMap, nodes]
  have typed : DataType.parse "Map< date , struct<u!a?b, timestamp? , DECIMAL< +5 ,2>> >?" =
      .ok (.map (.atom (.plain .date) .required) (.struct [.atom (.userDefined "a?b") .required,
        .atom (.precise .timestamp 6) .nullable, .atom (.decimal 5 2) .required] .required)
        .nullable) := by
    decide +kernel
  exact ⟨read, refused _ _ read rfl, opened _ _ read _ structInside _ _ _ (.struct _), _, typed,
    (agrees _ _).2 typed⟩

end QueryPlan.Template

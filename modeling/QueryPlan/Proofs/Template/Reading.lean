import QueryPlan.Template.Parser
import QueryPlan.Proofs.DataType.Reading

/-! # Template texts that are read
What it takes for one level of a template text to be read, and as what (`Template.readsText_iff`). A
text is read as a template without open parts exactly when it is read as a type; besides, there are
atoms with a parameter that is no number, keywords with a component that has an open part, and
placeholders. -/

namespace QueryPlan.Template

/-! ## Open atoms -/

/-- The template that the parameters of an atom with an open part stand for. -/
inductive OpenAtom (null : Nullability) : AtomForm → List (List Char) → Template → Prop
  /-- A length that is left open. -/
  | sized (kind : LengthKind) (length : List Char) :
    OpenAtom null (.sized kind) [length] (.sized kind (String.ofList length) null)
  /-- A precision that is left open. -/
  | precise (kind : PrecisionKind) (precision : List Char) :
    OpenAtom null (.precise kind) [precision] (.precise kind (String.ofList precision) null)
  /-- A precision and a scale, one of which is left open. -/
  | decimal (precision scale : List Char) : OpenAtom null .decimal [precision, scale]
      (.decimal (String.ofList precision) (String.ofList scale) null)

/-- An atom with an open part is read from its parameters, unless it takes none. -/
theorem openAtom_eq_ok_iff {outline : Outline} {text word : List Char} {null : Nullability}
    {form : AtomForm} {parameters : List Outline} {template : Template} :
    openAtom outline text word null form parameters = .ok template ↔
      OpenAtom null form (parameters.map Outline.text) template ∨
        (∃ kind, form = .fixed kind) ∧ ofTypeOrPlaceholder outline = .ok template := by
  constructor
  · intro read
    unfold openAtom at read
    split at read
    · cases read
      exact .inl (.sized _ _)
    · cases read
      exact .inl (.precise _ _)
    · cases read
      exact .inl (.decimal _ _)
    · exact .inr ⟨⟨_, rfl⟩, read⟩
    · cases read
  · rintro (opened | ⟨⟨kind, rfl⟩, read⟩)
    · generalize cut : parameters.map Outline.text = texts at opened
      cases opened with
      | sized kind length =>
        obtain ⟨parameter, rfl, rfl⟩ := List.map_eq_singleton_iff.1 cut
        rfl
      | precise kind precision =>
        obtain ⟨parameter, rfl, rfl⟩ := List.map_eq_singleton_iff.1 cut
        rfl
      | decimal precision scale =>
        obtain ⟨first, others, rfl, rfl, rest⟩ := List.map_eq_cons_iff.1 cut
        obtain ⟨second, rfl, rfl⟩ := List.map_eq_singleton_iff.1 rest
        rfl
    · exact read

/-- An atom has an open part when some parameter is no length. -/
theorem isOpen_map_ofText {texts : List (List Char)} :
    isOpen (texts.map Outline.ofText) = true ↔ ∃ text ∈ texts, Text.readLength? text = none := by
  simp [isOpen]

/-- An atom that is read as a type has no open part. -/
theorem not_open_of_reads {form : AtomForm} {texts : List (List Char)} {kind : Atom}
    (reads : form.Reads texts kind) : ¬ ∃ text ∈ texts, Text.readLength? text = none := by
  rintro ⟨text, member, opened⟩
  obtain ⟨value, numeral⟩ := reads.exists_numeral member
  rw [Text.readLength?, numeral] at opened
  cases opened

/-! ## Types and placeholders -/

/-- A template is **read off** a text when it is what the outline of the text stands for. -/
def ReadsText (text : List Char) (template : Template) : Prop :=
  ofOutline (Outline.ofText text) = .ok template

variable {text : List Char} {parts : Parts} {template : Template}

/-- A text that has to be a type or a placeholder is the one it can be, types first. -/
theorem ofTypeOrPlaceholder_eq_ok_iff (level : Parts.ofText text = .ok parts) :
    ofTypeOrPlaceholder (Outline.ofText text) = .ok template ↔
      (∃ type, DataType.ReadsLevel parts type ∧ template = concrete type) ∨
      (∀ type, ¬ DataType.ReadsLevel parts type) ∧ parts.parameters? = none ∧
        isIdentifier parts.keyword = true ∧ template = placeholder (String.ofList parts.keyword) := by
  simp only [← DataType.readsText_iff level, DataType.ReadsText]
  unfold ofTypeOrPlaceholder
  cases read : DataType.ofOutline (Outline.ofText text) with
  | ok type =>
    constructor
    · intro same
      cases same
      exact .inl ⟨type, rfl, rfl⟩
    · rintro (⟨other, same, rfl⟩ | ⟨refused, -⟩)
      · cases same
        rfl
      · exact absurd rfl (refused type)
  | error error =>
    rw [Outline.ofText_of_ok level]
    cases parts.parameters? with
    | some parameters => simp
    | none =>
      by_cases identifier : isIdentifier parts.keyword = true
      · simp [identifier, eq_comm]
      · simp [identifier]

/-- A list of outlines is read outline by outline. -/
theorem ofOutlines_eq_ok_iff {outlines : List Outline} {templates : List Template} :
    ofOutlines outlines = .ok templates ↔
      List.Forall₂ (fun outline template => ofOutline outline = .ok template) outlines templates := by
  induction outlines generalizing templates with
  | nil => simp [ofOutlines, eq_comm]
  | cons outline outlines ih =>
    simp only [ofOutlines, Outcome.bind_eq_ok_iff, Outcome.pure_eq_ok_iff, ih,
      List.forall₂_cons_left_iff]
    constructor
    · rintro ⟨template, first, others, rest, rfl⟩
      exact ⟨template, others, first, rest, rfl⟩
    · rintro ⟨template, others, first, rest, rfl⟩
      exact ⟨template, first, others, rest, rfl⟩

/-- The outlines of parameters are read when the parameters are. -/
theorem ofOutlines_map_ofText_eq_ok_iff {texts : List (List Char)} {templates : List Template} :
    ofOutlines (texts.map Outline.ofText) = .ok templates ↔
      List.Forall₂ ReadsText texts templates := by
  rw [ofOutlines_eq_ok_iff, List.forall₂_map_left_iff]
  rfl

/-- The keyword of an atom announces the atom, with or without an open part. -/
theorem readsText_iff_of_atom (level : Parts.ofText text = .ok parts) {form : AtomForm}
    (found : Keyword.find? (Text.lowercase parts.keyword) = some (.atom form)) :
    ReadsText text template ↔
      if ∃ text ∈ parts.parameters, Text.readLength? text = none then
        OpenAtom parts.nullability form parts.parameters template ∨
          (∃ kind, form = .fixed kind) ∧ ofTypeOrPlaceholder (Outline.ofText text) = .ok template
      else ofTypeOrPlaceholder (Outline.ofText text) = .ok template := by
  rw [ReadsText]
  conv_lhs => rw [Outline.ofText_of_ok level]
  unfold ofOutline
  simp only [found, ← Outline.ofText_of_ok level, isOpen_map_ofText]
  split
  · rw [openAtom_eq_ok_iff, DataType.map_text_map_ofText]
  · rfl

/-! ## Composites -/

/-- The template that a keyword **composes** from component templates. -/
inductive Composed (null : Nullability) : Keyword → List Template → Template → Prop
  /-- Any number of fields. -/
  | struct (fields : List Template) : Composed null .struct fields (struct fields null)
  /-- One element. -/
  | list (element : Template) : Composed null .list [element] (list element null)
  /-- A key and a value. -/
  | map (key value : Template) : Composed null .map [key, value] (map key value null)

/-- A template without open parts is read when its type is. -/
theorem ofType_eq_ok_iff (level : Parts.ofText text = .ok parts) :
    ofType (DataType.ofOutline (Outline.ofText text)) = .ok template ↔
      ∃ type, DataType.ReadsLevel parts type ∧ template = concrete type := by
  simp only [← DataType.readsText_iff level, DataType.ReadsText]
  rw [ofType, Outcome.map_eq_ok_iff]
  simp only [eq_comm]

/-- A composite without open parts is read as a type, any other as what it is composed to. -/
theorem ofType_or_eq_ok_iff (level : Parts.ofText text = .ok parts) {bound : Bool}
    {composite : Except TypeError Template} {stands : Prop}
    (open_iff : composite = .ok template ↔ stands) :
    (if bound then ofType (DataType.ofOutline (Outline.ofText text)) else composite) = .ok template ↔
      if bound then ∃ type, DataType.ReadsLevel parts type ∧ template = concrete type
      else stands := by
  cases bound with
  | true => exact ofType_eq_ok_iff level
  | false => exact open_iff

/-- The keyword of a composite announces the composite, or the type without open parts. -/
theorem readsText_iff_of_composite (level : Parts.ofText text = .ok parts) {keyword : Keyword}
    (found : Keyword.find? (Text.lowercase parts.keyword) = some keyword)
    (composite : ∀ form, keyword ≠ .atom form) :
    ReadsText text template ↔ ∃ children, List.Forall₂ ReadsText parts.parameters children ∧
      if children.all isConcrete then
        ∃ type, DataType.ReadsLevel parts type ∧ template = concrete type
      else Composed parts.nullability keyword children template := by
  rw [ReadsText]
  conv_lhs => rw [Outline.ofText_of_ok level]
  unfold ofOutline
  -- the keywords differ in the number of components that they take
  cases keyword with
  | atom form => exact absurd rfl (composite form)
  | struct =>
    simp only [found, ← Outline.ofText_of_ok level, Outcome.bind_eq_ok_iff,
      ofOutlines_map_ofText_eq_ok_iff]
    refine exists_congr fun children => and_congr_right fun _ => ofType_or_eq_ok_iff level ?_
    rw [Outcome.pure_eq_ok_iff]
    constructor
    · rintro rfl
      exact .struct children
    · intro composed
      cases composed
      rfl
  | list =>
    simp only [found, ← Outline.ofText_of_ok level, Outcome.bind_eq_ok_iff,
      ofOutlines_map_ofText_eq_ok_iff]
    refine exists_congr fun children => and_congr_right fun _ => ofType_or_eq_ok_iff level ?_
    constructor
    · intro read
      split at read
      · cases read
        exact .list _
      · cases read
    · intro composed
      cases composed
      rfl
  | map =>
    simp only [found, ← Outline.ofText_of_ok level, Outcome.bind_eq_ok_iff,
      ofOutlines_map_ofText_eq_ok_iff]
    refine exists_congr fun children => and_congr_right fun _ => ofType_or_eq_ok_iff level ?_
    constructor
    · intro read
      split at read
      · cases read
        exact .map _ _
      · cases read
    · intro composed
      cases composed
      rfl

/-- A text without a keyword is a type or a placeholder. -/
theorem readsText_iff_of_unknown (level : Parts.ofText text = .ok parts)
    (unknown : Keyword.find? (Text.lowercase parts.keyword) = none) :
    ReadsText text template ↔ ofTypeOrPlaceholder (Outline.ofText text) = .ok template := by
  rw [ReadsText]
  conv_lhs => rw [Outline.ofText_of_ok level]
  unfold ofOutline
  simp only [unknown, ← Outline.ofText_of_ok level]

/-! ## Levels -/

/-- The template that one level of a template text is **read** as. -/
inductive ReadsLevel (parts : Parts) : Template → Prop
  /-- A type. -/
  | concrete {type : DataType} (read : DataType.ReadsLevel parts type) :
    ReadsLevel parts (concrete type)
  /-- The keyword of an atom, some parameter of which is no number. -/
  | openAtom {form : AtomForm} {template : Template}
    (found : Keyword.find? (Text.lowercase parts.keyword) = some (.atom form))
    (opens : ∃ parameter ∈ parts.parameters, Text.readLength? parameter = none)
    (stands : OpenAtom parts.nullability form parts.parameters template) : ReadsLevel parts template
  /-- Another keyword, some component of which has an open part. -/
  | composite {keyword : Keyword} {children : List Template} {template : Template}
    (found : Keyword.find? (Text.lowercase parts.keyword) = some keyword)
    (members : List.Forall₂ ReadsText parts.parameters children)
    (opens : children.all isConcrete = false)
    (composed : Composed parts.nullability keyword children template) : ReadsLevel parts template
  /-- An identifier without brackets that is no type and no keyword of a composite. -/
  | placeholder (refused : ∀ type, ¬ DataType.ReadsLevel parts type)
    (bare : parts.parameters? = none) (identifier : isIdentifier parts.keyword = true)
    (simple : ∀ keyword, Keyword.find? (Text.lowercase parts.keyword) = some keyword →
      ∃ form, keyword = .atom form) :
    ReadsLevel parts (placeholder (String.ofList parts.keyword))

/-- **A text that is read as a type** is read as the template without open parts. -/
theorem ReadsText.of_type {text : List Char} {type : DataType} (read : DataType.ReadsText text type) :
    ReadsText text (concrete type) := by
  induction text using Parts.text_induction generalizing type with
  | step text ih =>
    obtain ⟨parts, level, reads⟩ := read.exists_level
    have sure : ofTypeOrPlaceholder (Outline.ofText text) = .ok (concrete type) :=
      (ofTypeOrPlaceholder_eq_ok_iff level).2 (.inl ⟨type, reads, rfl⟩)
    have whole := reads
    cases reads with
    | userDefined marked bare inBounds =>
      have unknown : Keyword.find? (Text.lowercase parts.keyword) = none := by
        cases found : Keyword.find? (Text.lowercase parts.keyword) with
        | none => rfl
        | some keyword =>
          rw [Keyword.userDefinedName?_of_find?_lowercase found] at marked
          cases marked
      exact (readsText_iff_of_unknown level unknown).2 sure
    | atom found numbers inBounds =>
      rw [readsText_iff_of_atom level found, if_neg (not_open_of_reads numbers)]
      exact sure
    | @composite keyword components _ found members composed =>
      -- all components are read as types, so the level is read as a type once more
      have composite : ∀ form, keyword ≠ .atom form := by cases composed <;> exact nofun
      have children : List.Forall₂ ReadsText parts.parameters (components.map concrete) := by
        rw [List.forall₂_map_right_iff]
        exact ((List.forall₂_and_left _ _).2 ⟨ih parts level, members⟩).imp
          fun parameter component ⟨reads, read⟩ => reads read
      refine (readsText_iff_of_composite level found composite).2 ⟨_, children, ?_⟩
      rw [if_pos (by simp [isConcrete])]
      exact ⟨type, whole, rfl⟩

/-- What a text is read as is what its level is read as. -/
theorem ReadsText.readsLevel (read : ReadsText text template)
    (level : Parts.ofText text = .ok parts) : ReadsLevel parts template := by
  cases found : Keyword.find? (Text.lowercase parts.keyword) with
  | none =>
    rw [readsText_iff_of_unknown level found, ofTypeOrPlaceholder_eq_ok_iff level] at read
    obtain ⟨type, reads, rfl⟩ | ⟨refused, bare, identifier, rfl⟩ := read
    · exact .concrete reads
    · exact .placeholder refused bare identifier (by rw [found]; exact nofun)
  | some keyword =>
    by_cases simple : ∃ form, keyword = .atom form
    · obtain ⟨form, rfl⟩ := simple
      -- where an atom is not open, and where it cannot be, its level is a type or a placeholder
      have loose (single : ofTypeOrPlaceholder (Outline.ofText text) = .ok template) :
          ReadsLevel parts template := by
        obtain ⟨type, reads, rfl⟩ | ⟨refused, bare, identifier, rfl⟩ :=
          (ofTypeOrPlaceholder_eq_ok_iff level).1 single
        · exact .concrete reads
        · refine .placeholder refused bare identifier fun keyword announced => ?_
          rw [found] at announced
          cases announced
          exact ⟨form, rfl⟩
      rw [readsText_iff_of_atom level found] at read
      split at read
      · rename_i opens
        obtain stands | ⟨-, single⟩ := read
        · exact .openAtom found opens stands
        · exact loose single
      · exact loose read
    · have composite : ∀ form, keyword ≠ .atom form := fun form same => simple ⟨form, same⟩
      obtain ⟨children, members, stands⟩ :=
        (readsText_iff_of_composite level found composite).1 read
      split at stands
      · obtain ⟨type, reads, rfl⟩ := stands
        exact .concrete reads
      · rename_i opens
        exact .composite found members (Bool.not_eq_true _ ▸ opens) stands

/-- What a level is read as is what its text is read as. -/
theorem ReadsLevel.readsText (reads : ReadsLevel parts template)
    (level : Parts.ofText text = .ok parts) : ReadsText text template := by
  cases reads with
  | concrete read => exact .of_type (read.readsText level)
  | openAtom found opens stands =>
    rw [readsText_iff_of_atom level found, if_pos opens]
    exact .inl stands
  | @composite keyword children _ found members opens composed =>
    have composite : ∀ form, keyword ≠ .atom form := by cases composed <;> exact nofun
    refine (readsText_iff_of_composite level found composite).2 ⟨children, members, ?_⟩
    rw [if_neg (by rw [opens]; exact Bool.false_ne_true)]
    exact composed
  | placeholder refused bare identifier simple =>
    have single : ofTypeOrPlaceholder (Outline.ofText text) =
        .ok (Template.placeholder (String.ofList parts.keyword)) :=
      (ofTypeOrPlaceholder_eq_ok_iff level).2 (.inr ⟨refused, bare, identifier, rfl⟩)
    cases found : Keyword.find? (Text.lowercase parts.keyword) with
    | none => exact (readsText_iff_of_unknown level found).2 single
    | some keyword =>
      obtain ⟨form, rfl⟩ := simple keyword found
      have closed : ¬ ∃ parameter ∈ parts.parameters, Text.readLength? parameter = none := by
        rw [Parts.parameters, bare]
        rintro ⟨parameter, member, -⟩
        cases member
      rw [readsText_iff_of_atom level found, if_neg closed]
      exact single

/-- **A level is read** as what its keyword and its parameters stand for. -/
theorem readsText_iff (level : Parts.ofText text = .ok parts) :
    ReadsText text template ↔ ReadsLevel parts template :=
  ⟨fun read => read.readsLevel level, fun reads => reads.readsText level⟩

/-- A text that is read is read level by level. -/
theorem ReadsText.exists_level (read : ReadsText text template) :
    ∃ parts, Parts.ofText text = .ok parts ∧ ReadsLevel parts template := by
  cases level : Parts.ofText text with
  | error fault =>
    rw [ReadsText, Outline.ofText_of_error level, ofOutline] at read
    cases read
  | ok parts => exact ⟨parts, rfl, read.readsLevel level⟩

end QueryPlan.Template

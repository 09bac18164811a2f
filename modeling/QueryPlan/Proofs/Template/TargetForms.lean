import QueryPlan.Proofs.Template.Coercion

/-! # Announced forms
Each family announces the forms of the templates that its types can be coerced onto. The table of
announcements is read here as a rule (`Family.mem_targetForms_iff`), and coercion keeps to it in both
directions: a well-formed type is coerced onto an open template exactly when its family announces the
form of the template, and onto a type exactly when it has the shape of that type
(`DataType.isSome_coerce?_iff_announced`). -/

namespace QueryPlan

/-! ## The table -/

/-- The kinds of character strings of bounded length. -/
theorem LengthKind.isCharacter_iff {kind : LengthKind} :
    kind.isCharacter = true ↔ kind = fixedChar ∨ kind = varChar := by
  cases kind <;> simp [isCharacter]

/-- **The announced forms**: every family announces its own types, the families of character strings of
bounded length announce the templates of both, and all families of character strings the
placeholder. -/
theorem Family.mem_targetForms_iff {family : Family} {form : Template.Form} :
    form ∈ family.targetForms ↔
      form = .concrete family ∨
        (∃ source target : LengthKind, source.isCharacter = true ∧ target.isCharacter = true ∧
          family = .sized source ∧ form = .sized target) ∨
        (family.isCharacter = true ∧ form = .placeholder) := by
  cases family with
  | sized kind =>
    cases kind with
    | fixedChar | varChar =>
      simp [targetForms, isCharacter, LengthKind.isCharacter_iff, or_assoc]
    | fixedBinary => simp [targetForms, isCharacter, LengthKind.isCharacter]
  | plain kind =>
    cases kind with
    | string => simp [targetForms, isCharacter]
    | _ => simp [targetForms, isCharacter]
  | precise | decimal | userDefined | struct | list | map => simp [targetForms, isCharacter]

/-- Exactly the families of character strings announce the placeholder. -/
theorem Family.placeholder_mem_targetForms_iff {family : Family} :
    Template.Form.placeholder ∈ family.targetForms ↔ family.isCharacter = true := by
  simp [mem_targetForms_iff]

/-- Templates with a length are announced for and by character strings of bounded length only. -/
theorem Family.sized_mem_targetForms_iff {family : Family} {target : LengthKind} :
    Template.Form.sized target ∈ family.targetForms ↔
      ∃ source : LengthKind, source.isCharacter = true ∧ target.isCharacter = true ∧
        family = .sized source := by
  simp [mem_targetForms_iff]

namespace DataType

variable {source : DataType}

/-! ## Sources by family -/

/-- A type of a family with a length has a length. -/
theorem exists_eq_sized {kind : LengthKind} (family : source.family = .sized kind) :
    ∃ length null, source = atom (.sized kind length) null := by
  cases source with
  | atom shape null =>
    cases shape with
    | sized found length =>
      obtain rfl : found = kind := Family.sized.inj family
      exact ⟨length, null, rfl⟩
    | plain | precise | decimal | userDefined => cases family
  | struct | list | map => cases family

/-- Character strings have no component types. -/
theorem exists_eq_atom (character : source.family.isCharacter = true) :
    ∃ shape null, source = atom shape null := by
  cases source with
  | atom shape null => exact ⟨shape, null, rfl⟩
  | struct | list | map => cases character

/-! ## Coercion and the table -/

/-- A placeholder takes exactly the character strings. -/
theorem isSome_coerce?_placeholder_iff {name : String} :
    (source.coerce? (.placeholder name)).isSome = true ↔ source.family.isCharacter = true := by
  constructor
  · intro coercible
    exact Family.placeholder_mem_targetForms_iff.1 (form_mem_targetForms coercible)
  · intro character
    obtain ⟨shape, null, rfl⟩ := exists_eq_atom character
    rw [(CoercesTo.string character name).coerce?_eq]
    rfl

/-- A template for character strings of bounded length takes all of them, when lengths that change
their kind are within the bounds. -/
theorem isSome_coerce?_sized {kind target : LengthKind} (fromCharacter : kind.isCharacter = true)
    (toCharacter : target.isCharacter = true) (family : source.family = .sized kind)
    (checked : kind ≠ target → source.WellFormed) (text : String) (state : Nullability) :
    (source.coerce? (.sized target text state)).isSome = true := by
  obtain ⟨length, null, rfl⟩ := exists_eq_sized family
  have coerces : CoercesTo (atom (.sized kind length) null) (.sized target text state)
      (atom (.sized target length) null) := .bounded fromCharacter toCharacter text state checked
  rw [coerces.coerce?_eq]
  rfl

/-- Types can be coerced onto the open templates of all forms that their family announces. -/
theorem isSome_coerce?_of_announced (wellFormed : source.WellFormed) {target : Template}
    (isOpen : target.isConcrete = false) (announced : target.form ∈ source.family.targetForms) :
    (source.coerce? target).isSome = true := by
  cases target with
  | concrete type => cases isOpen
  | sized kind text state =>
    obtain ⟨sourceKind, fromCharacter, toCharacter, family⟩ :=
      Family.sized_mem_targetForms_iff.1 announced
    exact isSome_coerce?_sized fromCharacter toCharacter family (fun _ => wellFormed) text state
  | placeholder name =>
    exact isSome_coerce?_placeholder_iff.2 (Family.placeholder_mem_targetForms_iff.1 announced)
  -- no family announces a form of any other kind
  | precise | decimal | struct | list | map =>
    simp [Family.mem_targetForms_iff, Template.form] at announced

/-- A type is coerced onto another type exactly when it has its shape. -/
theorem isSome_coerce?_concrete_iff {type : DataType} :
    (source.coerce? (.concrete type)).isSome = true ↔ SameShape source type := by
  by_cases same : SameShape source type
  · simp [coerce?, same]
  · simp [coerce?, same]

/-- **Coercion accepts what the table announces.** A well-formed type can be coerced onto a template with
an open part exactly when its family announces the form of the template. It can be coerced onto another
type exactly when it has the shape of that type, and then its family announces this form as well. -/
theorem isSome_coerce?_iff_announced (wellFormed : source.WellFormed) (target : Template) :
    (target.isConcrete = false →
      ((source.coerce? target).isSome = true ↔ target.form ∈ source.family.targetForms)) ∧
    ∀ type, target = .concrete type →
      ((source.coerce? target).isSome = true ↔ SameShape source type) ∧
        (SameShape source type → target.form ∈ source.family.targetForms) := by
  constructor
  · intro isOpen
    exact ⟨form_mem_targetForms, isSome_coerce?_of_announced wellFormed isOpen⟩
  · rintro type rfl
    refine ⟨isSome_coerce?_concrete_iff, fun same => ?_⟩
    exact form_mem_targetForms (isSome_coerce?_concrete_iff.2 same)

/-- A string of at most eight characters can be coerced onto the template for strings of a fixed length,
which its family announces, and onto its own shape, but onto no open decimal. -/
theorem isSome_coerce?_iff_announced_code :
    let code : DataType := atom (.sized .varChar 8) .nullable
    code.WellFormed ∧
      (code.coerce? (.sized .fixedChar "L1" .required)).isSome = true ∧
      (code.coerce? (.decimal "P" "S" .required)).isSome = false ∧
      (code.coerce? (.concrete code.asRequired)).isSome = true ∧
      Template.form (.concrete code.asRequired) ∈ code.family.targetForms := by
  intro code
  have wellFormed : code.WellFormed := show (1 : UInt32) ≤ 8 by decide
  obtain ⟨fixed, -⟩ := isSome_coerce?_iff_announced wellFormed (.sized .fixedChar "L1" .required)
  obtain ⟨numbers, -⟩ := isSome_coerce?_iff_announced wellFormed (.decimal "P" "S" .required)
  obtain ⟨-, own⟩ := isSome_coerce?_iff_announced wellFormed (.concrete code.asRequired)
  obtain ⟨shape, announced⟩ := own code.asRequired rfl
  refine ⟨wellFormed, (fixed rfl).2 (by decide), ?_, shape.2 (by decide), announced (by decide)⟩
  exact Bool.eq_false_iff.2 (mt (numbers rfl).1 (by decide))

end DataType

end QueryPlan

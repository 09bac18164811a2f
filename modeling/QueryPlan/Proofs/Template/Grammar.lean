import QueryPlan.Proofs.Template.Agreement

/-! # The grammar of templates
In a template a parameter is open under an identifier, and a type under an identifier that is no keyword:
a template whose open parts are of this form is **grammatical**. The reader refuses no open parameter and
takes the keyword of a type with parameters, written without them, for a placeholder, so that it reads
texts of templates that are not grammatical. Exactly the texts without such parameters and without such
keywords, the **regular** ones, are read as grammatical templates
(`Template.grammatical_iff_of_parse`). -/

namespace QueryPlan

/-- Whether a text may stand for a parameter of an atom: it is an identifier, or a number that the
parameter has room for. -/
def AtomForm.allows (form : AtomForm) (text : List Char) : Bool :=
  Template.isIdentifier text || match form with
    | fixed _ => false
    | sized _ => (Text.readLength? text).isSome
    | precise _ | decimal => (Text.readPrecision? text).isSome

/-! ## Grammatical templates -/

namespace Template

/-- Whether the open part at the top of a template, if there is one, keeps to the grammar. -/
def isGrammatical : Template → Bool
  | sized kind length _ => (AtomForm.sized kind).allows length.toList
  | precise kind precision _ => (AtomForm.precise kind).allows precision.toList
  | decimal precision scale _ =>
    AtomForm.decimal.allows precision.toList && AtomForm.decimal.allows scale.toList
  | placeholder name => (Keyword.find? (Text.lowercase name.toList)).isNone
  | concrete _ | struct _ _ | list _ _ | map _ _ _ => true

/-- A template is **grammatical** when the open parts of all its nodes keep to the grammar. -/
def Grammatical (template : Template) : Prop := ∀ node ∈ template.nodes, node.isGrammatical = true

/-- A composed template is grammatical when its components are. -/
theorem Composed.grammatical_iff {null : Nullability} {keyword : Keyword} {children : List Template}
    {template : Template} (composed : Composed null keyword children template) :
    template.Grammatical ↔ ∀ child ∈ children, child.Grammatical := by
  have top : template.isGrammatical = true := by
    cases composed <;> rfl
  simp only [Grammatical, composed.nodes_eq, List.forall_mem_cons, List.forall_mem_flatMap, top,
    true_and]

/-- A type without open parts is grammatical. -/
theorem grammatical_concrete (type : DataType) : (concrete type).Grammatical :=
  List.forall_mem_singleton.2 rfl

/-- A placeholder is grammatical when its name is no keyword, in either case. -/
theorem grammatical_placeholder_iff {name : String} :
    (placeholder name).Grammatical ↔ Keyword.find? (Text.lowercase name.toList) = none := by
  have single : (placeholder name).nodes = [placeholder name] := rfl
  rw [Grammatical, single, List.forall_mem_singleton, isGrammatical, Option.isNone_iff_eq_none]

/-- A template that is not composed is grammatical when its open part is. -/
theorem grammatical_iff_of_simple {template : Template}
    (simple : ∀ null keyword children, ¬ Composed null keyword children template) :
    template.Grammatical ↔ template.isGrammatical = true := by
  rw [Grammatical, nodes_eq_singleton simple, List.forall_mem_singleton]

/-- An atom with an open part takes parameters, and is grammatical when all of them are allowed. -/
theorem OpenAtom.grammatical_iff {null : Nullability} {form : AtomForm} {texts : List (List Char)}
    {template : Template} (stands : OpenAtom null form texts template) :
    texts.length = form.arity ∧ 0 < form.arity ∧
      (template.Grammatical ↔ ∀ text ∈ texts, form.allows text = true) := by
  rw [grammatical_iff_of_simple stands.simple.2]
  cases stands with
  | sized kind length => simp [AtomForm.arity, isGrammatical]
  | precise kind precision => simp [AtomForm.arity, isGrammatical]
  | decimal precision scale => simp [AtomForm.arity, isGrammatical]

end Template

/-! ## Regular texts -/

namespace Outline

mutual

/-- Whether an outline is **regular**: where it stands for an atom with parameters, the parameters are
there and allowed, and where it stands for a composite, its components are regular. -/
def isRegular : Outline → Bool
  | malformed _ _ => true
  | node _ written _ hasBrackets parameters =>
    match Keyword.find? (Text.lowercase written) with
    | some (.atom form) =>
      form.arity = 0 || hasBrackets && parameters.all fun parameter => form.allows parameter.text
    | some .struct | some .list | some .map => areRegular parameters
    | none => true

/-- Whether all outlines of a list are regular. -/
def areRegular : List Outline → Bool
  | [] => true
  | outline :: outlines => isRegular outline && areRegular outlines

end

/-- The outlines of a list are regular when each of its members is. -/
theorem areRegular_iff {outlines : List Outline} :
    areRegular outlines = true ↔ ∀ outline ∈ outlines, outline.isRegular = true := by
  induction outlines with
  | nil => simp [areRegular]
  | cons outline outlines ih => simp [areRegular, ih]

variable {text : List Char} {parts : Parts}

/-- A level that announces an atom is regular when it has the parameters that the atom takes, if any, and
all of them are allowed. -/
theorem isRegular_ofText_iff_of_atom (level : Parts.ofText text = .ok parts) {form : AtomForm}
    (found : Keyword.find? (Text.lowercase parts.keyword) = some (.atom form)) :
    (ofText text).isRegular = true ↔ form.arity = 0 ∨
      parts.parameters?.isSome = true ∧ ∀ parameter ∈ parts.parameters, form.allows parameter = true := by
  rw [ofText_of_ok level, isRegular]
  simp [found]

/-- A level that announces a composite is regular when its parameters are. -/
theorem isRegular_ofText_iff_of_composite (level : Parts.ofText text = .ok parts) {keyword : Keyword}
    (found : Keyword.find? (Text.lowercase parts.keyword) = some keyword)
    (composite : ∀ form, keyword ≠ .atom form) :
    (ofText text).isRegular = true ↔
      ∀ parameter ∈ parts.parameters, (ofText parameter).isRegular = true := by
  rw [ofText_of_ok level, isRegular]
  cases keyword with
  | atom form => exact absurd rfl (composite form)
  | struct | list | map => simp only [found, areRegular_iff, List.forall_mem_map]

/-- A level without a keyword is regular. -/
theorem isRegular_ofText_of_unknown (level : Parts.ofText text = .ok parts)
    (unknown : Keyword.find? (Text.lowercase parts.keyword) = none) :
    (ofText text).isRegular = true := by
  rw [ofText_of_ok level, isRegular]
  simp only [unknown]

end Outline

/-- The parameters that an atom is read from are as many as it takes, and allowed. -/
theorem AtomForm.Reads.allows {form : AtomForm} {parameters : List (List Char)} {kind : Atom}
    (reads : form.Reads parameters kind) :
    parameters.length = form.arity ∧ ∀ parameter ∈ parameters, form.allows parameter = true := by
  cases reads with
  | fixed => exact ⟨rfl, nofun⟩
  | sized read => simp [AtomForm.allows, arity, read]
  | precise read => simp [AtomForm.allows, arity, read]
  | decimal readFirst readSecond => simp [AtomForm.allows, arity, readFirst, readSecond]

/-- A level with parameters has brackets. -/
theorem Parts.isSome_parameters?_of_length {parts : Parts} {count : Nat}
    (length : parts.parameters.length = count) (positive : 0 < count) :
    parts.parameters?.isSome = true := by
  cases bare : parts.parameters? with
  | none =>
    rw [Parts.parameters, bare, Option.getD_none] at length
    exact absurd positive (length ▸ Nat.lt_irrefl 0)
  | some parameters => rfl

/-- **The text of a type is regular**, in every spelling. -/
theorem DataType.ReadsText.isRegular {text : List Char} {type : DataType}
    (read : DataType.ReadsText text type) : (Outline.ofText text).isRegular = true := by
  induction text using Parts.text_induction generalizing type with
  | step text ih =>
    obtain ⟨parts, level, reads⟩ := read.exists_level
    cases reads with
    | userDefined marked bare inBounds =>
      exact Outline.isRegular_ofText_of_unknown level (Keyword.find?_lowercase_of_userDefinedName? marked)
    | @atom form kind found reads inBounds =>
      obtain ⟨length, allowed⟩ := reads.allows
      rw [Outline.isRegular_ofText_iff_of_atom level found]
      -- a number is allowed for a parameter, so only the brackets are left to be there
      obtain none | positive := Nat.eq_zero_or_pos form.arity
      · exact .inl none
      · exact .inr ⟨Parts.isSome_parameters?_of_length length positive, allowed⟩
    | @composite keyword components type found members composed =>
      have composite : ∀ form, keyword ≠ .atom form := by cases composed <;> exact nofun
      rw [Outline.isRegular_ofText_iff_of_composite level found composite]
      intro parameter inside
      obtain ⟨component, -, readInside⟩ := exists_mem_of_forall₂ members.flip inside
      exact ih parts level parameter inside readInside

/-- A keyword that stands alone for an atom stands for one within its bounds. -/
theorem Keyword.inBounds_of_find? {word : List Char} {kind : Atom}
    (found : Keyword.find? word = some (.atom (.fixed kind))) : kind.InBounds := by
  -- of these only the timestamps have a parameter, the default precision
  have all : ∀ entry ∈ Keyword.table, (match entry.2 with
      | .atom (.fixed kind) => decide kind.InBounds
      | _ => true) = true := by decide
  exact of_decide_eq_true (all _ (Keyword.mem_table_of_find? found))

namespace Template

/-! ## Grammatical templates and regular texts -/

/-- A level that is read as a placeholder has a keyword only if that keyword takes parameters. -/
theorem arity_pos_of_refused {parts : Parts} {form : AtomForm}
    (found : Keyword.find? (Text.lowercase parts.keyword) = some (.atom form))
    (bare : parts.parameters? = none) (refused : ∀ type, ¬ DataType.ReadsLevel parts type) :
    0 < form.arity := by
  cases form with
  | fixed kind =>
    have reads : (AtomForm.fixed kind).Reads parts.parameters kind := by
      rw [Parts.parameters, bare]
      exact .fixed kind
    exact absurd (.atom found reads (Keyword.inBounds_of_find? found)) (refused _)
  | sized | precise => exact Nat.one_pos
  | decimal => exact Nat.two_pos

/-- A template that is read off a text is grammatical exactly when the text is regular. -/
theorem ReadsText.grammatical_iff {text : List Char} {template : Template}
    (read : ReadsText text template) :
    template.Grammatical ↔ (Outline.ofText text).isRegular = true := by
  induction text using Parts.text_induction generalizing template with
  | step text ih =>
    obtain ⟨parts, level, reads⟩ := read.exists_level
    cases reads with
    | @concrete type typed =>
      exact iff_of_true (grammatical_concrete type) (typed.readsText level).isRegular
    | openAtom found opens stands =>
      -- the texts of the parameters are kept as they are, whether they are numbers or not
      obtain ⟨length, positive, grammatical⟩ := stands.grammatical_iff
      have brackets := Parts.isSome_parameters?_of_length length positive
      simp only [grammatical, Outline.isRegular_ofText_iff_of_atom level found, brackets, positive.ne',
        true_and, false_or]
    | @composite keyword children _ found members opens composed =>
      -- no part of this level is open itself, so both sides speak of the components only
      have composite : ∀ form, keyword ≠ .atom form := by cases composed <;> exact nofun
      rw [composed.grammatical_iff, Outline.isRegular_ofText_iff_of_composite level found composite]
      have alike := (List.forall₂_and_left _ _).2 ⟨ih parts level, members⟩
      exact (forall_mem_iff_of_forall₂ (alike.imp fun _ _ ⟨reads, read⟩ => (reads read).symm)).symm
    | placeholder refused bare identifier simple =>
      rw [grammatical_placeholder_iff, String.toList_ofList]
      cases found : Keyword.find? (Text.lowercase parts.keyword) with
      | none => exact iff_of_true rfl (Outline.isRegular_ofText_of_unknown level found)
      | some keyword =>
        -- the keyword asks for parameters, which are not there
        obtain ⟨form, rfl⟩ := simple keyword found
        have positive := arity_pos_of_refused found bare refused
        rw [Outline.isRegular_ofText_iff_of_atom level found, bare]
        simp [positive.ne']

/-- **Grammatical templates are read off regular texts**, and off no others: the open parts of a template
that was read keep to the grammar at every depth exactly when, wherever its text has the keyword of an
atom with parameters for a type, the parameters are there, and each is an identifier or a number that it
has room for. -/
theorem grammatical_iff_of_parse {text : String} {template : Template}
    (read : parse text = .ok template) :
    template.Grammatical ↔ (Outline.ofText text.toList).isRegular = true :=
  ReadsText.grammatical_iff read

/-- A nullable map from an open type to decimals of an open scale keeps to the grammar, whatever the
spelling; the precision is a number, with a sign in front. -/
theorem grammatical_iff_of_parse_openScale :
    let openScale : Template := map (placeholder "any1") (decimal "+5" "S_2" .required) .nullable
    parse " Map< any1? ,DECIMAL< +5 , S_2 > > ?" = .ok openScale ∧ openScale.Grammatical := by
  intro openScale
  have read : parse " Map< any1? ,DECIMAL< +5 , S_2 > > ?" = .ok openScale := by decide +kernel
  have regular : (Outline.ofText " Map< any1? ,DECIMAL< +5 , S_2 > > ?".toList).isRegular = true := by
    decide +kernel
  exact ⟨read, (grammatical_iff_of_parse read).2 regular⟩

/-- Not every template that is read keeps to the grammar: in this map a keyword that asks for a length is
read as a placeholder, and a negative number is kept for a precision. -/
theorem not_grammatical_of_parse :
    parse "map<varchar,decimal<-1,S>>" =
        .ok (map (placeholder "varchar") (decimal "-1" "S" .required) .required) ∧
      (placeholder "varchar").isGrammatical = false ∧
      (decimal "-1" "S" .required).isGrammatical = false ∧
      ¬ (map (placeholder "varchar") (decimal "-1" "S" .required) .required).Grammatical := by
  have keyword : (placeholder "varchar").isGrammatical = false := by decide +kernel
  have negative : (decimal "-1" "S" .required).isGrammatical = false := by decide +kernel
  refine ⟨by decide +kernel, keyword, negative, fun grammatical => ?_⟩
  have inside := grammatical (placeholder "varchar") (by simp [nodes])
  rw [keyword] at inside
  cases inside

end Template

end QueryPlan

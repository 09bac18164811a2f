import QueryPlan.Template.Printer
import QueryPlan.Proofs.DataType.Canonical
import QueryPlan.Proofs.Template.Reading

/-! # Templates read back from their canonical texts
Whatever a text without the mark of names is read as is read again from its canonical text
(`Template.parse_text_of_parse`). The texts that stand for open numbers are kept as they were written
and may have brackets that do not match, so the canonical text of a component need not be closed; but
it is nested like the text that the component was read from (`Template.ReadsText.nestedAlike`), and
therefore the commas between the components stay the ones that the text is split at. -/

namespace QueryPlan.Template

open Text

/-! ## Canonical spelling of templates -/

/-- An atom with an open part is spelled with its keyword and the texts of its parameters. -/
theorem OpenAtom.exists_spelling {null : Nullability} {form : AtomForm} {texts : List (List Char)}
    {template : Template} (stands : OpenAtom null form texts template) :
    ∃ word, Keyword.Spells (.atom form) word ∧
      template.text.toList = Parts.text ⟨word, some texts, null⟩ := by
  cases stands with
  | sized kind length =>
    refine ⟨kind.keyword.toList, Keyword.spells_sized kind, ?_⟩
    simp [text, toList_bracketed, Parts.text]
  | precise kind precision =>
    refine ⟨kind.keyword.toList, Keyword.spells_precise kind, ?_⟩
    simp [text, toList_bracketed, Parts.text]
  | decimal precision scale =>
    refine ⟨"decimal".toList, Keyword.spells_decimal, ?_⟩
    simp [text, toList_bracketed, Parts.text]

/-- A composed template is spelled with a keyword and the spellings of its components. -/
theorem Composed.exists_spelling {null : Nullability} {keyword : Keyword} {children : List Template}
    {template : Template} (composed : Composed null keyword children template) :
    ∃ word, keyword.Spells word ∧ template.text.toList =
      Parts.text ⟨word, some (children.map fun child => child.text.toList), null⟩ := by
  cases composed with
  | struct =>
    refine ⟨"struct".toList, Keyword.spells_struct, ?_⟩
    rw [text, texts_eq_map, toList_bracketed_mark, List.map_map]
    rfl
  | list element => exact ⟨"list".toList, Keyword.spells_list, toList_bracketed_mark _ _ _⟩
  | map key value => exact ⟨"map".toList, Keyword.spells_map, toList_bracketed_mark _ _ _⟩

/-- A placeholder is spelled with its name. -/
theorem toList_text_placeholder (name : List Char) :
    (placeholder (String.ofList name)).text.toList = Parts.text ⟨name, none, .required⟩ := by
  simp [text, Parts.text, Parts.brackets, Nullability.mark]

/-! ## Nesting -/

/-- **A text that is read as a template is nested like the canonical text of the template**, open parts
included. -/
theorem ReadsText.nestedAlike {text : List Char} {template : Template}
    (read : ReadsText text template) : NestedAlike text template.text.toList := by
  induction text using Parts.text_induction generalizing template with
  | step text ih =>
    obtain ⟨parts, level, reads⟩ := read.exists_level
    have alike := (Parts.readFrom_ofText level).alike
    cases reads with
    | concrete typeReads => exact (typeReads.readsText level).nestedAlike
    | openAtom found opens stands =>
      obtain ⟨word, spells, spelled⟩ := stands.exists_spelling
      rw [spelled]
      refine alike.trans (Parts.nestedAlike_text (spells.nestedAlike found) ?_)
      exact List.forall₂_same.2 fun parameter _ => .refl parameter
    | composite found members opens composed =>
      obtain ⟨word, spells, spelled⟩ := composed.exists_spelling
      have nested := (List.forall₂_and_left _ _).2 ⟨ih parts level, members⟩
      rw [spelled]
      refine alike.trans (Parts.nestedAlike_text (spells.nestedAlike found) ?_)
      rw [Parts.parameters_some, List.forall₂_map_right_iff]
      exact nested.imp fun parameter child ⟨nested, read⟩ => nested read
    | placeholder refused bare identifier simple =>
      rw [toList_text_placeholder]
      refine alike.trans (Parts.nestedAlike_text (.refl _) ?_)
      rw [Parts.parameters, bare]
      exact .nil

/-! ## From texts to templates and back -/

/-- What is read as a template is spelled without blanks around it. -/
theorem ReadsText.firm_text {text : List Char} {template : Template}
    (read : ReadsText text template) : Firm template.text.toList := by
  obtain ⟨parts, level, reads⟩ := read.exists_level
  cases reads with
  | concrete typeReads => exact (typeReads.readsText level).firm_text
  | openAtom found opens stands =>
    obtain ⟨word, spells, spelled⟩ := stands.exists_spelling
    rw [spelled]
    exact Parts.firm_text spells.firm
  | composite found members opens composed =>
    obtain ⟨word, spells, spelled⟩ := composed.exists_spelling
    rw [spelled]
    exact Parts.firm_text spells.firm
  | placeholder refused bare identifier simple =>
    rw [toList_text_placeholder]
    exact Parts.firm_text (firm_of_isIdentifier identifier)

/-- What is read without the mark of names is read off its canonical text. -/
theorem ReadsText.readsText_text {text : List Char} {template : Template} (unmarked : '!' ∉ text)
    (read : ReadsText text template) : ReadsText template.text.toList template := by
  induction text using Parts.text_induction generalizing template with
  | step text ih =>
    obtain ⟨parts, level, reads⟩ := read.exists_level
    have inside := Parts.readFrom_ofText level
    cases reads with
    | concrete typeReads =>
      have typeRead := typeReads.readsText level
      -- without the mark of names there are no names, so that all of them are plain
      refine .of_type (DataType.readsText_text typeRead.wellFormed fun name member => ?_)
      exact absurd (typeRead.mem_of_mem_userDefinedNames member) unmarked
    | openAtom found opens stands =>
      obtain ⟨word, spells, spelled⟩ := stands.exists_spelling
      have tidy : Parts.Tidy ⟨word, some parts.parameters, parts.nullability⟩ :=
        spells.tidy parts.nullability inside.parameters_firm inside.parameters_separable
      rw [spelled]
      exact (readsText_iff tidy.ofText_text).2 (.openAtom spells.find?_lowercase opens stands)
    | @composite _ children _ found members opens composed =>
      obtain ⟨word, spells, spelled⟩ := composed.exists_spelling
      have unmarkedInside : ∀ parameter ∈ parts.parameters, '!' ∉ parameter :=
        fun parameter cut marked => unmarked (inside.mem_of_mem_parameter parameter cut '!' marked)
      have firm : ∀ spelling ∈ children.map fun child => child.text.toList, Firm spelling := by
        refine List.forall_mem_map.2 fun child among => ?_
        obtain ⟨parameter, cut, readInside⟩ := exists_mem_of_forall₂ members among
        exact readInside.firm_text
      -- the spellings need not be closed, but each is nested like the parameter it was read from
      have separable : Separable (children.map fun child => child.text.toList) := by
        refine inside.parameters_separable.congr ?_
        rw [List.forall₂_map_right_iff]
        exact members.imp fun parameter child read => read.nestedAlike
      have tidy : Parts.Tidy ⟨word, some (children.map fun child => child.text.toList),
          parts.nullability⟩ :=
        spells.tidy parts.nullability firm separable
      have again : List.Forall₂ ReadsText (children.map fun child => child.text.toList) children := by
        rw [List.forall₂_map_left_iff, List.forall₂_same]
        intro child among
        obtain ⟨parameter, cut, readInside⟩ := exists_mem_of_forall₂ members among
        exact ih parts level parameter cut (unmarkedInside parameter cut) readInside
      rw [spelled]
      exact (readsText_iff tidy.ofText_text).2
        (.composite spells.find?_lowercase again opens composed)
    | placeholder refused bare identifier simple =>
      have tidy : Parts.Tidy ⟨parts.keyword, none, .required⟩ :=
        Parts.tidy_of_isIdentifier identifier _ nofun trivial
      -- a question mark behind the name is lost, which does not make the name a type
      have refusedAgain : ∀ type, ¬ DataType.ReadsLevel ⟨parts.keyword, none, .required⟩ type := by
        intro type reads
        have marked := reads.withNullability parts.nullability
        rw [← bare] at marked
        exact refused _ marked
      rw [toList_text_placeholder]
      exact (readsText_iff tidy.ofText_text).2 (.placeholder refusedAgain rfl identifier simple)

/-- **Templates are read back from their canonical texts**: what a text without the mark of names is
read as is what its canonical text is read as. -/
theorem parse_text_of_parse {text : String} {template : Template} (unmarked : '!' ∉ text.toList)
    (read : parse text = .ok template) : parse template.text = .ok template :=
  ReadsText.readsText_text unmarked read

/-- A struct with open parts of every sort. -/
def openStruct : Template :=
  struct [placeholder "any1", list (sized .varChar "a>b" .nullable) .required,
    decimal "05" "S" .required, concrete (.atom (.precise .timestamp 6) .required),
    concrete (.struct [] .nullable)] .required

/-- The struct is read off a text with blanks, capitals and a bracket that does not match, and again off
`struct<any1,list<varchar<a>b>?>,decimal<05,S>,precision_timestamp<6>,struct<>?>`. -/
theorem parse_text_openStruct :
    '!' ∉ "Struct< any1? , list< VARCHAR<a>b> ? > , decimal< 05 , S> ,timestamp, struct ?>".toList ∧
    parse "Struct< any1? , list< VARCHAR<a>b> ? > , decimal< 05 , S> ,timestamp, struct ?>" =
      .ok openStruct ∧
    parse openStruct.text = .ok openStruct := by
  have unmarked : '!' ∉
      "Struct< any1? , list< VARCHAR<a>b> ? > , decimal< 05 , S> ,timestamp, struct ?>".toList := by
    decide
  have read : parse
      "Struct< any1? , list< VARCHAR<a>b> ? > , decimal< 05 , S> ,timestamp, struct ?>" =
      .ok openStruct := by
    decide +kernel
  exact ⟨unmarked, read, parse_text_of_parse unmarked read⟩

end QueryPlan.Template

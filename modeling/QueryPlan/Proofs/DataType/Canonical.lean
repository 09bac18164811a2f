import QueryPlan.Proofs.DataType.RoundTrip

/-! # Types read and written again
Whatever the spelling of a text that is read as a type, the canonical text of the type is read as the
same type again, with one exception (`DataType.parse_text_iff_of_parse`). An empty pair of brackets may
stand behind a name, and then a question mark in front of it belongs to the name. The canonical text
has no such brackets, so that the mark is taken for that of a nullable type
(`DataType.not_parse_text_of_parse`). Brackets, commas and blanks in a name do no harm: a name that was
read in some place is read again in that place. -/

namespace QueryPlan.DataType

open Text

/-! ## Clear names -/

/-- The names in a type are **clear** when none that ends in a question mark belongs to a required
type. -/
def ClearNames (type : DataType) : Prop :=
  ∀ name, atom (.userDefined name) .required ∈ type.nodes → name.toList.getLast? ≠ some '?'

/-- A type without names has clear names. -/
theorem clearNames_of_unnamed {kind : Atom} {null : Nullability}
    (unnamed : (atom kind null).userDefinedNames = []) : (atom kind null).ClearNames := by
  intro name member
  obtain ⟨⟩ := List.mem_singleton.1 member
  cases unnamed

/-- A name is clear unless it ends in a question mark and belongs to a required type. -/
theorem clearNames_userDefined_iff {name : String} {null : Nullability} :
    (atom (.userDefined name) null).ClearNames ↔
      (null = .required → name.toList.getLast? ≠ some '?') := by
  constructor
  · rintro clear rfl
    exact clear name List.mem_cons_self
  · intro unmarked other member
    obtain ⟨⟩ := List.mem_singleton.1 member
    exact unmarked rfl

/-- A composed type has clear names when its components have. -/
theorem Composed.clearNames_iff {null : Nullability} {keyword : Keyword} {components : List DataType}
    {type : DataType} (composed : Composed null keyword components type) :
    type.ClearNames ↔ ∀ component ∈ components, component.ClearNames := by
  have composite : ∀ name, atom (.userDefined name) .required ≠ type := by
    rintro name rfl
    cases composed
  constructor
  · intro clear component member name inside
    refine clear name ?_
    rw [composed.nodes_eq]
    exact List.mem_cons_of_mem _ (List.mem_flatMap.2 ⟨component, member, inside⟩)
  · intro clear name inside
    rw [composed.nodes_eq] at inside
    obtain same | below := List.mem_cons.1 inside
    · exact absurd same (composite name)
    · obtain ⟨component, member, node⟩ := List.mem_flatMap.1 below
      exact clear component member name node

/-! ## Reading again -/

/-- The keyword of a name that was read has no blanks at its ends. -/
theorem firm_keyword_of_marked {text name : List Char} {parts : Parts}
    (level : Parts.ofText text = .ok parts) (marked : userDefinedName? parts.keyword = some name) :
    Firm parts.keyword := by
  have keyword := userDefinedName?_eq_some_iff.1 marked
  have filled : parts.keyword ≠ [] := by
    rw [keyword]
    exact List.cons_ne_nil _ _
  exact Parts.firm_keyword level filled

/-- What is read as a type is written without blanks around it. -/
theorem ReadsText.firm_text {text : List Char} {type : DataType} (read : ReadsText text type) :
    Firm type.text.toList := by
  obtain ⟨parts, level, reads⟩ := read.exists_level
  cases reads with
  | userDefined marked bare inBounds =>
    have firm := firm_keyword_of_marked level marked
    rw [userDefinedName?_eq_some_iff.1 marked] at firm
    rw [toList_text_userDefined, String.toList_ofList]
    exact Parts.firm_text firm
  | atom found reads inBounds =>
    refine DataType.firm_text ?_
    rw [reads.userDefinedNames_eq found]
    exact nofun
  | composite found members composed =>
    obtain ⟨word, spells, spelled⟩ := composed.exists_spelling
    rw [spelled]
    exact Parts.firm_text spells.firm

/-- **Names.** A type known by name that was read is read again exactly when its name is clear. -/
theorem readsText_text_userDefined_iff {name : List Char} {null : Nullability}
    (firm : Firm ('u' :: '!' :: name)) (unopened : '<' ∉ 'u' :: '!' :: name)
    (inBounds : (Atom.userDefined (String.ofList name)).InBounds) :
    ReadsText (atom (.userDefined (String.ofList name)) null).text.toList
        (atom (.userDefined (String.ofList name)) null) ↔
      (atom (.userDefined (String.ofList name)) null).ClearNames := by
  have sameEnd : ('u' :: '!' :: name).getLast? = some '?' ↔ name.getLast? = some '?' := by
    cases name with
    | nil => decide
    | cons c name => rw [List.getLast?_cons_cons, List.getLast?_cons_cons]
  rw [clearNames_userDefined_iff, toList_text_userDefined, String.toList_ofList]
  constructor
  · -- a mark at the end of a required name would make the type nullable
    rintro read rfl last
    have bare : Parts.text ⟨'u' :: '!' :: name, none, .required⟩ = 'u' :: '!' :: name := by
      simp [Parts.text, Parts.brackets, Nullability.mark]
    rw [bare] at read
    obtain ⟨parts, level, reads⟩ := read.exists_level
    have nullable := Parts.nullability_of_marked firm (sameEnd.2 last) level
    have required := reads.nullability_eq
    rw [nullable] at required
    cases required
  · intro unmarked
    have level : Parts.ofText (Parts.text ⟨'u' :: '!' :: name, none, null⟩) =
        .ok ⟨'u' :: '!' :: name, none, null⟩ :=
      Parts.ofText_text_bare firm unopened fun required => mt sameEnd.1 (unmarked required)
    exact (readsText_iff level).2 (.userDefined rfl rfl inBounds)

/-- **What was read is read again** off its canonical text exactly when its names are clear. -/
theorem ReadsText.readsText_text_iff {text : List Char} {type : DataType}
    (read : ReadsText text type) : ReadsText type.text.toList type ↔ type.ClearNames := by
  induction text using Parts.text_induction generalizing type with
  | step text ih =>
    obtain ⟨parts, level, reads⟩ := read.exists_level
    have inside := Parts.readFrom_ofText level
    cases reads with
    | userDefined marked bare inBounds =>
      have firm := firm_keyword_of_marked level marked
      have unopened := inside.keyword_unopened
      rw [userDefinedName?_eq_some_iff.1 marked] at firm unopened
      exact readsText_text_userDefined_iff firm unopened inBounds
    | @atom form kind found numbers inBounds =>
      have unnamed : (DataType.atom kind parts.nullability).userDefinedNames = [] :=
        numbers.userDefinedNames_eq found parts.nullability
      have noNames : ∀ name ∈ (DataType.atom kind parts.nullability).userDefinedNames,
          PlainName name := by
        rw [unnamed]
        exact nofun
      exact iff_of_true (readsText_text inBounds noNames) (clearNames_of_unnamed unnamed)
    | @composite keyword components _ found members composed =>
      have readInside : ∀ component ∈ components, ∃ parameter ∈ parts.parameters,
          ReadsText parameter component := fun component member =>
        exists_mem_of_forall₂ members member
      -- the names may hold brackets, but each component is nested like the parameter it was read from
      have separable : Separable (components.map fun component => component.text.toList) := by
        refine inside.parameters_separable.congr ?_
        rw [List.forall₂_map_right_iff]
        exact members.imp fun parameter component read => read.nestedAlike
      rw [composed.clearNames_iff, composed.readsText_text_iff ?_ separable]
      · refine forall₂_congr fun component member => ?_
        obtain ⟨parameter, cut, read⟩ := readInside component member
        exact ih parts level parameter cut read
      · intro component member
        obtain ⟨parameter, -, read⟩ := readInside component member
        exact read.firm_text

/-- **Canonical texts of types that were read.** If a text is read as a type, the canonical text of the
type is read as the same type exactly when no required type in it has a name that ends in a question
mark. -/
theorem parse_text_iff_of_parse {text : String} {type : DataType} (read : parse text = .ok type) :
    parse type.text = .ok type ↔
      ∀ name, atom (.userDefined name) .required ∈ type.nodes → name.toList.getLast? ≠ some '?' :=
  ReadsText.readsText_text_iff read

/-- A struct with names that are hard to tell from what stands around them. -/
def oddlyNamed : DataType :=
  struct [atom (.userDefined "a>") .required, list (atom (.userDefined "b>c ?") .nullable) .required,
    atom (.userDefined " d") .required, struct [] .nullable] .nullable

/-- The struct is read off a text with blanks and empty brackets, and again off its canonical text
`struct<u!a>,list<u!b>c ??>,u! d,struct<>?>?`. -/
theorem parse_text_oddlyNamed :
    parse "Struct<u!a> <>, list< u!b>c ? ?> , u! d , struct ?> ?" = .ok oddlyNamed ∧
      (∀ name, atom (.userDefined name) .required ∈ oddlyNamed.nodes →
        name.toList.getLast? ≠ some '?') ∧
      parse oddlyNamed.text = .ok oddlyNamed := by
  have read : parse "Struct<u!a> <>, list< u!b>c ? ?> , u! d , struct ?> ?" = .ok oddlyNamed := by
    decide +kernel
  have clear : ∀ name, atom (.userDefined name) .required ∈ oddlyNamed.nodes →
      name.toList.getLast? ≠ some '?' := by
    intro name member
    have required : name = "a>" ∨ name = " d" := by
      simpa [oddlyNamed, nodes, allNodes] using member
    obtain rfl | rfl := required
    · decide
    · decide
  exact ⟨read, clear, (parse_text_iff_of_parse read).2 clear⟩

/-- **A mark in front of empty brackets is lost**: it is read as part of the name of a required type,
whose canonical text is read as another, nullable type. -/
theorem not_parse_text_of_parse :
    parse "u!a?<>" = .ok (atom (.userDefined "a?") .required) ∧
      parse (atom (.userDefined "a?") .required).text = .ok (atom (.userDefined "a") .nullable) := by
  decide +kernel

end QueryPlan.DataType

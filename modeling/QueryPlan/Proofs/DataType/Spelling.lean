import QueryPlan.DataType.Printer
import QueryPlan.Proofs.DataType.Reading
import QueryPlan.Proofs.TypeText.Level

/-! # Canonical spelling of types
The canonical text of a type as one written level: its keyword, with the canonical texts of its
parameters. A type is spelled with matching brackets, as long as the names in it have no brackets and
no commas. -/

namespace QueryPlan

open Text

/-- A keyword with parameters, as characters. -/
theorem toList_bracketed (keyword : String) (parameters : List String) :
    (bracketed keyword parameters).toList =
      keyword.toList ++ Parts.brackets (some (parameters.map String.toList)) := by
  simp [bracketed, Parts.brackets, String.toList_intercalate]

/-- A keyword with parameters and a question mark or none, as a level. -/
theorem toList_bracketed_mark (keyword : String) (parameters : List String) (null : Nullability) :
    (bracketed keyword parameters ++ null.mark).toList =
      Parts.text ⟨keyword.toList, some (parameters.map String.toList), null⟩ := by
  rw [String.toList_append, toList_bracketed, Parts.text]

/-! ## Keywords and parameters -/

/-- An atom that is not known by name is spelled with a keyword and numbers. -/
theorem Atom.exists_spelling {kind : Atom} (known : ¬ ∃ name, kind = .userDefined name)
    (null : Nullability) :
    ∃ form word parameters?, Keyword.Spells (.atom form) word ∧
      form.Reads (parameters?.getD []) kind ∧
      (DataType.atom kind null).text.toList = Parts.text ⟨word, parameters?, null⟩ := by
  cases kind with
  | plain kind =>
    refine ⟨.fixed (.plain kind), kind.keyword.toList, none, Keyword.spells_plain kind, .fixed _, ?_⟩
    simp [DataType.text, Atom.text, Parts.text, Parts.brackets]
  | sized kind length =>
    exact ⟨.sized kind, kind.keyword.toList, some [(toString length).toList],
      Keyword.spells_sized kind, .sized (readLength?_toString length), toList_bracketed_mark _ _ _⟩
  | precise kind precision =>
    exact ⟨.precise kind, kind.keyword.toList, some [(toString precision).toList],
      Keyword.spells_precise kind, .precise (readPrecision?_toString precision),
      toList_bracketed_mark _ _ _⟩
  | decimal precision scale =>
    exact ⟨.decimal, "decimal".toList, some [(toString precision).toList, (toString scale).toList],
      Keyword.spells_decimal,
      .decimal (readPrecision?_toString precision) (readPrecision?_toString scale),
      toList_bracketed_mark _ _ _⟩
  | userDefined name => exact absurd ⟨name, rfl⟩ known

/-- A composed type is spelled with a keyword and the spellings of its components. -/
theorem DataType.Composed.exists_spelling {null : Nullability} {keyword : Keyword}
    {components : List DataType} {type : DataType} (composed : Composed null keyword components type) :
    ∃ word, keyword.Spells word ∧ type.text.toList =
      Parts.text ⟨word, some (components.map fun component => component.text.toList), null⟩ := by
  cases composed with
  | struct =>
    refine ⟨"struct".toList, Keyword.spells_struct, ?_⟩
    rw [text, texts_eq_map, toList_bracketed_mark, List.map_map]
    rfl
  | list element => exact ⟨"list".toList, Keyword.spells_list, toList_bracketed_mark _ _ _⟩
  | map key value => exact ⟨"map".toList, Keyword.spells_map, toList_bracketed_mark _ _ _⟩

/-! ## Names -/

/-- A type known by name only is spelled with its name behind the mark. -/
theorem toList_text_userDefined (name : String) (null : Nullability) :
    (DataType.atom (.userDefined name) null).text.toList =
      Parts.text ⟨'u' :: '!' :: name.toList, none, null⟩ := by
  simp [DataType.text, Atom.text, userDefinedMark, Parts.text, Parts.brackets]

/-- A name is **plain** when it has neither brackets nor commas, and ends neither in a blank nor in a
question mark. -/
structure PlainName (name : String) : Prop where
  /-- No bracket and no comma stands in the name. -/
  flat : Flat name.toList
  /-- The name does not end in a blank. -/
  visible : ∀ c, name.toList.getLast? = some c → isBlank c = false
  /-- The name does not end in a question mark. -/
  unmarked : name.toList.getLast? ≠ some '?'

/-- A plain name behind its mark is a tidy level. -/
theorem PlainName.tidy {name : String} (plain : PlainName name) (null : Nullability) :
    Parts.Tidy ⟨'u' :: '!' :: name.toList, none, null⟩ where
  keyword_firm := by
    refine ⟨⟨'u', rfl, by decide⟩, ?_⟩
    rw [EndsFirm, List.getLast?_cons_cons]
    cases last : name.toList.getLast? with
    | none =>
      rw [List.getLast?_eq_none_iff] at last
      rw [last]
      exact ⟨'!', rfl, by decide⟩
    | some c =>
      refine ⟨c, ?_, plain.visible c last⟩
      rw [List.getLast?_cons, last, Option.getD_some]
  keyword_unopened := by
    simp only [List.mem_cons, not_or]
    exact ⟨by decide, by decide, fun member => (plain.flat '<' member).1 rfl⟩
  keyword_unmarked _ := by
    rw [List.getLast?_cons_cons, List.getLast?_cons]
    cases last : name.toList.getLast? with
    | none => decide
    | some c => exact last ▸ plain.unmarked
  parameters_firm := nofun
  parameters_separable := trivial

/-! ## Firm ends and matching brackets -/

/-- The parameters of an atom have no blanks. -/
theorem AtomForm.Reads.firm {form : AtomForm} {parameters : List (List Char)} {kind : Atom}
    (reads : form.Reads parameters kind) : ∀ parameter ∈ parameters, Firm parameter := by
  intro parameter member
  obtain ⟨value, numeral⟩ := reads.exists_numeral member
  exact firm_of_readNumeral? numeral

/-- A type with plain names is spelled without blanks around it. -/
theorem DataType.firm_text {type : DataType} (plain : ∀ name ∈ type.userDefinedNames, PlainName name) :
    Firm type.text.toList := by
  cases type using DataType.induction with
  | atom kind null =>
    by_cases named : ∃ name, kind = .userDefined name
    · obtain ⟨name, rfl⟩ := named
      rw [toList_text_userDefined]
      exact Parts.firm_text ((plain name List.mem_cons_self).tidy null).keyword_firm
    · obtain ⟨form, word, parameters?, spells, -, spelled⟩ := Atom.exists_spelling named null
      rw [spelled]
      exact Parts.firm_text spells.firm
  | composed composed _ =>
    obtain ⟨word, spells, spelled⟩ := composed.exists_spelling
    rw [spelled]
    exact Parts.firm_text spells.firm

/-- The parameters of an atom have neither brackets nor commas. -/
theorem AtomForm.Reads.closed {form : AtomForm} {parameters : List (List Char)} {kind : Atom}
    (reads : form.Reads parameters kind) : ∀ parameter ∈ parameters, Closed parameter := by
  intro parameter member
  obtain ⟨value, numeral⟩ := reads.exists_numeral member
  exact (flat_of_readNumeral? numeral).closed

/-- **A type is spelled with matching brackets** when the names in it have neither brackets nor
commas. -/
theorem DataType.closed_text {type : DataType}
    (flat : ∀ name ∈ type.userDefinedNames, Flat name.toList) : Closed type.text.toList := by
  induction type using DataType.induction with
  | atom kind null =>
    by_cases named : ∃ name, kind = .userDefined name
    · obtain ⟨name, rfl⟩ := named
      have marked : Flat ('u' :: '!' :: name.toList) := by
        have inside := flat name List.mem_cons_self
        exact List.forall_mem_cons.2 ⟨by decide, List.forall_mem_cons.2 ⟨by decide, inside⟩⟩
      rw [toList_text_userDefined]
      exact Parts.closed_text marked.closed nofun
    · obtain ⟨form, word, parameters?, spells, reads, spelled⟩ := Atom.exists_spelling named null
      rw [spelled]
      exact Parts.closed_text spells.closed reads.closed
  | @composed null keyword components type composed ih =>
    obtain ⟨word, spells, spelled⟩ := composed.exists_spelling
    rw [spelled]
    refine Parts.closed_text spells.closed ?_
    refine List.forall_mem_map.2 fun component member => ih component member fun name inside => ?_
    rw [composed.userDefinedNames_eq] at flat
    exact flat name (List.mem_flatMap.2 ⟨component, member, inside⟩)

end QueryPlan

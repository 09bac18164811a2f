import QueryPlan.Proofs.DataType.Spelling
import QueryPlan.Proofs.Text.Balance

/-! # Types read back from their canonical texts
A well-formed type is read back from its canonical text, provided the names in it can be told from what
stands around them (`DataType.parse_text`). Conversely, a text that is read as a type is nested like
the canonical text of the type, whatever its spelling. The reader never counts brackets as a whole, and
where one is closed that was never opened it splits on as if nothing had happened; but a text with such
brackets is refused at some level, unless they belong to a name (`DataType.balanced_of_parse`). -/

namespace QueryPlan

open Text

namespace DataType

/-! ## From types to texts and back -/

/-- A composed type is read off its canonical text exactly when each component is read off its own, as
long as the texts of the components can be told apart. -/
theorem Composed.readsText_text_iff {null : Nullability} {keyword : Keyword}
    {components : List DataType} {type : DataType} (composed : Composed null keyword components type)
    (firm : ∀ component ∈ components, Firm component.text.toList)
    (separable : Separable (components.map fun component => component.text.toList)) :
    ReadsText type.text.toList type ↔
      ∀ component ∈ components, ReadsText component.text.toList component := by
  obtain ⟨word, spells, spelled⟩ := composed.exists_spelling
  have tidy : Parts.Tidy
      ⟨word, some (components.map fun component => component.text.toList), null⟩ :=
    spells.tidy null (List.forall_mem_map.2 firm) separable
  have members : List.Forall₂ ReadsText (components.map fun component => component.text.toList)
      components ↔ ∀ component ∈ components, ReadsText component.text.toList component := by
    rw [List.forall₂_map_left_iff, List.forall₂_same]
  rw [spelled, readsText_iff tidy.ofText_text, ← members]
  constructor
  · intro reads
    exact reads.members_of_composed composed
  · intro each
    exact .composite spells.find?_lowercase each composed

/-- A well-formed type with plain names is read off its canonical text. -/
theorem readsText_text {type : DataType} (wellFormed : type.WellFormed)
    (plain : ∀ name ∈ type.userDefinedNames, PlainName name) : ReadsText type.text.toList type := by
  induction type using DataType.induction with
  | atom kind null =>
    by_cases named : ∃ name, kind = .userDefined name
    · obtain ⟨name, rfl⟩ := named
      have tidy := (plain name List.mem_cons_self).tidy null
      have marked : ReadsLevel ⟨'u' :: '!' :: name.toList, none, null⟩
          (atom (.userDefined (String.ofList name.toList)) null) :=
        .userDefined rfl rfl (by rwa [String.ofList_toList])
      rw [String.ofList_toList] at marked
      rw [toList_text_userDefined]
      exact marked.readsText tidy.ofText_text
    · obtain ⟨form, word, parameters?, spells, reads, spelled⟩ := Atom.exists_spelling named null
      have tidy : Parts.Tidy ⟨word, parameters?, null⟩ :=
        spells.tidy null reads.firm (separable_of_closed reads.closed)
      rw [spelled]
      exact (readsText_iff tidy.ofText_text).2 (.atom spells.find?_lowercase reads wellFormed)
  | @composed null keyword components type composed ih =>
    rw [composed.wellFormed_iff] at wellFormed
    rw [composed.userDefinedNames_eq, List.forall_mem_flatMap] at plain
    refine (composed.readsText_text_iff (fun component member => firm_text (plain component member))
      (separable_of_closed ?_)).2 ?_
    · -- the spellings of the components are closed, so only the commas between them cut
      exact List.forall_mem_map.2 fun component member =>
        closed_text fun name inside => (plain component member name inside).flat
    · exact fun component member => ih component member (wellFormed component member)
        (plain component member)

/-- **Types are read back from their canonical texts**: a well-formed type with plain names is what its
text is read as. -/
theorem parse_text {type : DataType} (wellFormed : type.WellFormed)
    (plain : ∀ name ∈ type.userDefinedNames, PlainName name) : parse type.text = .ok type :=
  readsText_text wellFormed plain

/-- Prices by place: a nullable map whose keys are known by name only and whose values are nested. -/
def pricesByPlace : DataType :=
  map (atom (.userDefined "geo point") .nullable)
    (list (struct [atom (.decimal 38 10) .nullable, atom (.precise .timestamp 6) .required,
      struct [] .nullable] .required) .nullable) .nullable

/-- The prices are read back from
`map<u!geo point?,list<struct<decimal<38,10>?,precision_timestamp<6>,struct<>?>>?>?`. -/
theorem parse_text_pricesByPlace :
    pricesByPlace.WellFormed ∧ (∀ name ∈ pricesByPlace.userDefinedNames, PlainName name) ∧
      parse pricesByPlace.text = .ok pricesByPlace := by
  have wellFormed : pricesByPlace.WellFormed := by
    simp [pricesByPlace, WellFormed, AllWellFormed, Atom.InBounds]
    decide
  have plain : ∀ name ∈ pricesByPlace.userDefinedNames, PlainName name := by
    have names : pricesByPlace.userDefinedNames = ["geo point"] := rfl
    rw [names, List.forall_mem_singleton]
    refine ⟨by decide, fun c last => ?_, by decide⟩
    obtain rfl : 't' = c := by simpa using last
    decide
  exact ⟨wellFormed, plain, parse_text wellFormed plain⟩

/-! ## From texts to types -/

/-- What is read as a type is well formed. -/
theorem ReadsText.wellFormed {text : List Char} {type : DataType}
    (read : ReadsText text type) : type.WellFormed := by
  induction text using Parts.text_induction generalizing type with
  | step text ih =>
    obtain ⟨parts, level, reads⟩ := read.exists_level
    cases reads with
    | userDefined marked bare inBounds => exact inBounds
    | atom found reads inBounds => exact inBounds
    | composite found members composed =>
      rw [composed.wellFormed_iff]
      intro component member
      obtain ⟨parameter, inside, readInside⟩ := exists_mem_of_forall₂ members member
      exact ih parts level parameter inside readInside

/-- A name is read only behind its mark. -/
theorem ReadsText.mem_of_mem_userDefinedNames {text : List Char} {type : DataType}
    (read : ReadsText text type) {name : String}
    (member : name ∈ type.userDefinedNames) : '!' ∈ text := by
  induction text using Parts.text_induction generalizing type with
  | step text ih =>
    obtain ⟨parts, level, reads⟩ := read.exists_level
    have inside := Parts.readFrom_ofText level
    cases reads with
    | userDefined marked bare inBounds =>
      have keyword := userDefinedName?_eq_some_iff.1 marked
      exact inside.mem_of_mem_keyword '!' (by simp [keyword])
    | atom found reads inBounds =>
      rw [reads.userDefinedNames_eq found] at member
      cases member
    | composite found members composed =>
      rw [composed.userDefinedNames_eq] at member
      obtain ⟨component, among, named⟩ := List.mem_flatMap.1 member
      obtain ⟨parameter, cut, readInside⟩ := exists_mem_of_forall₂ members among
      exact inside.mem_of_mem_parameter parameter cut '!' (ih parts level parameter cut readInside named)

/-- **A text that is read as a type is nested like the canonical text of the type**. -/
theorem ReadsText.nestedAlike {text : List Char} {type : DataType}
    (read : ReadsText text type) : NestedAlike text type.text.toList := by
  induction text using Parts.text_induction generalizing type with
  | step text ih =>
    obtain ⟨parts, level, reads⟩ := read.exists_level
    refine (Parts.readFrom_ofText level).alike.trans ?_
    cases reads with
    | userDefined marked bare inBounds =>
      -- the name need not be plain: it is the same on both sides
      have keyword := userDefinedName?_eq_some_iff.1 marked
      rw [toList_text_userDefined, String.toList_ofList, ← keyword]
      refine Parts.nestedAlike_text (.refl _) ?_
      rw [bare]
      exact .nil
    | @atom form kind found reads inBounds =>
      -- a keyword may stand for parameters that were not written, so both sides are compared with none
      have names := reads.userDefinedNames_eq found parts.nullability
      have spelled : Closed (atom kind parts.nullability).text.toList :=
        closed_text (by rw [names]; exact nofun)
      have keyword := Keyword.flat_of_find?_lowercase found
      exact (Parts.closed_text keyword.closed reads.closed).trans spelled.symm
    | composite found members composed =>
      obtain ⟨word, spells, spelled⟩ := composed.exists_spelling
      have alike := (List.forall₂_and_left _ _).2 ⟨ih parts level, members⟩
      rw [spelled]
      refine Parts.nestedAlike_text (spells.nestedAlike found) ?_
      rw [Parts.parameters_some, List.forall₂_map_right_iff]
      exact alike.imp fun parameter component ⟨nested, read⟩ => nested read

/-- **Only balanced texts are read** as types: a text without the mark of a name that is read has
balanced brackets. -/
theorem balanced_of_parse {text : String} {type : DataType} (unmarked : '!' ∉ text.toList)
    (read : parse text = .ok type) : Balanced text.toList := by
  have reads : ReadsText text.toList type := read
  have unnamed : ∀ name ∈ type.userDefinedNames, Flat name.toList := fun name member =>
    absurd (reads.mem_of_mem_userDefinedNames member) unmarked
  exact (closed_iff.1 (reads.nestedAlike.trans (closed_text unnamed))).1

/-- A text with blanks and brackets on several levels is read, and balanced. -/
theorem balanced_of_parse_records :
    '!' ∉ "Struct < list<struct<i32?, map<DATE,decimal<10,2>>>> ,struct< >? > ?".toList ∧
      parse "Struct < list<struct<i32?, map<DATE,decimal<10,2>>>> ,struct< >? > ?" = .ok
        (struct [list (struct [atom (.plain .i32) .nullable,
            map (plain .date) (atom (.decimal 10 2) .required) .required] .required) .required,
          struct [] .nullable] .nullable) ∧
      Balanced "Struct < list<struct<i32?, map<DATE,decimal<10,2>>>> ,struct< >? > ?".toList := by
  have unmarked :
      '!' ∉ "Struct < list<struct<i32?, map<DATE,decimal<10,2>>>> ,struct< >? > ?".toList := by decide
  have read : parse "Struct < list<struct<i32?, map<DATE,decimal<10,2>>>> ,struct< >? > ?" = .ok
      (struct [list (struct [atom (.plain .i32) .nullable,
          map (plain .date) (atom (.decimal 10 2) .required) .required] .required) .required,
        struct [] .nullable] .nullable) := by decide +kernel
  exact ⟨unmarked, read, balanced_of_parse unmarked read⟩

end DataType

end QueryPlan

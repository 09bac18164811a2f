import QueryPlan.Proofs.Expression.Typing
import QueryPlan.Proofs.Wire.Levels

/-! # What is read is constructed
The readers of the wire format build literals and expressions with the checked constructors and with no
others, so that whatever wire value an expression is read from, constructors give it as well
(`Expression.gives_ofWire`). What holds at the nodes of every constructed expression holds of those that
are read: each literal has a value of its type, and the parts of each conditional fit together. -/

namespace QueryPlan

open Outcome
open Wire (Value Reader)

/-! ## Readers -/

namespace Wire

variable {α : Type} {read : Reader α} {property : α → Prop}

/-- A reader **gives** only parts with a property when everything it reads has the property. -/
def Gives (read : Reader α) (property : α → Prop) : Prop :=
  ∀ ⦃value part⦄, read value = .ok part → property part

/-- A member of an object is read by the reader it is given. -/
theorem Gives.member (gives : Gives read property) (name : String) :
    Gives (readMember name read) property := by
  intro value part readPart
  obtain ⟨content, -, readContent⟩ := bind_eq_ok_iff.1 readPart
  exact gives readContent

/-- Each value of a list is read by the reader it is given. -/
theorem Gives.each (gives : Gives read property) {values : List Value} {parts : List α}
    (readParts : readEach read values = .ok parts) : ∀ part ∈ parts, property part := by
  induction values generalizing parts with
  | nil =>
    cases readParts
    exact nofun
  | cons value values ih =>
    simp only [readEach, bind_eq_ok_iff, pure_eq_ok_iff] at readParts
    obtain ⟨first, readFirst, rest, readRest, rfl⟩ := readParts
    exact List.forall_mem_cons.2 ⟨gives readFirst, ih readRest⟩

/-- Every part of a list is read by the reader it is given. -/
theorem Gives.list (gives : Gives read property) :
    Gives (readList read) fun parts => ∀ part ∈ parts, property part := by
  intro value parts readParts
  cases value with
  | array items => exact gives.each readParts
  | null | boolean | integer | single | double | string | object => cases readParts

end Wire

open Wire (Gives)

/-! ## Literals -/

/-- A literal that is read is constructed: its value is given its type by the checked constructor. -/
theorem Literal.gives_ofWire : Gives Literal.ofWire Literal.Constructed := by
  intro value literal readLiteral
  simp only [ofWire, bind_eq_ok_iff] at readLiteral
  obtain ⟨content, -, type, -, checked⟩ := readLiteral
  exact .typed (mapError_eq_ok_iff.1 checked)

/-! ## Expressions -/

namespace Expression

variable {read : Reader Expression}

/-- The condition and the result of a clause are read by the reader of expressions. -/
theorem gives_clauseOfWire (gives : Gives read Constructed) :
    Gives (clauseOfWire read) fun clause => clause.1.Constructed ∧ clause.2.Constructed := by
  intro value clause readClause
  simp only [clauseOfWire, bind_eq_ok_iff, pure_eq_ok_iff] at readClause
  obtain ⟨condition, readCondition, result, readResult, rfl⟩ := readClause
  exact ⟨gives.member _ readCondition, gives.member _ readResult⟩

/-- A conditional that is read is built again from its clauses and its last expression, and is nothing
but what they give. -/
theorem gives_conditionalOfWire (gives : Gives read Constructed) :
    Gives (conditionalOfWire read) Constructed := by
  intro value expression readConditional
  simp only [conditionalOfWire, bind_eq_ok_iff] at readConditional
  obtain ⟨clauses, readClauses, otherwise, readOtherwise, type, -, built, checked, same⟩ :=
    readConditional
  split at same
  case isTrue =>
    cases same
    have inClauses := (gives_clauseOfWire gives).list.member _ readClauses
    exact .conditional (fun clause member => (inClauses clause member).1)
      (fun clause member => (inClauses clause member).2) (gives.member _ readOtherwise)
      (mapError_eq_ok_iff.1 checked)
  case isFalse => cases same

/-- The content of an expression of every form is read into a constructed one, given a reader that gives
constructed parts. -/
theorem gives_ofContent (gives : Gives read Constructed) (form : String) :
    Gives (ofContent read form) Constructed := by
  intro content expression readContent
  unfold ofContent at readContent
  -- one case for each form, in the order of the reader, and one for all other names
  split at readContent
  case h_1 =>
    obtain ⟨constant, readConstant, rfl⟩ := map_eq_ok_iff.1 readContent
    exact .literal (Literal.gives_ofWire readConstant)
  case h_2 =>
    obtain ⟨reference, -, rfl⟩ := map_eq_ok_iff.1 readContent
    exact .field reference
  case h_3 =>
    simp only [bind_eq_ok_iff, pure_eq_ok_iff] at readContent
    obtain ⟨function, -, arguments, readArguments, type, -, rfl⟩ := readContent
    exact .call function type (gives.list.member _ readArguments)
  case h_4 =>
    simp only [bind_eq_ok_iff, pure_eq_ok_iff] at readContent
    obtain ⟨input, readInput, type, -, rfl⟩ := readContent
    exact .cast type (gives.member _ readInput)
  case h_5 => exact gives_conditionalOfWire gives readContent
  case h_6 => cases readContent

/-- **Reading constructs**, at however many levels. -/
theorem gives_ofWireWithin (depth : Nat) : Gives (ofWireWithin depth) Constructed := by
  induction depth with
  | zero =>
    intro value expression readExpression
    cases readExpression
  | succ depth ih =>
    intro value expression readExpression
    obtain ⟨⟨form, content?⟩, -, readContent⟩ := bind_eq_ok_iff.1 readExpression
    cases content? with
    | none => cases readContent
    | some content => exact gives_ofContent ih form readContent

/-- An expression that is read from any wire value is constructed. -/
theorem gives_ofWire : Gives ofWire Constructed := by
  intro value expression readExpression
  exact gives_ofWireWithin value.depth readExpression

/-- **Expressions are well typed, wherever they come from**. What is read from a wire value is given by
constructors. In an expression that constructors give or that is read, at any depth, each literal can be
given its type, to which its value belongs, and the parts of each conditional fit together. -/
theorem wellTyped_of_constructed_or_read :
    (∀ value literal, Literal.ofWire value = .ok literal → literal.Constructed) ∧
    (∀ value expression, ofWire value = .ok expression → expression.Constructed) ∧
    ∀ expression : Expression,
      (expression.Constructed ∨ ∃ value, ofWire value = .ok expression) →
      (∀ constant : Literal, literal constant ∈ expression.nodes →
        Literal.typed constant.value constant.type = .ok constant ∧
          constant.value.BelongsTo constant.type) ∧
      ∀ clauses otherwise type, ifThen clauses otherwise type ∈ expression.nodes →
        Fit clauses otherwise type := by
  refine ⟨Literal.gives_ofWire, gives_ofWire, fun expression source => ?_⟩
  have constructed : expression.Constructed := by
    obtain constructed | ⟨value, readExpression⟩ := source
    · exact constructed
    · exact gives_ofWire readExpression
  have wellTyped := constructed.wellTyped
  refine ⟨fun constant inside => ?_, fun clauses otherwise type inside => ?_⟩
  · have typed : constant.WellTyped := wellTyped _ inside
    exact ⟨typed, Literal.wellTyped_iff_belongsTo.1 typed⟩
  · exact conditional_eq_ok_iff.1 (wellTyped _ inside)

/-- A conditional between a null and a text of at most four characters is read from a wire form that has
its clause as a list and its types in odd spellings. Within a cast of it the text is well typed, though
it takes more bytes than characters, and the conditional allows null for its clause alone. -/
theorem wellTyped_of_constructed_or_read_label :
    let textType : DataType := .atom (.sized .varChar 4) .required
    let condition := literal ⟨.boolean true, .atom (.plain .boolean) .nullable⟩
    let missing := literal ⟨.null, textType.asNullable⟩
    let text : Literal := ⟨.varChar "spät", textType⟩
    let label := ifThen [(condition, missing)] (literal text) textType.asNullable
    let writtenClause : Value := .array
      [.object [("Literal", .array [.object [("Boolean", .boolean true)], .string "BOOLEAN ?"])],
        .object [("Literal", .array [.string "Null", .string "varchar<4>?"])]]
    let writtenText : Value := .object [("Literal", .object
      [("type", .string " VarChar< 4 >"), ("value", .object [("VarChar", .string "spät")])])]
    let written : Value := .object [("IfThen", .object
      [("clauses", .array [writtenClause]), ("otherwise", writtenText),
        ("type", .string "varchar<04> ?")])]
    ofWire written = .ok label ∧ (cast label (.plain .string)).Constructed ∧
      Literal.typed text.value text.type = .ok text ∧ text.value.BelongsTo text.type ∧
      Fit [(condition, missing)] (literal text) textType.asNullable := by
  intro textType condition missing text label writtenClause writtenText written
  have readLabel : ofWire written = .ok label := by
    have readClause : clauseOfWire ofWire writtenClause = .ok (condition, missing) := by
      decide +kernel
    have readClauses : Wire.readEach (clauseOfWire ofWire) [writtenClause] =
        .ok [(condition, missing)] := bind_eq_ok_iff.2 ⟨_, readClause, rfl⟩
    have readText : ofWire writtenText = .ok (literal text) := by decide +kernel
    have readType : DataType.ofWire (.string "varchar<04> ?") = .ok textType.asNullable := by
      decide +kernel
    have built : conditional [(condition, missing)] (literal text) = .ok label := by decide +kernel
    rw [ofWire_of_choice rfl]
    refine bind_eq_ok_iff.2 ⟨_, readClauses, bind_eq_ok_iff.2 ⟨_, readText, ?_⟩⟩
    refine bind_eq_ok_iff.2 ⟨_, readType, ?_⟩
    exact bind_eq_ok_iff.2 ⟨label, mapError_eq_ok_iff.2 built, if_pos rfl⟩
  obtain ⟨-, constructed, wellTyped⟩ := wellTyped_of_constructed_or_read
  have castConstructed : (cast label (.plain .string)).Constructed :=
    .cast _ (constructed written label readLabel)
  obtain ⟨literals, conditionals⟩ := wellTyped (cast label (.plain .string)) (.inl castConstructed)
  have textInside : literal text ∈ (cast label (.plain .string)).nodes := by decide +kernel
  have labelInside : label ∈ (cast label (.plain .string)).nodes := by decide +kernel
  obtain ⟨typed, belongs⟩ := literals text textInside
  exact ⟨readLabel, castConstructed, typed, belongs, conditionals _ _ _ labelInside⟩

end Expression

end QueryPlan

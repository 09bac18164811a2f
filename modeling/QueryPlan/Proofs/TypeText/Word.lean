import QueryPlan.Template.Parser
import QueryPlan.Proofs.TypeText.Level

/-! # Words of type texts
Every keyword is an identifier, and identifiers have nothing in them that a type text is cut at. A
keyword may be written in capitals, but lowercasing keeps the characters that are no letters, so that
the keyword as it was written has nothing of that kind in it either. `Keyword.Spells` singles out the
spelling that is canonical. -/

namespace QueryPlan

open Text

/-! ## Identifiers -/

/-- The characters of an identifier are visible. -/
theorem isBlank_of_isIdentifierChar {c : Char} (word : Template.isIdentifierChar c = true) :
    isBlank c = false := by
  have upper : c.isUpper = decide (65 ≤ c.val ∧ c.val ≤ 90) := rfl
  have lower : c.isLower = (decide (97 ≤ c.val) && decide (c.val ≤ 122)) := rfl
  have letter : c.isAlpha = (c.isUpper || c.isLower) := rfl
  simp only [Template.isIdentifierChar, Char.isAlphanum, letter, upper, lower, Char.isDigit,
    Bool.or_eq_true, Bool.and_eq_true, decide_eq_true_eq, beq_iff_eq, UInt32.le_iff_toNat_le] at word
  have range : (65 ≤ c.toNat ∧ c.toNat ≤ 90) ∨ (97 ≤ c.toNat ∧ c.toNat ≤ 122) ∨
      (48 ≤ c.toNat ∧ c.toNat ≤ 57) ∨ c.toNat = 95 := by
    obtain ((capital | small) | digit) | rfl := word
    · exact .inl capital
    · exact .inr (.inl small)
    · exact .inr (.inr (.inl digit))
    · exact .inr (.inr (.inr rfl))
  exact isBlank_of_visible (by omega) (by omega)

namespace Template

variable {word : List Char}

/-- The characters of an identifier. -/
theorem isIdentifierChar_of_mem (identifier : isIdentifier word = true) {c : Char}
    (member : c ∈ word) : isIdentifierChar c = true := by
  rw [isIdentifier, Bool.and_eq_true] at identifier
  exact List.all_eq_true.1 identifier.2 c member

/-- An identifier is not empty. -/
theorem ne_nil_of_isIdentifier (identifier : isIdentifier word = true) : word ≠ [] := by
  rintro rfl
  cases identifier

/-- A character that may not stand in an identifier does not. -/
theorem not_mem_of_isIdentifier (identifier : isIdentifier word = true) {c : Char}
    (foreign : isIdentifierChar c = false) : c ∉ word := by
  intro member
  rw [isIdentifierChar_of_mem identifier member] at foreign
  cases foreign

/-- An identifier has neither brackets nor commas. -/
theorem flat_of_isIdentifier (identifier : isIdentifier word = true) : Flat word := by
  intro c member
  refine ⟨?_, ?_, ?_⟩ <;> rintro rfl <;>
    exact not_mem_of_isIdentifier identifier (by decide) member

/-- An identifier has no blanks. -/
theorem firm_of_isIdentifier (identifier : isIdentifier word = true) : Firm word :=
  firm_of_forall (ne_nil_of_isIdentifier identifier) fun _ member =>
    isBlank_of_isIdentifierChar (isIdentifierChar_of_mem identifier member)

/-- An identifier does not end in a question mark. -/
theorem unmarked_of_isIdentifier (identifier : isIdentifier word = true) :
    word.getLast? ≠ some '?' := fun last =>
  not_mem_of_isIdentifier identifier (by decide) (List.mem_of_getLast? last)

end Template

/-- A level that starts with an identifier is tidy when its parameters are. -/
theorem Parts.tidy_of_isIdentifier {word : List Char} (identifier : Template.isIdentifier word = true)
    {parameters? : Option (List (List Char))} (null : Nullability)
    (firm : ∀ parameter ∈ parameters?.getD [], Firm parameter)
    (separable : Separable (parameters?.getD [])) : Tidy ⟨word, parameters?, null⟩ where
  keyword_firm := Template.firm_of_isIdentifier identifier
  keyword_unopened := Template.not_mem_of_isIdentifier identifier (by decide)
  keyword_unmarked _ := Template.unmarked_of_isIdentifier identifier
  parameters_firm := firm
  parameters_separable := separable

/-! ## Keywords -/

namespace Keyword

/-- What is found stands in the table. -/
theorem mem_table_of_find? {word : List Char} {keyword : Keyword}
    (found : find? word = some keyword) : (String.ofList word, keyword) ∈ table := by
  obtain ⟨front, back, whole, -⟩ := List.lookup_eq_some_iff.1 found
  simp [whole]

/-- Every keyword is an identifier. -/
theorem isIdentifier_of_find? {word : List Char} {keyword : Keyword}
    (found : find? word = some keyword) : Template.isIdentifier word = true := by
  have all : ∀ entry ∈ table, Template.isIdentifier entry.1.toList = true := by decide
  simpa using all _ (mem_table_of_find? found)

end Keyword

/-- A type known by name only is written with its name behind the mark. -/
theorem userDefinedName?_eq_some_iff {written name : List Char} :
    userDefinedName? written = some name ↔ written = 'u' :: '!' :: name := by
  unfold userDefinedName?
  split
  · simp
  · rename_i other
    exact ⟨nofun, fun marked => absurd marked (other name)⟩

/-! ## Lowercase forms -/

/-- A character that is no letter of the alphabet stays itself in lowercase. -/
theorem lowerChar_of_not_upper {c : Char} (small : c.toNat < 0x80) (unchanged : c.toLower = c) :
    lowerChar c = [c] := by
  rw [lowerChar, if_pos small, unchanged]

/-- A character that is no letter of the alphabet is kept in lowercase. -/
theorem mem_lowercase {text : List Char} {c : Char} (small : c.toNat < 0x80)
    (unchanged : c.toLower = c) (member : c ∈ text) : c ∈ lowercase text := by
  suffices kept : ∀ before, c ∈ lowerAfter before text from kept []
  induction text with
  | nil => cases member
  | cons d rest ih =>
    intro before
    rw [lowerAfter]
    obtain rfl | later := List.mem_cons.1 member
    · have plain : c ≠ 'Σ' := by
        rintro rfl
        exact absurd small (by decide)
      rw [if_neg plain, lowerChar_of_not_upper small unchanged]
      exact List.mem_cons_self
    · split
      · exact List.mem_cons_of_mem _ (ih later _)
      · exact List.mem_append_right _ (ih later _)

namespace Keyword

variable {written : List Char} {keyword : Keyword}

/-- A character that may not stand in a keyword does not stand in a keyword in capitals. -/
theorem not_mem_of_find?_lowercase (found : find? (lowercase written) = some keyword) {c : Char}
    (small : c.toNat < 0x80) (unchanged : c.toLower = c)
    (foreign : Template.isIdentifierChar c = false) : c ∉ written := fun member =>
  Template.not_mem_of_isIdentifier (isIdentifier_of_find? found) foreign
    (mem_lowercase small unchanged member)

/-- A keyword in capitals has neither brackets nor commas. -/
theorem flat_of_find?_lowercase (found : find? (lowercase written) = some keyword) :
    Flat written := by
  intro c member
  refine ⟨?_, ?_, ?_⟩ <;> rintro rfl <;>
    exact not_mem_of_find?_lowercase found (by decide) (by decide) (by decide) member

/-- A name with the mark of a type known by name only is no keyword. -/
theorem userDefinedName?_of_find?_lowercase (found : find? (lowercase written) = some keyword) :
    userDefinedName? written = none := by
  unfold userDefinedName?
  split
  · exact absurd (List.mem_cons_of_mem 'u' List.mem_cons_self)
      (not_mem_of_find?_lowercase found (by decide) (by decide) (by decide))
  · rfl

/-- What starts with the mark of a type known by name only is no keyword. -/
theorem find?_lowercase_of_userDefinedName? {name : List Char}
    (marked : userDefinedName? written = some name) : find? (lowercase written) = none := by
  cases found : find? (lowercase written) with
  | none => rfl
  | some keyword =>
    rw [userDefinedName?_of_find?_lowercase found] at marked
    cases marked

/-! ## Canonical words -/

/-- A keyword stays itself in lowercase. -/
theorem lowercase_of_find? {word : List Char} (found : find? word = some keyword) :
    lowercase word = word := by
  have small : ∀ entry ∈ table, entry.1.toList.all isSmall = true := by decide
  refine lowercase_eq_self ?_
  simpa using small _ (mem_table_of_find? found)

/-- The canonical **word** of a keyword: one that announces it as it stands. -/
def Spells (keyword : Keyword) (word : List Char) : Prop := find? word = some keyword

instance (keyword : Keyword) (word : List Char) : Decidable (keyword.Spells word) :=
  inferInstanceAs (Decidable (find? word = some keyword))

theorem spells_plain (kind : PlainKind) : Spells (.atom (.fixed (.plain kind))) kind.keyword.toList :=
  find?_plain kind

theorem spells_sized (kind : LengthKind) : Spells (.atom (.sized kind)) kind.keyword.toList :=
  find?_sized kind

theorem spells_precise (kind : PrecisionKind) :
    Spells (.atom (.precise kind)) kind.keyword.toList :=
  find?_precise kind

theorem spells_decimal : Spells (.atom .decimal) "decimal".toList := by decide

theorem spells_struct : Spells .struct "struct".toList := by decide

theorem spells_list : Spells .list "list".toList := by decide

theorem spells_map : Spells .map "map".toList := by decide

namespace Spells

variable {word : List Char}

/-- The canonical word is looked up as any other spelling is. -/
theorem find?_lowercase (spells : keyword.Spells word) : find? (lowercase word) = some keyword := by
  rwa [lowercase_of_find? spells]

theorem firm (spells : keyword.Spells word) : Firm word :=
  Template.firm_of_isIdentifier (isIdentifier_of_find? spells)

theorem closed (spells : keyword.Spells word) : Closed word :=
  (Template.flat_of_isIdentifier (isIdentifier_of_find? spells)).closed

/-- Another spelling of a keyword is nested like the canonical word of any keyword. -/
theorem nestedAlike {other : Keyword} (spells : other.Spells word)
    (found : find? (lowercase written) = some keyword) : NestedAlike written word :=
  (flat_of_find?_lowercase found).closed.trans spells.closed.symm

/-- A level with a canonical word is tidy when its parameters are. -/
theorem tidy (spells : keyword.Spells word) {parameters? : Option (List (List Char))}
    (null : Nullability) (firm : ∀ parameter ∈ parameters?.getD [], Firm parameter)
    (separable : Separable (parameters?.getD [])) : Parts.Tidy ⟨word, parameters?, null⟩ :=
  Parts.tidy_of_isIdentifier (isIdentifier_of_find? spells) null firm separable

end Spells

end Keyword

end QueryPlan

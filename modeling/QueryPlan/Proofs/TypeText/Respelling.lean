import QueryPlan.Proofs.Text.Numeral
import QueryPlan.Proofs.Text.Respelling
import QueryPlan.Proofs.TypeText.Word

/-! # Levels of respelled type texts
Blanks are cut off at several places while a level of a type text is taken apart, and elsewhere the text
is looked at as it is written: the search for brackets and commas, and the test for an empty place
between them. All of this agrees with the compact spelling: the level of a compact text is the compact
level of the text, or the same fault (`Parts.ofText_compact`). -/

namespace QueryPlan

namespace Text

/-! ## Splitting compact texts -/

/-- The compact spelling is nested like the text. -/
theorem nestedAlike_compactAfter (word text : List Char) :
    NestedAlike (word ++ text) (compactAfter word text) := by
  induction text generalizing word with
  | nil =>
    rw [List.append_nil, compactAfter]
    exact Parts.nestedAlike_trim word
  | cons c rest ih =>
    rw [compactAfter]
    split
    · exact (Parts.nestedAlike_trim word).append ((NestedAlike.refl [c]).append (ih []))
    · rename_i plain
      -- a character that does not delimit anything is flat, in either case
      have flat : ∀ d : Char, isDelimiter d ≠ true → Flat [d] := by
        intro d other
        simp only [ne_eq, isDelimiter_iff, not_or] at other
        exact List.forall_mem_singleton.2 ⟨other.1, other.2.1, other.2.2.1⟩
      have same : NestedAlike [c] [c.toLower] :=
        (flat c plain).closed.trans (flat c.toLower (by rwa [isDelimiter_toLower])).closed.symm
      have lowered := (NestedAlike.refl word).append (same.append (.refl rest))
      rw [List.singleton_append, List.singleton_append] at lowered
      refine lowered.trans ?_
      have later := ih (word ++ [c.toLower])
      rwa [List.append_assoc, List.singleton_append] at later

theorem nestedAlike_compact (text : List Char) : NestedAlike text (compact text) :=
  nestedAlike_compactAfter [] text

/-- The compact spelling of joined texts is joined from their compact spellings. -/
theorem compact_intercalate (parts : List (List Char)) :
    compact ([','].intercalate parts) = [','].intercalate (parts.map compact) := by
  induction parts with
  | nil => rfl
  | cons part parts ih =>
    cases parts with
    | nil => rw [List.intercalate_singleton, List.map_singleton, List.intercalate_singleton]
    | cons next parts =>
      rw [List.map_cons, List.map_cons, List.intercalate_cons_cons, List.intercalate_cons_cons,
        ← List.map_cons, List.append_assoc, List.append_assoc, List.singleton_append,
        List.singleton_append, compact_append_delimiter _ _ (by decide), ih]

/-- A compact text is split into the compact spellings of the parts of the text. -/
theorem splitTopLevel_compact (text : List Char) :
    splitTopLevel (compact text) = (splitTopLevel text).map compact := by
  have whole : compact text = [','].intercalate ((splitTopLevel text).map compact) := by
    rw [← compact_intercalate, splitTopLevel, intercalate_splitAtDepth]
  -- the compact parts are separable since the parts are, so the joined text is split into them
  have filled : (splitTopLevel text).map compact ≠ [] :=
    mt List.map_eq_nil_iff.1 (splitAtDepth_ne_nil 0 text)
  have alike : List.Forall₂ NestedAlike (splitTopLevel text) ((splitTopLevel text).map compact) := by
    rw [List.forall₂_map_right_iff, List.forall₂_same]
    exact fun part _ => nestedAlike_compact part
  rw [whole, splitTopLevel_intercalate filled ((separable_splitTopLevel text).congr alike)]

end Text

open Text

namespace Parts

/-! ## Compact levels -/

/-- The **compact** spelling of a level: that of its keyword and of each of its parameters. -/
def compact (parts : Parts) : Parts :=
  ⟨Text.compact parts.keyword, parts.parameters?.map (List.map Text.compact), parts.nullability⟩

@[simp] theorem parameters_compact (parts : Parts) :
    parts.compact.parameters = parts.parameters.map Text.compact := by
  obtain ⟨keyword, parameters?, null⟩ := parts
  cases parameters? <;> rfl

/-- The parameters between compact brackets are the compact parameters. -/
theorem splitParameters_compact (inner : List Char) :
    splitParameters (Text.compact inner) = (splitParameters inner).map Text.compact := by
  have empty : (trim (Text.compact inner)).isEmpty = (trim inner).isEmpty := by
    rw [Bool.eq_iff_iff, List.isEmpty_iff, List.isEmpty_iff, trim_compact, compact_eq_nil_iff,
      trim_eq_nil_iff]
  rw [splitParameters, splitParameters, empty]
  split
  · rfl
  · rw [splitTopLevel_compact, List.map_map, List.map_map]
    refine List.map_congr_left fun part _ => ?_
    rw [Function.comp_apply, Function.comp_apply, trim_compact, compact_trim]

/-- A place between commas is empty in the compact spelling when it is so in the text. -/
theorem any_isEmpty_compact (inner : List Char) :
    ((splitParameters inner).map Text.compact).any List.isEmpty =
      (splitParameters inner).any List.isEmpty := by
  rw [List.any_map, Bool.eq_iff_iff, List.any_eq_true, List.any_eq_true]
  refine exists_congr fun parameter => and_congr_right fun member => ?_
  rw [Function.comp_apply, List.isEmpty_iff, List.isEmpty_iff, compact_eq_nil_iff, ← trim_eq_nil_iff]
  -- parameters are trimmed already
  by_cases filled : parameter = []
  · rw [filled]
    rfl
  · rw [trim_eq_self (firm_of_mem_splitParameters member filled)]

/-- A compact text ends in a delimiter when the text does. -/
theorem getLast?_compact_iff {text : List Char} (ends : EndsFirm text) {d : Char}
    (delimits : isDelimiter d = true) :
    (Text.compact text).getLast? = some d ↔ text.getLast? = some d := by
  obtain ⟨c, last, visible⟩ := ends
  obtain ⟨front, rfl⟩ := List.getLast?_eq_some_iff.1 last
  rw [Text.compact, getLast?_compactAfter front visible, List.getLast?_concat, Option.some_inj,
    Option.some_inj, (caseless_of_isDelimiter delimits).toLower_eq_iff]

/-- The question mark is cut off a compact text as it is off the text. -/
theorem cutMark_compact {text : List Char} (ends : EndsFirm text) :
    cutMark (Text.compact text) = (Text.compact (cutMark text).1, (cutMark text).2) := by
  by_cases marked : text.getLast? = some '?'
  · obtain ⟨front, rfl⟩ := List.getLast?_eq_some_iff.1 marked
    have trimmed : trimEnd (Text.compact front) = Text.compact front := by
      by_cases empty : Text.compact front = []
      · rw [empty]
        rfl
      · exact trimEnd_eq_self (firm_compactAfter empty).2
    have compacted : Text.compact (front ++ ['?']) = Text.compact front ++ ['?'] :=
      compact_append_delimiter front [] (by decide)
    rw [compacted, cutMark_of_marked, cutMark_of_marked, trimmed, compact_trimEnd]
  · have unmarked := mt (getLast?_compact_iff ends (by decide)).1 marked
    rw [cutMark_of_unmarked marked, cutMark_of_unmarked unmarked]

/-- The body of a compact level is taken apart into compact parts. -/
theorem ofBody_compact {null : Nullability} {body : List Char}
    (ends : body = [] ∨ EndsFirm body) :
    ofBody null (Text.compact body) = (ofBody null body).map compact := by
  have opening : ∀ {text : List Char}, '<' ∉ text → '<' ∉ Text.compact text := fun unopened =>
    mt (mem_compact_iff_of_isDelimiter (by decide)).1 unopened
  by_cases opened : '<' ∈ body
  · obtain ⟨front, bracketed, rfl, unopened⟩ := List.eq_append_cons_of_mem opened
    rw [compact_append_delimiter front bracketed (by decide)]
    by_cases closed : bracketed.getLast? = some '>'
    · obtain ⟨inner, rfl⟩ := List.getLast?_eq_some_iff.1 closed
      have inside : Text.compact (inner ++ ['>']) = Text.compact inner ++ ['>'] :=
        compact_append_delimiter inner [] (by decide)
      rw [inside, ofBody_of_opened null (opening unopened), ofBody_of_opened null unopened,
        splitParameters_compact, any_isEmpty_compact]
      split
      · rfl
      · rw [trim_compact, Except.map, compact, compact_trim, Option.map_some]
    · -- what stands behind the opening bracket ends as the body does
      have unclosed : (Text.compact bracketed).getLast? ≠ some '>' := by
        by_cases empty : bracketed = []
        · rw [empty]
          exact nofun
        · obtain nothing | ⟨c, last, visible⟩ := ends
          · exact absurd nothing (List.append_ne_nil_of_right_ne_nil _ (List.cons_ne_nil _ _))
          · rw [List.getLast?_append_cons, List.getLast?_cons_of_ne_nil empty] at last
            exact mt (getLast?_compact_iff ⟨c, last, visible⟩ (by decide)).1 closed
      rw [ofBody_of_unclosed null (opening unopened) unclosed, ofBody_of_unclosed null unopened closed]
      rfl
  · rw [ofBody_of_unopened null (opening opened), ofBody_of_unopened null opened]
    rfl

/-- **The level of a compact text** is the compact level of the text, or the same fault. -/
theorem ofText_compact (text : List Char) :
    ofText (Text.compact text) = (ofText text).map compact := by
  by_cases empty : trim text = []
  · -- a blank text is at fault, and nothing is left of it in the compact spelling
    have nothing : Text.compact text = [] := compact_eq_nil_iff.2 (trim_eq_nil_iff.1 empty)
    rw [nothing, ofText, ofText, empty]
    rfl
  · have filled : trim (Text.compact text) ≠ [] := by
      rw [trim_compact, Ne, compact_eq_nil_iff, ← trim_eq_nil_iff]
      exact empty
    have ends := (firm_trim empty).2
    rw [ofText_of_filled filled, ofText_of_filled empty, trim_compact, ← compact_trim,
      cutMark_compact ends]
    exact ofBody_compact (or_iff_not_imp_left.2 fun body => endsFirm_cutMark ends body)

/-- The keyword of a level that is read is trimmed. -/
theorem trim_keyword {text : List Char} {parts : Parts} (read : ofText text = .ok parts) :
    trim parts.keyword = parts.keyword := by
  by_cases empty : parts.keyword = []
  · rw [empty]
    rfl
  · exact trim_eq_self (firm_keyword read empty)

end Parts

/-! ## Words -/

namespace Text

/-- No letter of the alphabet is case-ignorable. -/
theorem inRanges_caseIgnorable_of_letter {point : Nat}
    (letter : 65 ≤ point ∧ point ≤ 90 ∨ 97 ≤ point ∧ point ≤ 122) :
    inRanges caseIgnorableRanges point = false := by
  have apart : ∀ range ∈ caseIgnorableRanges,
      range.2 < 65 ∨ 90 < range.1 ∧ range.2 < 97 ∨ 122 < range.1 := by decide +kernel
  rw [inRanges, List.any_eq_false]
  intro range member
  have outside := apart range member
  simp only [Bool.and_eq_true, decide_eq_true_eq]
  omega

/-- Letter case does not matter to the search for a cased character. -/
theorem meetsCased_map_toLower (text : List Char) :
    meetsCased (text.map Char.toLower) = meetsCased text := by
  have points : ∀ c ∈ capitals, (65 ≤ c.toNat ∧ c.toNat ≤ 90) ∧
      97 ≤ c.toLower.toNat ∧ c.toLower.toNat ≤ 122 := by decide
  have ignorable : ∀ c : Char,
      inRanges caseIgnorableRanges c.toLower.toNat = inRanges caseIgnorableRanges c.toNat :=
    apply_toLower (fun c => inRanges caseIgnorableRanges c.toNat) fun c capital => by
      obtain ⟨large, small⟩ := points c capital
      rw [inRanges_caseIgnorable_of_letter (.inl large), inRanges_caseIgnorable_of_letter (.inr small)]
  have cased : ∀ c : Char, inRanges casedRanges c.toLower.toNat = inRanges casedRanges c.toNat :=
    apply_toLower (fun c => inRanges casedRanges c.toNat) (by decide +kernel)
  have skipped : ((fun c : Char => inRanges caseIgnorableRanges c.toNat) ∘ Char.toLower) =
      fun c => inRanges caseIgnorableRanges c.toNat := funext ignorable
  unfold meetsCased
  rw [List.dropWhile_map, skipped]
  cases text.dropWhile fun c => inRanges caseIgnorableRanges c.toNat with
  | nil => rfl
  | cons c rest => exact cased c

/-- Letter case in front of, in and behind a text does not matter to its lowercase form. -/
theorem lowerAfter_map_toLower (before text : List Char) :
    lowerAfter (before.map Char.toLower) (text.map Char.toLower) = lowerAfter before text := by
  induction text generalizing before with
  | nil => rfl
  | cons c rest ih =>
    have lower : lowerChar c.toLower = lowerChar c := apply_toLower lowerChar (by decide) c
    have sigma : ∀ b : Char, b.toLower = 'Σ' ↔ b = 'Σ' := Caseless.toLower_eq_iff (by decide)
    have later := ih (c :: before)
    rw [List.map_cons] at later
    simp only [List.map_cons, lowerAfter, sigma, later, lower, meetsCased_map_toLower]

/-- **Lowercase does not depend on letter case.** -/
theorem lowercase_map_toLower (text : List Char) : lowercase (text.map Char.toLower) = lowercase text :=
  lowerAfter_map_toLower [] text

/-- The characters of a number are neither delimiters nor letters. -/
theorem undelimited_and_caseless_of_numeral {c : Char} (numeral : c = '+' ∨ c.isDigit = true) :
    isDelimiter c = false ∧ Caseless c := by
  constructor
  · refine Bool.eq_false_iff.2 fun delimits => ?_
    obtain rfl | rfl | rfl | rfl := isDelimiter_iff.1 delimits <;> exact absurd numeral (by decide)
  · have letters : ∀ b ∈ capitals, ¬ (b = '+' ∨ b.isDigit = true) ∧
        ¬ (b.toLower = '+' ∨ b.toLower.isDigit = true) := by decide
    intro b capital
    refine ⟨?_, ?_⟩ <;> rintro rfl
    · exact (letters b capital).1 numeral
    · exact (letters b capital).2 numeral

/-- A number is read off the compact spelling of a trimmed text exactly when it is read off the text. -/
theorem readNumeral?_compact (bound : Nat) {text : List Char} (trimmed : trim text = text) :
    readNumeral? bound (compact text) = readNumeral? bound text := by
  refine Option.ext fun value => ⟨fun read => ?_, fun read => ?_⟩
  · have plain := fun c member =>
      undelimited_and_caseless_of_numeral ((digits_of_readNumeral? read).2 c member)
    have undelimited : ∀ c ∈ text, isDelimiter c = false := fun c member =>
      Bool.eq_false_iff.2 fun delimits =>
        Bool.eq_false_iff.1 (plain c ((mem_compact_iff_of_isDelimiter delimits).2 member)).1 delimits
    have lower : compact text = text.map Char.toLower := compact_of_undelimited undelimited trimmed
    -- no letter becomes a digit in lowercase, so the text has had the digits already
    have caseless : ∀ c ∈ text, Caseless c := by
      intro c member
      have found := (plain c.toLower (lower ▸ List.mem_map_of_mem member)).2
      rwa [← (found.toLower_eq_iff c).1 rfl] at found
    rwa [lower, map_toLower_of_caseless caseless] at read
  · have plain := fun c member =>
      undelimited_and_caseless_of_numeral ((digits_of_readNumeral? read).2 c member)
    rwa [compact_of_undelimited (fun c member => (plain c member).1) trimmed,
      map_toLower_of_caseless fun c member => (plain c member).2]

end Text

/-- **Keywords do not depend on letter case**, and no word with a delimiter in it is one. -/
theorem Keyword.find?_lowercase_compact {written : List Char} (trimmed : trim written = written) :
    find? (lowercase (compact written)) = find? (lowercase written) := by
  by_cases undelimited : ∀ c ∈ written, isDelimiter c = false
  · rw [compact_of_undelimited undelimited trimmed, lowercase_map_toLower]
  · -- a delimiter is kept in the compact spelling, and no keyword has one
    simp only [not_forall, Bool.not_eq_false] at undelimited
    obtain ⟨d, member, delimits⟩ := undelimited
    have small : d.toNat < 0x80 ∧ d.toLower = d ∧ Template.isIdentifierChar d = false := by
      obtain rfl | rfl | rfl | rfl := isDelimiter_iff.1 delimits <;> decide
    have unknown : ∀ {word : List Char}, d ∈ word → find? (lowercase word) = none := by
      intro word inside
      cases found : find? (lowercase word) with
      | none => rfl
      | some keyword =>
        exact absurd inside (not_mem_of_find?_lowercase found small.1 small.2.1 small.2.2)
    rw [unknown member, unknown ((mem_compact_iff_of_isDelimiter delimits).2 member)]

end QueryPlan

import Mathlib.Data.List.TakeWhile
import QueryPlan.TypeText.Outline
import QueryPlan.Proofs.Text.Nesting
import QueryPlan.Proofs.Text.Trimming

/-! # One level of a type text
`Parts.text` writes a level of a type text without any blanks. A level that is written is taken apart
into what it was written from (`Parts.Tidy.ofText_text`), and a text that is taken apart is nested like
the level written from its parts (`Parts.readFrom_ofText`): all that reading forgets are blanks. -/

namespace QueryPlan

open Text

namespace Parts

/-! ## The question mark -/

/-- A text that does not end in a question mark keeps its end. -/
theorem cutMark_of_unmarked {body : List Char} (unmarked : body.getLast? ≠ some '?') :
    cutMark body = (body, .required) := by
  unfold cutMark
  split
  · rename_i rest marked
    rw [← List.head?_reverse, marked] at unmarked
    exact absurd rfl unmarked
  · rfl

/-- A question mark at the end is cut off, with the blanks in front of it. -/
theorem cutMark_of_marked (body : List Char) : cutMark (body ++ ['?']) = (trimEnd body, .nullable) := by
  simp [cutMark]

/-- The mark behind a firm text is cut off again; without a mark of its own, the text must not look as
if it had one. -/
theorem cutMark_append_mark {body : List Char} (null : Nullability) (ends : EndsFirm body)
    (unmarked : null = .required → body.getLast? ≠ some '?') :
    cutMark (body ++ null.mark.toList) = (body, null) := by
  cases null with
  | required => simpa [Nullability.mark] using cutMark_of_unmarked (unmarked rfl)
  | nullable =>
    have mark : Nullability.nullable.mark.toList = ['?'] := by decide
    rw [mark, cutMark_of_marked, trimEnd_eq_self ends]

/-- A text is its body, with blanks and a question mark behind it. -/
theorem exists_cutMark (text : List Char) :
    ∃ back, Flat back ∧ text = (cutMark text).1 ++ back := by
  unfold cutMark
  split
  · rename_i rest marked
    obtain ⟨back, blank, whole⟩ := exists_trimEnd rest.reverse
    refine ⟨back ++ ['?'], ?_, ?_⟩
    · intro c member
      obtain inside | last := List.mem_append.1 member
      · exact flat_of_allBlank blank c inside
      · obtain rfl := List.mem_singleton.1 last
        decide
    · rw [← List.append_assoc, ← whole, ← List.reverse_cons, ← marked, List.reverse_reverse]
  · exact ⟨[], nofun, (List.append_nil text).symm⟩

/-! ## Parameters -/

/-- A text is nested like what trimming leaves of it. -/
theorem nestedAlike_trim (text : List Char) : NestedAlike text (trim text) := by
  obtain ⟨front, back, blankFront, blankBack, whole⟩ := exists_trim text
  have alike : NestedAlike (front ++ (trim text ++ back)) (trim text) :=
    .closed_append (flat_of_allBlank blankFront).closed
      (.append_closed (.refl _) (flat_of_allBlank blankBack).closed)
  rwa [← whole] at alike

/-- A list of texts is nested part by part like the list of the trimmed texts. -/
theorem forall₂_nestedAlike_trim (texts : List (List Char)) :
    List.Forall₂ NestedAlike texts (texts.map trim) := by
  rw [List.forall₂_map_right_iff, List.forall₂_same]
  exact fun text _ => nestedAlike_trim text

/-- The parameters are separable. -/
theorem separable_splitParameters (inner : List Char) : Separable (splitParameters inner) := by
  unfold splitParameters
  split
  · trivial
  · exact (separable_splitTopLevel inner).congr (forall₂_nestedAlike_trim _)

/-- A bracketed text is nested like its parameters joined with commas. -/
theorem nestedAlike_splitParameters (inner : List Char) :
    NestedAlike inner ([','].intercalate (splitParameters inner)) := by
  unfold splitParameters
  split
  · rename_i empty
    exact (flat_of_allBlank (trim_eq_nil_iff.1 (List.isEmpty_iff.1 empty))).closed
  · have alike := NestedAlike.intercalate (forall₂_nestedAlike_trim (splitTopLevel inner))
    rwa [splitTopLevel, intercalate_splitAtDepth] at alike

/-- A parameter that is not empty is firm. -/
theorem firm_of_mem_splitParameters {inner parameter : List Char}
    (member : parameter ∈ splitParameters inner) (filled : parameter ≠ []) : Firm parameter := by
  unfold splitParameters at member
  split at member
  · cases member
  · obtain ⟨part, -, rfl⟩ := List.mem_map.1 member
    exact firm_trim filled

/-- The characters of a part are characters of the whole. -/
theorem mem_intercalate {separator part : List Char} {parts : List (List Char)} {c : Char}
    (member : part ∈ parts) (inside : c ∈ part) : c ∈ separator.intercalate parts := by
  induction parts with
  | nil => cases member
  | cons first others ih =>
    cases others with
    | nil =>
      obtain rfl := List.mem_singleton.1 member
      simpa using inside
    | cons next others =>
      rw [List.intercalate_cons_cons, List.mem_append, List.mem_append]
      obtain rfl | later := List.mem_cons.1 member
      · exact .inl (.inl inside)
      · exact .inr (ih later)

/-- The characters of a parameter stand between the brackets. -/
theorem mem_of_mem_splitParameters {inner parameter : List Char} {c : Char}
    (member : parameter ∈ splitParameters inner) (inside : c ∈ parameter) : c ∈ inner := by
  unfold splitParameters at member
  split at member
  · cases member
  · obtain ⟨part, cut, rfl⟩ := List.mem_map.1 member
    rw [← intercalate_splitAtDepth 0 inner]
    exact mem_intercalate cut (mem_of_mem_trim inside)

/-- Firm and separable texts are the parameters of the bracketed text joined from them. -/
theorem splitParameters_intercalate {parameters : List (List Char)}
    (firm : ∀ parameter ∈ parameters, Firm parameter) (separable : Separable parameters) :
    splitParameters ([','].intercalate parameters) = parameters := by
  cases parameters with
  | nil => rfl
  | cons parameter others =>
    obtain ⟨⟨c, first, solid⟩, -⟩ := firm parameter List.mem_cons_self
    have filled : ¬ (trim ([','].intercalate (parameter :: others))).isEmpty = true := by
      intro empty
      have blank := trim_eq_nil_iff.1 (List.isEmpty_iff.1 empty)
      have blankChar := List.all_eq_true.1 blank c
        (mem_intercalate List.mem_cons_self (List.mem_of_head? first))
      rw [solid] at blankChar
      cases blankChar
    rw [splitParameters, if_neg filled, splitTopLevel_intercalate (List.cons_ne_nil _ _) separable]
    conv_rhs => rw [← List.map_id (parameter :: others)]
    exact List.map_congr_left fun text member => trim_eq_self (firm text member)

/-! ## Writing a level -/

@[simp] theorem parameters_some (keyword : List Char) (texts : List (List Char)) (null : Nullability) :
    parameters ⟨keyword, some texts, null⟩ = texts := rfl

/-- Parameters in brackets, or no brackets at all. -/
def brackets : Option (List (List Char)) → List Char
  | none => []
  | some parameters => '<' :: ([','].intercalate parameters ++ ['>'])

/-- A level written without blanks. -/
def text (parts : Parts) : List Char :=
  parts.keyword ++ brackets parts.parameters? ++ parts.nullability.mark.toList

/-- A question mark is flat. -/
theorem flat_mark (null : Nullability) : Flat null.mark.toList := by
  cases null <;> simp [Flat, Nullability.mark]

/-- The end of a level without its question mark is firm when its keyword's is. -/
theorem endsFirm_brackets {keyword : List Char} (ends : EndsFirm keyword)
    (parameters? : Option (List (List Char))) : EndsFirm (keyword ++ brackets parameters?) := by
  cases parameters? with
  | none => simpa [brackets] using ends
  | some parameters =>
    have closing : EndsFirm ['>'] := ⟨'>', rfl, by decide⟩
    rw [brackets, ← List.cons_append, ← List.append_assoc]
    exact closing.prepend _

/-- A firm text stays firm with a mark behind it. -/
theorem firm_append_mark {body : List Char} (firm : Firm body) (null : Nullability) :
    Firm (body ++ null.mark.toList) := by
  cases null with
  | required => simpa [Nullability.mark] using firm
  | nullable =>
    have mark : EndsFirm Nullability.nullable.mark.toList := ⟨'?', by decide, by decide⟩
    exact ⟨firm.1.append _, mark.prepend _⟩

/-- A level without its question mark is firm when its keyword is. -/
theorem firm_brackets {keyword : List Char} (firm : Firm keyword)
    (parameters? : Option (List (List Char))) : Firm (keyword ++ brackets parameters?) :=
  ⟨firm.1.append _, endsFirm_brackets firm.2 parameters?⟩

/-- A written level is firm when its keyword is. -/
theorem firm_text {parts : Parts} (firm : Firm parts.keyword) : Firm parts.text :=
  firm_append_mark (firm_brackets firm parts.parameters?) parts.nullability

/-- Parameters in brackets are closed when each of them is. -/
theorem closed_brackets? {parameters? : Option (List (List Char))}
    (closed : ∀ parameter ∈ parameters?.getD [], Closed parameter) : Closed (brackets parameters?) := by
  cases parameters? with
  | none => exact .refl []
  | some parameters => exact closed_brackets closed

/-- A written level is closed when its keyword and its parameters are. -/
theorem closed_text {parts : Parts} (keyword : Closed parts.keyword)
    (closed : ∀ parameter ∈ parts.parameters, Closed parameter) : Closed parts.text :=
  (keyword.append (closed_brackets? closed)).append (flat_mark _).closed

/-- Parameters in brackets are nested alike when they are so one by one; no parameters may be written
without brackets. -/
theorem nestedAlike_brackets {left right : Option (List (List Char))}
    (alike : List.Forall₂ NestedAlike (left.getD []) (right.getD [])) :
    NestedAlike (brackets left) (brackets right) := by
  have bracketed : ∀ {lefts rights}, List.Forall₂ NestedAlike lefts rights →
      NestedAlike (brackets (some lefts)) (brackets (some rights)) := fun alike =>
    (NestedAlike.refl ['<']).append ((NestedAlike.intercalate alike).append (.refl ['>']))
  have empty : Closed (brackets (some [])) := closed_brackets? nofun
  cases left with
  | none =>
    cases right with
    | none => exact .refl _
    | some rights => exact empty.symm.trans (bracketed alike)
  | some lefts =>
    cases right with
    | none => exact (bracketed alike).trans empty
    | some rights => exact bracketed alike

/-- Levels are nested alike when their keywords are, and their parameters one by one. -/
theorem nestedAlike_text {left right : Parts} (keyword : NestedAlike left.keyword right.keyword)
    (alike : List.Forall₂ NestedAlike left.parameters right.parameters) :
    NestedAlike left.text right.text :=
  (keyword.append (nestedAlike_brackets alike)).append
    ((flat_mark _).closed.trans (flat_mark _).closed.symm)

/-- A level is **tidy** when nothing of it is lost or mistaken for something else in writing it. -/
structure Tidy (parts : Parts) : Prop where
  /-- The keyword has no blanks around it. -/
  keyword_firm : Firm parts.keyword
  /-- The first opening bracket is not part of the keyword. -/
  keyword_unopened : '<' ∉ parts.keyword
  /-- A question mark is not part of the keyword. -/
  keyword_unmarked : parts.parameters? = none → parts.keyword.getLast? ≠ some '?'
  /-- No parameter is empty or has blanks around it. -/
  parameters_firm : ∀ parameter ∈ parts.parameters, Firm parameter
  /-- The commas outside brackets are the ones between the parameters. -/
  parameters_separable : Separable parts.parameters

/-- A text without an opening bracket is a keyword. -/
theorem ofBody_of_unopened {body : List Char} (null : Nullability) (unopened : '<' ∉ body) :
    ofBody null body = .ok ⟨body, none, null⟩ := by
  have skipped : body.dropWhile (· ≠ '<') = [] := by
    rw [List.dropWhile_eq_nil_iff]
    exact fun c member => decide_eq_true fun opening => unopened (opening ▸ member)
  rw [ofBody, skipped]

/-- What stands in front of the first opening bracket is skipped. -/
theorem dropWhile_of_unopened {front : List Char} (unopened : '<' ∉ front) (bracketed : List Char) :
    (front ++ '<' :: bracketed).dropWhile (· ≠ '<') = '<' :: bracketed := by
  have passed : ∀ c ∈ front, decide (c ≠ '<') = true :=
    fun c member => decide_eq_true fun opening => unopened (opening ▸ member)
  rw [List.dropWhile_append_of_pos passed, List.dropWhile_cons_of_neg (by decide)]

/-- What stands in front of the first opening bracket is kept for the keyword. -/
theorem takeWhile_of_unopened {front : List Char} (unopened : '<' ∉ front) (bracketed : List Char) :
    (front ++ '<' :: bracketed).takeWhile (· ≠ '<') = front := by
  have passed : ∀ c ∈ front, decide (c ≠ '<') = true :=
    fun c member => decide_eq_true fun opening => unopened (opening ▸ member)
  rw [List.takeWhile_append_of_pos passed, List.takeWhile_cons_of_neg (by decide), List.append_nil]

/-- A text whose first bracket is closed by its last character has the parameters in between. -/
theorem ofBody_of_opened {front inner : List Char} (null : Nullability) (unopened : '<' ∉ front) :
    ofBody null (front ++ '<' :: (inner ++ ['>'])) =
      if (splitParameters inner).any List.isEmpty then .error .emptyParameter
      else .ok ⟨trim front, some (splitParameters inner), null⟩ := by
  have reversed : (inner ++ ['>']).reverse = '>' :: inner.reverse := List.reverse_concat
  rw [ofBody, dropWhile_of_unopened unopened, takeWhile_of_unopened unopened]
  simp only [reversed, List.reverse_reverse]

/-- A text whose first bracket is not closed by its last character is at fault. -/
theorem ofBody_of_unclosed {front bracketed : List Char} (null : Nullability)
    (unopened : '<' ∉ front) (unclosed : bracketed.getLast? ≠ some '>') :
    ofBody null (front ++ '<' :: bracketed) = .error .unclosedBracket := by
  rw [ofBody, dropWhile_of_unopened unopened]
  simp only
  split
  · rename_i inner closed
    rw [← List.head?_reverse, closed] at unclosed
    exact absurd rfl unclosed
  · rfl

/-- A body is a keyword, or a keyword with parameters in brackets. -/
theorem ofBody_eq_ok {null : Nullability} {body : List Char} {parts : Parts}
    (read : ofBody null body = .ok parts) :
    ('<' ∉ body ∧ parts = ⟨body, none, null⟩) ∨
    ∃ front inner, '<' ∉ front ∧ body = front ++ '<' :: (inner ++ ['>']) ∧
      (∀ parameter ∈ splitParameters inner, parameter ≠ []) ∧
      parts = ⟨trim front, some (splitParameters inner), null⟩ := by
  by_cases opened : '<' ∈ body
  · -- the body is cut at its first opening bracket
    obtain ⟨front, bracketed, rfl, unopened⟩ := List.eq_append_cons_of_mem opened
    by_cases closed : bracketed.getLast? = some '>'
    · obtain ⟨inner, rfl⟩ := List.getLast?_eq_some_iff.1 closed
      rw [ofBody_of_opened null unopened] at read
      split at read
      · cases read
      · rename_i filled
        cases read
        refine .inr ⟨front, inner, unopened, rfl, ?_, rfl⟩
        rintro parameter member rfl
        exact filled (List.any_eq_true.2 ⟨[], member, rfl⟩)
    · rw [ofBody_of_unclosed null unopened closed] at read
      cases read
  · rw [ofBody_of_unopened null opened] at read
    cases read
    exact .inl ⟨opened, rfl⟩

/-- A text that is not blank is taken apart without the blanks around it and without its mark. -/
theorem ofText_of_filled {text : List Char} (filled : trim text ≠ []) :
    ofText text = ofBody (cutMark (trim text)).2 (cutMark (trim text)).1 := by
  unfold ofText
  split
  · rename_i empty
    exact absurd empty filled
  · rfl

/-- A text that is read is not blank, and its body is read. -/
theorem filled_and_ofBody_of_ofText {text : List Char} {parts : Parts}
    (read : ofText text = .ok parts) :
    trim text ≠ [] ∧ ofBody (cutMark (trim text)).2 (cutMark (trim text)).1 = .ok parts := by
  have filled : trim text ≠ [] := by
    intro empty
    rw [ofText, empty] at read
    cases read
  exact ⟨filled, (ofText_of_filled filled).symm.trans read⟩

/-- A firm body with a mark behind it is taken apart without the mark. -/
theorem ofText_append_mark {body : List Char} (null : Nullability) (firm : Firm body)
    (unmarked : null = .required → body.getLast? ≠ some '?') :
    ofText (body ++ null.mark.toList) = ofBody null body := by
  have whole : trim (body ++ null.mark.toList) = body ++ null.mark.toList :=
    trim_eq_self (firm_append_mark firm null)
  have filled : trim (body ++ null.mark.toList) ≠ [] := by
    rw [whole]
    exact (firm_append_mark firm null).ne_nil
  rw [ofText_of_filled filled, whole, cutMark_append_mark null firm.2 unmarked]

/-- **A written level is read back.** -/
theorem Tidy.ofText_text {parts : Parts} (tidy : Tidy parts) : ofText parts.text = .ok parts := by
  obtain ⟨keyword, parameters?, null⟩ := parts
  obtain ⟨keywordFirm, unopened, unmarked, firm, separable⟩ := tidy
  -- in front of the mark of the level stands a closing bracket or the end of the keyword
  have bodyUnmarked : (keyword ++ brackets parameters?).getLast? ≠ some '?' := by
    cases parameters? with
    | none => simpa [brackets] using unmarked rfl
    | some parameters =>
      rw [brackets, ← List.cons_append, ← List.append_assoc, List.getLast?_concat]
      decide
  rw [text, ofText_append_mark null (firm_brackets keywordFirm parameters?) fun _ => bodyUnmarked]
  cases parameters? with
  | none =>
    rw [brackets, List.append_nil]
    exact ofBody_of_unopened null unopened
  | some parameters =>
    have split : splitParameters ([','].intercalate parameters) = parameters :=
      splitParameters_intercalate firm separable
    have solid : ¬ parameters.any List.isEmpty = true := by
      intro found
      obtain ⟨parameter, member, empty⟩ := List.any_eq_true.1 found
      exact (firm parameter member).ne_nil (List.isEmpty_iff.1 empty)
    rw [brackets, ofBody_of_opened null unopened, split, if_neg solid, trim_eq_self keywordFirm]

/-- A bare keyword with a mark is read back, even if the keyword ends in a mark itself. -/
theorem ofText_text_bare {keyword : List Char} {null : Nullability} (firm : Firm keyword)
    (unopened : '<' ∉ keyword) (unmarked : null = .required → keyword.getLast? ≠ some '?') :
    ofText (text ⟨keyword, none, null⟩) = .ok ⟨keyword, none, null⟩ := by
  rw [text, brackets, List.append_nil, ofText_append_mark null firm unmarked,
    ofBody_of_unopened null unopened]

/-! ## Reading a level -/

/-- What is known of a level that was **read from** a text. -/
structure ReadFrom (text : List Char) (parts : Parts) : Prop where
  /-- Only blanks are lost. -/
  alike : NestedAlike text parts.text
  /-- The keyword stands in front of the first opening bracket. -/
  keyword_unopened : '<' ∉ parts.keyword
  /-- No parameter is empty or has blanks around it. -/
  parameters_firm : ∀ parameter ∈ parts.parameters, Firm parameter
  /-- The parameters are what stands between the commas outside brackets. -/
  parameters_separable : Separable parts.parameters
  /-- The keyword is part of the text. -/
  mem_of_mem_keyword : ∀ c ∈ parts.keyword, c ∈ text
  /-- The parameters are part of the text. -/
  mem_of_mem_parameter : ∀ parameter ∈ parts.parameters, ∀ c ∈ parameter, c ∈ text

/-- A level that is read from a body is nested like it. -/
theorem readFrom_ofBody {null : Nullability} {body : List Char} {parts : Parts}
    (read : ofBody null body = .ok parts) : ReadFrom body parts := by
  obtain ⟨unopened, rfl⟩ | ⟨front, inner, unopened, rfl, filled, rfl⟩ := ofBody_eq_ok read
  · refine ⟨?_, unopened, nofun, trivial, fun c member => member, nofun⟩
    simpa [text, brackets] using
      ((NestedAlike.refl body).append_closed (flat_mark null).closed).symm
  · refine ⟨?_, fun member => unopened (mem_of_mem_trim member),
      fun parameter member => firm_of_mem_splitParameters member (filled parameter member),
      separable_splitParameters inner,
      fun c member => List.mem_append_left _ (mem_of_mem_trim member), ?_⟩
    · have bracketed : NestedAlike ('<' :: (inner ++ ['>']))
          (brackets (some (splitParameters inner))) :=
        (NestedAlike.refl ['<']).append ((nestedAlike_splitParameters inner).append (.refl ['>']))
      exact ((nestedAlike_trim front).append bracketed).trans
        (NestedAlike.append_closed (.refl _) (flat_mark null).closed).symm
    · intro parameter member c inside
      have there := mem_of_mem_splitParameters member inside
      simp [there]

/-- **A level that is read** keeps everything of its text but blanks. -/
theorem readFrom_ofText {text : List Char} {parts : Parts} (read : ofText text = .ok parts) :
    ReadFrom text parts := by
  -- blanks at both ends, then blanks and a mark at the end, then blanks inside the level
  obtain ⟨back, flat, whole⟩ := exists_cutMark (trim text)
  have body := readFrom_ofBody (filled_and_ofBody_of_ofText read).2
  have inside : ∀ c ∈ (cutMark (trim text)).1, c ∈ text := fun c member =>
    mem_of_mem_trim (whole ▸ List.mem_append_left back member)
  have cut : NestedAlike (trim text) (cutMark (trim text)).1 := by
    conv => lhs; rw [whole]
    exact .append_closed (.refl _) flat.closed
  exact ⟨((nestedAlike_trim text).trans cut).trans body.alike, body.keyword_unopened,
    body.parameters_firm, body.parameters_separable,
    fun c member => inside c (body.mem_of_mem_keyword c member),
    fun parameter member c there => inside c (body.mem_of_mem_parameter parameter member c there)⟩

/-- The body of a firm text ends firmly, unless nothing stands in front of the mark. -/
theorem endsFirm_cutMark {text : List Char} (ends : EndsFirm text) (filled : (cutMark text).1 ≠ []) :
    EndsFirm (cutMark text).1 := by
  unfold cutMark at filled ⊢
  split
  · rename_i rest marked
    rw [marked] at filled
    exact endsFirm_trimEnd filled
  · exact ends

/-- The body of a firm text starts firmly, unless nothing stands in front of the mark. -/
theorem startsFirm_cutMark {text : List Char} (starts : StartsFirm text)
    (filled : (cutMark text).1 ≠ []) : StartsFirm (cutMark text).1 := by
  obtain ⟨back, -, whole⟩ := exists_cutMark text
  obtain ⟨c, first, visible⟩ := starts
  rw [whole, List.head?_append, List.head?_eq_some_head filled, Option.some_or] at first
  exact ⟨c, (List.head?_eq_some_head filled).trans first, visible⟩

/-- The keyword of a level that is read has no blanks around it. -/
theorem firm_keyword {text : List Char} {parts : Parts} (read : ofText text = .ok parts)
    (filled : parts.keyword ≠ []) : Firm parts.keyword := by
  obtain ⟨nonempty, body⟩ := filled_and_ofBody_of_ofText read
  obtain ⟨starts, ends⟩ := firm_trim nonempty
  obtain ⟨unopened, rfl⟩ | ⟨front, inner, unopened, whole, solid, rfl⟩ := ofBody_eq_ok body
  · exact ⟨startsFirm_cutMark starts filled, endsFirm_cutMark ends filled⟩
  · exact firm_trim filled

/-- A level has the nullability that its body was read with. -/
theorem nullability_of_ofBody {null : Nullability} {body : List Char} {parts : Parts}
    (read : ofBody null body = .ok parts) : parts.nullability = null := by
  obtain ⟨-, rfl⟩ | ⟨front, inner, -, -, -, rfl⟩ := ofBody_eq_ok read
  · rfl
  · rfl

/-- A firm text that ends in a mark is read as a nullable level. -/
theorem nullability_of_marked {text : List Char} {parts : Parts} (firm : Firm text)
    (marked : text.getLast? = some '?') (read : ofText text = .ok parts) :
    parts.nullability = .nullable := by
  obtain ⟨front, rfl⟩ := List.getLast?_eq_some_iff.1 marked
  rw [nullability_of_ofBody (filled_and_ofBody_of_ofText read).2, trim_eq_self firm,
    cutMark_of_marked]

/-- What holds of a text as soon as it holds of the parameters it is taken apart into holds of every
text. -/
theorem text_induction {motive : List Char → Prop}
    (step : ∀ text, (∀ parts, ofText text = .ok parts →
      ∀ parameter ∈ parts.parameters, motive parameter) → motive text)
    (text : List Char) : motive text :=
  step text fun _ read parameter member =>
    have := length_lt_of_mem_ofText read member
    text_induction step parameter
termination_by text.length

end Parts

end QueryPlan

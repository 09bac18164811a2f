import QueryPlan.Text.Blank

/-! # Trimmed texts
A text is **firm** when it is not empty and neither starts nor ends with a blank character. Trimming
leaves firm texts alone, and what it makes of any other text is empty or firm; only blank characters are
cut off. -/

namespace QueryPlan.Text

/-- A visible ASCII character is not blank. -/
theorem isBlank_of_visible {c : Char} (low : 0x20 < c.toNat) (high : c.toNat < 0x7F) :
    isBlank c = false := by
  simp only [isBlank, Bool.or_eq_false_iff, Bool.and_eq_false_iff, decide_eq_false_iff_not,
    beq_eq_false_iff_ne]
  omega

/-- A text that starts with a character that is not blank. -/
def StartsFirm (text : List Char) : Prop := ∃ c, text.head? = some c ∧ isBlank c = false

/-- A text that ends with a character that is not blank. -/
def EndsFirm (text : List Char) : Prop := ∃ c, text.getLast? = some c ∧ isBlank c = false

/-- A **firm** text has a character that is not blank at either end. -/
def Firm (text : List Char) : Prop := StartsFirm text ∧ EndsFirm text

/-- A firm start stays one, whatever follows. -/
theorem StartsFirm.append {text : List Char} (starts : StartsFirm text) (rest : List Char) :
    StartsFirm (text ++ rest) := by
  obtain ⟨c, first, firm⟩ := starts
  exact ⟨c, by rw [List.head?_append, first, Option.some_or], firm⟩

/-- A firm end stays one, whatever stands in front. -/
theorem EndsFirm.prepend {text : List Char} (ends : EndsFirm text) (front : List Char) :
    EndsFirm (front ++ text) := by
  obtain ⟨c, last, firm⟩ := ends
  exact ⟨c, by rw [List.getLast?_append, last, Option.some_or], firm⟩

theorem Firm.ne_nil {text : List Char} (firm : Firm text) : text ≠ [] := by
  rintro rfl
  obtain ⟨⟨c, first, -⟩, -⟩ := firm
  cases first

/-- A text of characters that are not blank is firm. -/
theorem firm_of_forall {text : List Char} (filled : text ≠ [])
    (firm : ∀ c ∈ text, isBlank c = false) : Firm text :=
  ⟨⟨text.head filled, List.head?_eq_some_head filled, firm _ (List.head_mem filled)⟩,
    ⟨text.getLast filled, List.getLast?_eq_some_getLast filled, firm _ (List.getLast_mem filled)⟩⟩

/-- A firm end is kept when blanks at the end are cut off. -/
theorem trimEnd_eq_self {text : List Char} (ends : EndsFirm text) : trimEnd text = text := by
  induction text with
  | nil => rfl
  | cons c rest ih =>
    obtain ⟨last, there, firm⟩ := ends
    have filled : allBlank (c :: rest) = false :=
      List.all_eq_false.2 ⟨last, List.mem_of_getLast? there, by simp [firm]⟩
    rw [trimEnd, filled, if_neg Bool.false_ne_true]
    cases rest with
    | nil => rfl
    | cons next rest => rw [ih ⟨last, by rwa [List.getLast?_cons_cons] at there, firm⟩]

/-- A firm start is kept when blanks at the start are cut off. -/
theorem trimStart_eq_self {text : List Char} (starts : StartsFirm text) : trimStart text = text := by
  obtain ⟨c, first, firm⟩ := starts
  cases text with
  | nil => rfl
  | cons d rest =>
    cases first
    rw [trimStart, List.dropWhile_cons_of_neg (by simp [firm])]

/-- Trimming leaves a firm text alone. -/
theorem trim_eq_self {text : List Char} (firm : Firm text) : trim text = text := by
  rw [trim, trimStart_eq_self firm.1, trimEnd_eq_self firm.2]

/-- What is cut off at the end is blank. -/
theorem exists_trimEnd (text : List Char) :
    ∃ back, allBlank back = true ∧ text = trimEnd text ++ back := by
  induction text with
  | nil => exact ⟨[], rfl, rfl⟩
  | cons c rest ih =>
    rw [trimEnd]
    split
    · rename_i blank
      exact ⟨c :: rest, blank, rfl⟩
    · obtain ⟨back, blank, whole⟩ := ih
      exact ⟨back, blank, by rw [List.cons_append, ← whole]⟩

/-- What is cut off at the start is blank. -/
theorem exists_trimStart (text : List Char) :
    ∃ front, allBlank front = true ∧ text = front ++ trimStart text :=
  ⟨text.takeWhile isBlank, List.all_takeWhile, List.takeWhile_append_dropWhile.symm⟩

/-- What trimming cuts off is blank. -/
theorem exists_trim (text : List Char) :
    ∃ front back, allBlank front = true ∧ allBlank back = true ∧
      text = front ++ (trim text ++ back) := by
  obtain ⟨front, blankFront, startCut⟩ := exists_trimStart text
  obtain ⟨back, blankBack, endCut⟩ := exists_trimEnd (trimStart text)
  exact ⟨front, back, blankFront, blankBack, by rw [trim, ← endCut, ← startCut]⟩

/-- What is left after blanks at the end are cut off ends firmly, unless it is empty. -/
theorem endsFirm_trimEnd {text : List Char} (filled : trimEnd text ≠ []) :
    EndsFirm (trimEnd text) := by
  induction text with
  | nil => exact absurd rfl filled
  | cons c rest ih =>
    rw [trimEnd] at filled ⊢
    split
    · rename_i blank
      rw [if_pos blank] at filled
      exact absurd rfl filled
    · rename_i notBlank
      cases left : trimEnd rest with
      | nil =>
        -- nothing but blanks follows, so the character itself is the firm one
        obtain ⟨back, blank, whole⟩ := exists_trimEnd rest
        rw [left, List.nil_append] at whole
        rw [allBlank_cons, whole, blank, Bool.and_true, Bool.not_eq_true] at notBlank
        exact ⟨c, rfl, notBlank⟩
      | cons d others =>
        rw [← left]
        exact (ih (by simp [left])).prepend [c]

/-- What trimming leaves is empty or firm. -/
theorem firm_trim {text : List Char} (filled : trim text ≠ []) : Firm (trim text) := by
  refine ⟨?_, endsFirm_trimEnd filled⟩
  obtain ⟨back, -, whole⟩ := exists_trimEnd (trimStart text)
  have first : (trim text).head? = (trimStart text).head? := by
    rw [whole, List.head?_append, ← trim, List.head?_eq_some_head filled, Option.some_or]
  refine ⟨(trim text).head filled, List.head?_eq_some_head filled, ?_⟩
  have unblank := List.head?_dropWhile_not isBlank text
  rw [← trimStart, ← first, List.head?_eq_some_head filled] at unblank
  simpa using unblank

/-- Trimming leaves nothing of a blank text only. -/
theorem trim_eq_nil_iff {text : List Char} : trim text = [] ↔ allBlank text = true := by
  constructor
  · intro empty
    obtain ⟨front, back, blankFront, blankBack, whole⟩ := exists_trim text
    rw [empty, List.nil_append] at whole
    rw [whole, allBlank, List.all_append, ← allBlank, ← allBlank, blankFront, blankBack]
    rfl
  · intro blank
    have cut : (text ++ []).dropWhile isBlank = [].dropWhile isBlank :=
      List.dropWhile_append_of_pos (List.all_eq_true.1 blank)
    rw [List.append_nil, List.dropWhile_nil] at cut
    rw [trim, trimStart, cut, trimEnd_nil]

/-- Blanks in front are cut off. -/
theorem trimStart_blank_append {blanks : List Char} (blank : allBlank blanks = true)
    (text : List Char) : trimStart (blanks ++ text) = trimStart text :=
  List.dropWhile_append_of_pos (List.all_eq_true.1 blank)

/-- Blanks behind are cut off. -/
theorem trimEnd_append_blank (text : List Char) {blanks : List Char}
    (blank : allBlank blanks = true) : trimEnd (text ++ blanks) = trimEnd text := by
  induction text with
  | nil =>
    cases blanks with
    | nil => rfl
    | cons c rest => rw [List.nil_append, trimEnd_nil, trimEnd, if_pos blank]
  | cons c rest ih =>
    have same : allBlank (c :: (rest ++ blanks)) = allBlank (c :: rest) := by
      rw [allBlank, ← List.cons_append, List.all_append, ← allBlank, ← allBlank, blank, Bool.and_true]
    rw [List.cons_append, trimEnd, trimEnd, same, ih]

/-- Blanks in front do not matter to trimming. -/
theorem trim_blank_append {blanks : List Char} (blank : allBlank blanks = true) (text : List Char) :
    trim (blanks ++ text) = trim text := by
  rw [trim, trimStart_blank_append blank, ← trim]

/-- Blanks behind do not matter to trimming. -/
theorem trim_append_blank (text : List Char) {blanks : List Char} (blank : allBlank blanks = true) :
    trim (text ++ blanks) = trim text := by
  cases empty : trimStart text with
  | nil =>
    -- the text is blank itself, so nothing is left on either side
    have nothing : trim text = [] := by rw [trim, empty, trimEnd_nil]
    rw [trim_blank_append (trim_eq_nil_iff.1 nothing), nothing]
    exact trim_eq_nil_iff.2 blank
  | cons c rest =>
    have kept : trimStart (text ++ blanks) = trimStart text ++ blanks := by
      rw [trimStart, List.dropWhile_append, ← trimStart, empty]
      rfl
    rw [trim, kept, trimEnd_append_blank _ blank, ← trim]

/-- Trimming keeps every character that is not blank. -/
theorem mem_trim_iff {text : List Char} {c : Char} (visible : isBlank c = false) :
    c ∈ trim text ↔ c ∈ text := by
  obtain ⟨front, back, blankFront, blankBack, whole⟩ := exists_trim text
  have outside : ∀ {blanks}, allBlank blanks = true → c ∉ blanks := fun blank member => by
    rw [List.all_eq_true.1 blank c member] at visible
    cases visible
  conv => rhs; rw [whole]
  simp [outside blankFront, outside blankBack]

/-- Trimming keeps a firm end. -/
theorem getLast?_trim {text : List Char} (ends : EndsFirm text) : (trim text).getLast? = text.getLast? := by
  obtain ⟨front, blank, whole⟩ := exists_trimStart text
  obtain ⟨c, last, visible⟩ := ends
  have filled : trimStart text ≠ [] := by
    intro empty
    rw [empty, List.append_nil] at whole
    rw [List.all_eq_true.1 blank c (whole ▸ List.mem_of_getLast? last)] at visible
    cases visible
  have same : (trimStart text).getLast? = text.getLast? := by
    conv => rhs; rw [whole]
    rw [List.getLast?_append, List.getLast?_eq_some_getLast filled, Option.some_or]
  rw [trim, trimEnd_eq_self ⟨c, same.trans last, visible⟩, same]

/-- Trimming keeps a subset of the characters. -/
theorem mem_of_mem_trim {text : List Char} {c : Char} (member : c ∈ trim text) : c ∈ text := by
  obtain ⟨front, back, -, -, whole⟩ := exists_trim text
  rw [whole]
  simp [member]

end QueryPlan.Text

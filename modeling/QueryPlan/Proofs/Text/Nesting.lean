import Mathlib.Data.List.Forall2
import QueryPlan.Text.Blank
import QueryPlan.Text.Brackets

/-! # Nesting of brackets
Two texts are **nested alike** when, wherever they stand, they lead from the same bracket depth to the
same bracket depth, and either both are cut at a comma outside brackets or none is. Keywords, numbers,
blanks and question marks do not matter to this, and it is respected by concatenation: so one text may
take the place of the other inside a longer text without moving the commas at which the longer text is
split. A list of texts is **separable** when joining it with commas and splitting again gives it
back. -/

namespace QueryPlan.Text

/-! ## Depth and cuts -/

/-- The bracket depth behind a text that starts at a depth. -/
def depthBehind (depth : Nat) (text : List Char) : Nat := text.foldl depthAfter depth

/-- Whether a text that starts at a depth is **cut**: some comma in it stands at depth zero. -/
def IsCut (depth : Nat) : List Char → Prop
  | [] => False
  | c :: rest => (c = ',' ∧ depth = 0) ∨ IsCut (depthAfter depth c) rest

@[simp] theorem depthBehind_nil (depth : Nat) : depthBehind depth [] = depth := rfl

@[simp] theorem depthBehind_cons (depth : Nat) (c : Char) (rest : List Char) :
    depthBehind depth (c :: rest) = depthBehind (depthAfter depth c) rest := rfl

@[simp] theorem depthBehind_append (depth : Nat) (front back : List Char) :
    depthBehind depth (front ++ back) = depthBehind (depthBehind depth front) back :=
  List.foldl_append

@[simp] theorem isCut_nil (depth : Nat) : ¬ IsCut depth [] := id

@[simp] theorem isCut_cons (depth : Nat) (c : Char) (rest : List Char) :
    IsCut depth (c :: rest) ↔ (c = ',' ∧ depth = 0) ∨ IsCut (depthAfter depth c) rest := Iff.rfl

/-- A text is cut when its front is, or its back at the depth behind the front. -/
@[simp] theorem isCut_append (depth : Nat) (front back : List Char) :
    IsCut depth (front ++ back) ↔ IsCut depth front ∨ IsCut (depthBehind depth front) back := by
  induction front generalizing depth with
  | nil => simp
  | cons c rest ih => simp [ih, or_assoc]

/-- A comma does not change the depth. -/
@[simp] theorem depthAfter_comma (depth : Nat) : depthAfter depth ',' = depth := rfl

@[simp] theorem depthAfter_open (depth : Nat) : depthAfter depth '<' = depth + 1 := rfl

@[simp] theorem depthAfter_close (depth : Nat) : depthAfter depth '>' = depth - 1 := rfl

/-! ## Texts that are nested alike -/

/-- Two texts are **nested alike** when from every depth they lead to the same depth, and are cut or
not together. -/
def NestedAlike (left right : List Char) : Prop :=
  ∀ depth, depthBehind depth left = depthBehind depth right ∧
    (IsCut depth left ↔ IsCut depth right)

/-- A text is **closed** when it counts as nothing: its brackets match each other, and all its commas
stand inside them. -/
def Closed (text : List Char) : Prop := NestedAlike text []

namespace NestedAlike

theorem refl (text : List Char) : NestedAlike text text := fun _ => ⟨rfl, Iff.rfl⟩

theorem symm {left right : List Char} (alike : NestedAlike left right) : NestedAlike right left :=
  fun depth => ⟨(alike depth).1.symm, (alike depth).2.symm⟩

theorem trans {left middle right : List Char} (first : NestedAlike left middle)
    (second : NestedAlike middle right) : NestedAlike left right :=
  fun depth => ⟨(first depth).1.trans (second depth).1, (first depth).2.trans (second depth).2⟩

/-- Texts that are nested alike part by part are nested alike. -/
theorem append {left right left' right' : List Char} (front : NestedAlike left left')
    (back : NestedAlike right right') : NestedAlike (left ++ right) (left' ++ right') := by
  intro depth
  obtain ⟨behind, cut⟩ := front depth
  obtain ⟨end_, cut'⟩ := back (depthBehind depth left')
  exact ⟨by simp [behind, end_], by simp [behind, cut, cut']⟩

end NestedAlike

/-! ## Flat and closed texts -/

/-- A text is **flat** when it has neither brackets nor commas. -/
def Flat (text : List Char) : Prop := ∀ c ∈ text, c ≠ '<' ∧ c ≠ '>' ∧ c ≠ ','

instance : DecidablePred Flat := fun text => List.decidableBAll _ text

/-- A character that is neither a bracket nor a comma changes nothing. -/
theorem depthAfter_of_flat {c : Char} (plain : c ≠ '<' ∧ c ≠ '>' ∧ c ≠ ',') (depth : Nat) :
    depthAfter depth c = depth := by
  rw [depthAfter, if_neg plain.1, if_neg plain.2.1]

/-- Flat texts are closed. -/
theorem Flat.closed {text : List Char} (flat : Flat text) : Closed text := by
  induction text with
  | nil => exact .refl []
  | cons c rest ih =>
    have plain := flat c List.mem_cons_self
    intro depth
    have tail := ih (fun d member => flat d (List.mem_cons_of_mem c member)) depth
    rw [depthBehind_cons, isCut_cons, depthAfter_of_flat plain]
    exact ⟨tail.1, by simp [plain.2.2, tail.2]⟩

/-- Blanks are flat. -/
theorem flat_of_allBlank {text : List Char} (blank : allBlank text = true) : Flat text := by
  intro c member
  have blankChar := List.all_eq_true.1 blank c member
  refine ⟨?_, ?_, ?_⟩ <;> rintro rfl <;> exact absurd blankChar (by decide)

/-- A closed text may be added in front. -/
theorem NestedAlike.closed_append {front left right : List Char} (closed : Closed front)
    (alike : NestedAlike left right) : NestedAlike (front ++ left) right :=
  closed.append alike

/-- A closed text may be added behind. -/
theorem NestedAlike.append_closed {left right back : List Char} (alike : NestedAlike left right)
    (closed : Closed back) : NestedAlike (left ++ back) right := by
  simpa using alike.append closed

theorem Closed.append {front back : List Char} (first : Closed front) (second : Closed back) :
    Closed (front ++ back) :=
  NestedAlike.append first second

/-- A closed text is not cut. -/
theorem Closed.not_isCut {text : List Char} (closed : Closed text) (depth : Nat) :
    ¬ IsCut depth text := fun cut => (closed depth).2.1 cut

/-- A closed text leads back to the depth it starts at. -/
theorem Closed.depthBehind_eq {text : List Char} (closed : Closed text) (depth : Nat) :
    depthBehind depth text = depth := (closed depth).1

/-! ## Joining with commas -/

/-- Texts joined from parts that are nested alike are nested alike. -/
theorem NestedAlike.intercalate {lefts rights : List (List Char)}
    (alike : List.Forall₂ NestedAlike lefts rights) :
    NestedAlike ([','].intercalate lefts) ([','].intercalate rights) := by
  induction alike with
  | nil => exact .refl []
  | @cons left right lefts rights first rest ih =>
    cases rest with
    | nil => simpa using first
    | cons second rest =>
      rw [List.intercalate_cons_cons, List.intercalate_cons_cons]
      exact (first.append (.refl [','])).append ih

/-- A list of closed texts in brackets is closed. -/
theorem closed_brackets {parts : List (List Char)} (closed : ∀ part ∈ parts, Closed part) :
    Closed ('<' :: ([','].intercalate parts ++ ['>'])) := by
  -- between the brackets the depth is positive, so that the commas there do not cut
  have inside : ∀ depth, depthBehind (depth + 1) ([','].intercalate parts) = depth + 1 ∧
      ¬ IsCut (depth + 1) ([','].intercalate parts) := by
    intro depth
    induction parts with
    | nil => simp
    | cons part parts ih =>
      have first := closed part List.mem_cons_self
      have rest := ih fun other member => closed other (List.mem_cons_of_mem part member)
      cases parts with
      | nil =>
        rw [List.intercalate_singleton]
        exact ⟨first.depthBehind_eq _, first.not_isCut _⟩
      | cons next parts =>
        rw [List.intercalate_cons_cons]
        simp [first.depthBehind_eq, first.not_isCut, rest]
  intro depth
  simp [inside]

/-! ## Splitting what was joined -/

/-- A list of texts is **separable** when none of them is cut and each but the last leads back to depth
zero, so that the commas that join them are the ones at depth zero. -/
def Separable : List (List Char) → Prop
  | [] => True
  | [part] => ¬ IsCut 0 part
  | part :: next :: parts => (¬ IsCut 0 part ∧ depthBehind 0 part = 0) ∧ Separable (next :: parts)

/-- Closed texts are separable. -/
theorem separable_of_closed : ∀ {parts : List (List Char)}, (∀ part ∈ parts, Closed part) →
    Separable parts
  | [], _ => trivial
  | [part], closed => (closed part List.mem_cons_self).not_isCut 0
  | part :: _ :: _, closed =>
    have first := closed part List.mem_cons_self
    ⟨⟨first.not_isCut 0, first.depthBehind_eq 0⟩,
      separable_of_closed fun other member => closed other (List.mem_cons_of_mem part member)⟩

/-- Texts that are nested alike are separable together. -/
theorem Separable.congr {lefts rights : List (List Char)} (separable : Separable lefts)
    (alike : List.Forall₂ NestedAlike lefts rights) : Separable rights := by
  induction alike with
  | nil => trivial
  | @cons left right lefts rights first rest ih =>
    cases rest with
    | nil => exact fun cut => separable ((first 0).2.2 cut)
    | cons second rest =>
      obtain ⟨⟨uncut, back⟩, later⟩ := separable
      exact ⟨⟨fun cut => uncut ((first 0).2.2 cut), (first 0).1.symm.trans back⟩, ih later⟩

/-- A text that is not cut is its only part. -/
theorem splitAtDepth_of_not_isCut {depth : Nat} {text : List Char} (uncut : ¬ IsCut depth text) :
    splitAtDepth depth text = [text] := by
  induction text generalizing depth with
  | nil => rfl
  | cons c rest ih =>
    rw [isCut_cons, not_or] at uncut
    rw [splitAtDepth, if_neg uncut.1, ih uncut.2, pushFirst]

/-- A text that is not cut and leads to depth zero is the part in front of the next comma. -/
theorem splitAtDepth_append_comma {depth : Nat} {text : List Char} (rest : List Char)
    (uncut : ¬ IsCut depth text) (back : depthBehind depth text = 0) :
    splitAtDepth depth (text ++ ',' :: rest) = text :: splitAtDepth 0 rest := by
  induction text generalizing depth with
  | nil =>
    cases back
    rw [List.nil_append, splitAtDepth, if_pos ⟨rfl, rfl⟩]
  | cons c text ih =>
    rw [isCut_cons, not_or] at uncut
    rw [List.cons_append, splitAtDepth, if_neg uncut.1, ih uncut.2 back, pushFirst]

/-- **Splitting undoes joining**: separable texts joined with commas are split into themselves. -/
theorem splitTopLevel_intercalate {parts : List (List Char)} (filled : parts ≠ [])
    (separable : Separable parts) : splitTopLevel ([','].intercalate parts) = parts := by
  unfold splitTopLevel
  induction parts with
  | nil => exact absurd rfl filled
  | cons part parts ih =>
    cases parts with
    | nil =>
      rw [List.intercalate_singleton]
      exact splitAtDepth_of_not_isCut separable
    | cons next parts =>
      obtain ⟨⟨uncut, back⟩, later⟩ := separable
      rw [List.intercalate_cons_cons, List.append_assoc, List.singleton_append,
        splitAtDepth_append_comma _ uncut back, ih (List.cons_ne_nil _ _) later]

/-- Joining undoes splitting. -/
theorem intercalate_splitAtDepth (depth : Nat) (text : List Char) :
    [','].intercalate (splitAtDepth depth text) = text := by
  induction text generalizing depth with
  | nil => rfl
  | cons c rest ih =>
    rw [splitAtDepth]
    split
    · rename_i cut
      rw [List.intercalate_cons_of_ne_nil (splitAtDepth_ne_nil 0 rest), ih, cut.1]
      rfl
    · have whole := ih (depthAfter depth c)
      cases parts : splitAtDepth (depthAfter depth c) rest with
      | nil => exact absurd parts (splitAtDepth_ne_nil _ _)
      | cons first others =>
        rw [parts] at whole
        rw [pushFirst, List.intercalate_cons_cons_left, whole]

/-- The parts of a text are separable; the first of them starts at the depth of the text. -/
theorem splitAtDepth_separable {depth : Nat} {text first : List Char} {others : List (List Char)}
    (parts : splitAtDepth depth text = first :: others) :
    (¬ IsCut depth first ∧ (others ≠ [] → depthBehind depth first = 0)) ∧ Separable others := by
  induction text generalizing depth first others with
  | nil =>
    cases parts
    exact ⟨⟨id, fun filled => absurd rfl filled⟩, trivial⟩
  | cons c rest ih =>
    rw [splitAtDepth] at parts
    split at parts
    · rename_i cut
      cases parts
      -- the first part ends here, at depth zero, and the next one starts there
      refine ⟨⟨id, fun _ => cut.2⟩, ?_⟩
      cases later : splitAtDepth 0 rest with
      | nil => trivial
      | cons next others =>
        obtain ⟨⟨uncut, back⟩, tail⟩ := ih later
        cases others with
        | nil => exact uncut
        | cons after others => exact ⟨⟨uncut, back (List.cons_ne_nil _ _)⟩, tail⟩
    · rename_i uncut
      cases later : splitAtDepth (depthAfter depth c) rest with
      | nil => exact absurd later (splitAtDepth_ne_nil _ _)
      | cons next tail =>
        rw [later, pushFirst] at parts
        cases parts
        obtain ⟨⟨uncutRest, back⟩, separable⟩ := ih later
        exact ⟨⟨by rw [isCut_cons, not_or]; exact ⟨uncut, uncutRest⟩, back⟩, separable⟩

/-- The parts of a text are separable. -/
theorem separable_splitTopLevel (text : List Char) : Separable (splitTopLevel text) := by
  cases parts : splitTopLevel text with
  | nil => trivial
  | cons first others =>
    obtain ⟨⟨uncut, back⟩, separable⟩ := splitAtDepth_separable parts
    cases others with
    | nil => exact uncut
    | cons next others => exact ⟨⟨uncut, back (List.cons_ne_nil _ _)⟩, separable⟩

end QueryPlan.Text

import QueryPlan.Text.CaseTable

/-! # Lowercase text
Names and keywords are compared in lowercase. `lowercase` is the full Unicode mapping: most
characters have one lowercase form of their own, the dotted capital `İ` has a form of two characters,
and a capital sigma becomes the final form `ς` where it closes a word and `σ` elsewhere. -/

namespace QueryPlan.Text

/-- The lowercase form of a character that does not depend on its neighbours. -/
def lowerChar (c : Char) : List Char :=
  if c.toNat < 0x80 then [c.toLower]
  else if c.toNat == 0x130 then ['i', '\u0307']
  else match lowerRuns.find? (·.contains c.toNat) with
    | some run => [Char.ofNat (c.toNat + run.shift).toNat]
    | none => [c]

/-- Whether the first character of a text that is not case-ignorable has letter case. -/
def meetsCased (text : List Char) : Bool :=
  match text.dropWhile fun c => inRanges caseIgnorableRanges c.toNat with
  | [] => false
  | c :: _ => inRanges casedRanges c.toNat

/-- The lowercase form of a text that follows the reversed text `before`. A capital sigma is final
when it follows a cased character and precedes none, case-ignorable characters left aside. -/
def lowerAfter (before : List Char) : List Char → List Char
  | [] => []
  | c :: rest =>
    if c = 'Σ' then
      -- `before` is reversed, so both tests start next to the sigma
      (if meetsCased before && !meetsCased rest then 'ς' else 'σ') :: lowerAfter (c :: before) rest
    else lowerChar c ++ lowerAfter (c :: before) rest

/-- The lowercase form of a text. -/
def lowercase (text : List Char) : List Char := lowerAfter [] text

/-- The lowercase form of a name. -/
def lowercaseName (name : String) : String := String.ofList (lowercase name.toList)

/-- On ASCII text the lowercase form is taken character by character. -/
theorem lowerAfter_of_ascii (before text : List Char) (ascii : ∀ c ∈ text, c.toNat < 0x80) :
    lowerAfter before text = text.map Char.toLower := by
  induction text generalizing before with
  | nil => rfl
  | cons c rest ih =>
    have small : c.toNat < 0x80 := ascii c (by simp)
    have plain : c ≠ 'Σ' := by
      rintro rfl
      exact absurd small (by decide)
    simp [lowerAfter, plain, lowerChar, small, ih (c :: before) fun d hd => ascii d (by simp [hd])]

/-- The lowercase form of ASCII text is its character-by-character lowercase form. -/
theorem lowercase_of_ascii (text : List Char) (ascii : ∀ c ∈ text, c.toNat < 0x80) :
    lowercase text = text.map Char.toLower :=
  lowerAfter_of_ascii [] text ascii

/-- Whether a character is in ASCII and no capital letter. -/
def isSmall (c : Char) : Bool := c.toNat < 0x80 && c.toLower == c

/-- ASCII text without capitals stays itself in lowercase. -/
theorem lowercase_eq_self {text : List Char} (small : text.all isSmall = true) :
    lowercase text = text := by
  simp only [List.all_eq_true, isSmall, Bool.and_eq_true, decide_eq_true_eq, beq_iff_eq] at small
  rw [lowercase_of_ascii text fun c member => (small c member).1]
  exact (List.map_congr_left fun c member => (small c member).2).trans (List.map_id text)

end QueryPlan.Text

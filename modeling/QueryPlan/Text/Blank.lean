/-! # Blank characters and trimming
The white space that may surround a name, a keyword or a type parameter. A character is **blank** when
it has the Unicode property White_Space; `trim` removes the blank characters at both ends of a text
and leaves the ones inside it alone. -/

namespace QueryPlan.Text

/-- A character is **blank** when it has the Unicode property White_Space. -/
def isBlank (c : Char) : Bool :=
  let point := c.toNat
  (0x9 ≤ point && point ≤ 0xD) || point == 0x20 || point == 0x85 || point == 0xA0 ||
    point == 0x1680 || (0x2000 ≤ point && point ≤ 0x200A) || point == 0x2028 || point == 0x2029 ||
    point == 0x202F || point == 0x205F || point == 0x3000

/-- Whether a text is empty or holds blank characters only. -/
def allBlank (text : List Char) : Bool := text.all isBlank

@[simp] theorem allBlank_nil : allBlank [] = true := rfl

@[simp] theorem allBlank_cons (c : Char) (text : List Char) :
    allBlank (c :: text) = (isBlank c && allBlank text) := rfl

/-- The text without the blank characters it starts with. -/
def trimStart (text : List Char) : List Char := text.dropWhile isBlank

/-- The text without the blank characters it ends with. -/
def trimEnd : List Char → List Char
  | [] => []
  | c :: rest => if allBlank (c :: rest) then [] else c :: trimEnd rest

/-- The text without the blank characters at either end. -/
def trim (text : List Char) : List Char := trimEnd (trimStart text)

@[simp] theorem trimStart_nil : trimStart [] = [] := rfl

@[simp] theorem trimEnd_nil : trimEnd [] = [] := rfl

/-- Trimming the start does not lengthen a text. -/
theorem length_trimStart_le (text : List Char) : (trimStart text).length ≤ text.length := by
  induction text with
  | nil => simp
  | cons c rest ih =>
    by_cases h : isBlank c
    · simpa [trimStart, h] using Nat.le_succ_of_le (by simpa [trimStart] using ih)
    · simp [trimStart, h]

/-- Trimming the end does not lengthen a text. -/
theorem length_trimEnd_le (text : List Char) : (trimEnd text).length ≤ text.length := by
  induction text with
  | nil => simp
  | cons c rest ih =>
    rw [trimEnd]
    split
    · simp
    · simpa using ih

/-- Trimming does not lengthen a text. -/
theorem length_trim_le (text : List Char) : (trim text).length ≤ text.length :=
  Nat.le_trans (length_trimEnd_le _) (length_trimStart_le text)

end QueryPlan.Text

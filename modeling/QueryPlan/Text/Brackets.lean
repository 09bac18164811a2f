/-! # Splitting at commas outside brackets
The parameters of a type text are separated by commas, and a comma inside a nested `<…>` belongs to
that nested text. `splitTopLevel` cuts a text at the commas that stand outside all brackets. A
closing bracket without an opening one leaves the depth at zero.

The depth is a natural number and has no bound. A depth that is counted in 32 bits with a sign is the same
for every text with fewer than `2 ^ 31` opening brackets. -/

namespace QueryPlan.Text

/-- The bracket depth after a character, when it is `depth` before it. -/
def depthAfter (depth : Nat) (c : Char) : Nat :=
  if c = '<' then depth + 1 else if c = '>' then depth - 1 else depth

/-- Puts a character in front of the first part. -/
def pushFirst (c : Char) : List (List Char) → List (List Char)
  | [] => [[c]]
  | part :: parts => (c :: part) :: parts

/-- The parts of a text between the commas at depth zero, when the text starts at `depth`, a number without
bound. -/
def splitAtDepth (depth : Nat) : List Char → List (List Char)
  | [] => [[]]
  | c :: rest =>
    if c = ',' ∧ depth = 0 then [] :: splitAtDepth 0 rest
    else pushFirst c (splitAtDepth (depthAfter depth c) rest)

/-- The parts of a text between the commas that stand outside all brackets. -/
def splitTopLevel (text : List Char) : List (List Char) := splitAtDepth 0 text

/-- A text has at least one part. -/
theorem splitAtDepth_ne_nil (depth : Nat) (text : List Char) : splitAtDepth depth text ≠ [] := by
  cases text with
  | nil => simp [splitAtDepth]
  | cons c rest =>
    rw [splitAtDepth]
    split
    · simp
    · cases splitAtDepth (depthAfter depth c) rest <;> simp [pushFirst]

/-- No part is longer than the text it is cut from. -/
theorem length_le_of_mem_splitAtDepth {depth : Nat} {text part : List Char}
    (member : part ∈ splitAtDepth depth text) : part.length ≤ text.length := by
  induction text generalizing depth part with
  | nil => simp_all [splitAtDepth]
  | cons c rest ih =>
    rw [splitAtDepth] at member
    split at member
    · rcases List.mem_cons.1 member with rfl | later
      · simp
      · exact Nat.le_succ_of_le (ih later)
    · revert member
      cases parts : splitAtDepth (depthAfter depth c) rest with
      | nil => exact (splitAtDepth_ne_nil _ _ parts).elim
      | cons first others =>
        intro member
        rcases List.mem_cons.1 member with rfl | later
        · have := @ih (depthAfter depth c) first (by simp [parts])
          simpa using this
        · exact Nat.le_succ_of_le (@ih (depthAfter depth c) part (by simp [parts, later]))

end QueryPlan.Text

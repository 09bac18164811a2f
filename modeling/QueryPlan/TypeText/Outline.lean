import QueryPlan.Text.Blank
import QueryPlan.Text.Brackets
import QueryPlan.Nullability
import QueryPlan.DataType.Error

/-! # Outlines of type texts
A type text has the form `keyword<parameter,…>?`, with the brackets and the question mark optional.
`Parts.ofText` takes one level of it apart; an `Outline` is the tree of all levels, in which a part
that is not of this form stands as a malformed leaf. Whether a keyword takes parameters, and whether
those are types or numbers, is left to the readers of outlines. -/

namespace QueryPlan

/-- One level of a type text: a keyword as it was written, the texts of its parameters if it has
brackets, and its nullability. -/
structure Parts where
  /-- The text in front of the brackets, or the whole text. -/
  keyword : List Char
  /-- The trimmed texts between the commas, if there are brackets. -/
  parameters? : Option (List (List Char))
  /-- Nullable when the text ends in a question mark. -/
  nullability : Nullability

namespace Parts

/-- Cuts the question mark off the end of a trimmed text. -/
def cutMark (text : List Char) : List Char × Nullability :=
  match text.reverse with
  | '?' :: rest => (Text.trimEnd rest.reverse, .nullable)
  | _ => (text, .required)

/-- The texts between the commas of a bracketed text, trimmed; none if the text is blank. -/
def splitParameters (inner : List Char) : List (List Char) :=
  if (Text.trim inner).isEmpty then [] else (Text.splitTopLevel inner).map Text.trim

/-- Takes a text without its question mark apart at the first opening bracket. -/
def ofBody (null : Nullability) (body : List Char) : Except ReadFault Parts :=
  match body.dropWhile (· ≠ '<') with
  | [] => .ok ⟨body, none, null⟩
  | _ :: bracketed =>
    -- the first opening bracket belongs to the bracket at the very end
    match bracketed.reverse with
    | '>' :: inner =>
      let parameters := splitParameters inner.reverse
      -- a blank pair of brackets has no parameters, but a blank between commas is a fault
      if parameters.any List.isEmpty then .error .emptyParameter
      else .ok ⟨Text.trim (body.takeWhile (· ≠ '<')), some parameters, null⟩
    | _ => .error .unclosedBracket

/-- Takes one level of a type text apart. -/
def ofText (text : List Char) : Except ReadFault Parts :=
  match Text.trim text with
  | [] => .error .emptyText
  | trimmed =>
    let (body, null) := cutMark trimmed
    ofBody null body

/-- The texts of the parameters, none if there are no brackets. -/
def parameters (parts : Parts) : List (List Char) := parts.parameters?.getD []

/-- Cutting the question mark off does not lengthen a text. -/
theorem length_cutMark_le (text : List Char) : (cutMark text).1.length ≤ text.length := by
  unfold cutMark
  split
  · rename_i rest reversed
    have whole : text = rest.reverse ++ ['?'] := by
      have := congrArg List.reverse reversed
      simpa using this
    have := Text.length_trimEnd_le rest.reverse
    simp [whole] at this ⊢
    omega
  · simp

/-- No parameter is longer than the text inside the brackets. -/
theorem length_le_of_mem_splitParameters {inner parameter : List Char}
    (member : parameter ∈ splitParameters inner) : parameter.length ≤ inner.length := by
  unfold splitParameters at member
  split at member
  · simp at member
  · obtain ⟨part, cut, rfl⟩ := List.mem_map.1 member
    exact Nat.le_trans (Text.length_trim_le part) (Text.length_le_of_mem_splitAtDepth cut)

/-- A parameter is shorter than the text whose body it is read from. -/
theorem length_lt_of_mem_ofBody {null : Nullability} {body parameter : List Char} {parts : Parts}
    (read : ofBody null body = .ok parts) (member : parameter ∈ parts.parameters) :
    parameter.length < body.length := by
  unfold ofBody at read
  split at read
  · cases read
    simp [parameters] at member
  · rename_i opening rest cut
    split at read
    · rename_i inner closed
      simp only at read
      split at read
      · contradiction
      · cases read
        have inside : parameter.length ≤ inner.reverse.length :=
          length_le_of_mem_splitParameters (by simpa [parameters] using member)
        have size : rest.length = inner.length + 1 := by
          simpa using congrArg List.length closed
        have suffixed : (opening :: rest).length ≤ body.length :=
          cut ▸ (List.dropWhile_sublist _).length_le
        simp at inside suffixed
        omega
    · contradiction

/-- A parameter is shorter than the text it is read from. -/
theorem length_lt_of_mem_ofText {text parameter : List Char} {parts : Parts}
    (read : ofText text = .ok parts) (member : parameter ∈ parts.parameters) :
    parameter.length < text.length := by
  unfold ofText at read
  split at read
  · contradiction
  · exact Nat.lt_of_lt_of_le (length_lt_of_mem_ofBody read member)
      (Nat.le_trans (length_cutMark_le _) (Text.length_trim_le text))

end Parts

/-- The **outline** of a type text: the tree of its keywords. -/
inductive Outline
  /-- A text that is not of the form of a type text. -/
  | malformed (text : List Char) (fault : ReadFault)
  /-- A keyword with its nullability and the outlines of its parameters; `hasBrackets` tells an empty
  parameter list from none. -/
  | node (text keyword : List Char) (nullability : Nullability) (hasBrackets : Bool)
    (parameters : List Outline)

namespace Outline

/-- The text that an outline was read from. -/
def text : Outline → List Char
  | malformed text _ => text
  | node text _ _ _ _ => text

/-- Reads the outline of a type text. -/
def ofText (text : List Char) : Outline :=
  match _ : Parts.ofText text with
  | .error fault => malformed text fault
  | .ok parts =>
    node text parts.keyword parts.nullability parts.parameters?.isSome
      (parts.parameters.attach.map fun parameter => ofText parameter.1)
termination_by text.length
decreasing_by exact Parts.length_lt_of_mem_ofText ‹_› parameter.2

/-- A text that cannot be taken apart has a malformed outline. -/
theorem ofText_of_error {text : List Char} {fault : ReadFault}
    (read : Parts.ofText text = .error fault) : ofText text = malformed text fault := by
  rw [ofText]
  split <;> simp_all

/-- The outline of a text that can be taken apart has the outlines of its parameters below it. -/
theorem ofText_of_ok {text : List Char} {parts : Parts} (read : Parts.ofText text = .ok parts) :
    ofText text =
      node text parts.keyword parts.nullability parts.parameters?.isSome
        (parts.parameters.map ofText) := by
  rw [ofText]
  split
  · simp_all
  · rename_i found again
    have : found = parts := by simpa [read] using again.symm
    subst this
    simp

/-- An outline keeps the text it was read from. -/
@[simp] theorem text_ofText (text : List Char) : (ofText text).text = text := by
  cases read : Parts.ofText text with
  | error fault => rw [ofText_of_error read]; rfl
  | ok parts => rw [ofText_of_ok read]; rfl

end Outline

end QueryPlan

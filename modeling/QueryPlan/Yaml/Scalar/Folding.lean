import QueryPlan.Yaml.Cursor

/-! # Folding
A scalar may go over several lines. What stands between two of its words is folded: one line feed counts
as a blank, further line breaks count as breaks, and the blanks around a break do not count. -/

namespace QueryPlan.Yaml

/-- A scalar as it was read. -/
structure Scalar where
  /-- The text of the scalar. -/
  text : List Char
  /-- The place behind it, and behind the blanks and line breaks that were read to find its end. -/
  after : Cursor
  /-- Whether there is a line break among these. -/
  endsLine : Bool

/-- The line breaks of a gap. -/
def breaksOf (gap : List Char) : List Char := gap.filter isBreak

/-- The text that stands for the blanks and line breaks between two words. -/
def fold (gap : List Char) : List Char :=
  match breaksOf gap with
  | [] => gap
  | ['\n'] => [' ']
  | '\n' :: breaks => breaks
  | breaks => breaks

end QueryPlan.Yaml

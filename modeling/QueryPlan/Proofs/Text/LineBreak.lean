import QueryPlan.Decimal.Shortest
import Mathlib.Data.List.Basic

/-! # Line breaks
A text whose lines are all ended has as many of them as it has line breaks, and line breaks add up over
the parts that a text is put together from. The texts of numbers have none. -/

namespace QueryPlan.Text

/-! ## Lines -/

/-- The **lines** of a text: what stands in front of each line break, and what is left behind the last
one if anything is. -/
def lines : List Char → List (List Char)
  | [] => []
  | c :: rest =>
    if c = '\n' then [] :: lines rest
    else match lines rest with
      | [] => [[c]]
      | line :: others => (c :: line) :: others

/-- A text up to an ended line has a line for each line break, whatever follows it. -/
theorem length_lines_append (text rest : List Char) :
    (lines (text ++ '\n' :: rest)).length = text.count '\n' + 1 + (lines rest).length := by
  induction text with
  | nil => simp [lines, Nat.add_comm]
  | cons c text ih =>
    rw [List.cons_append, lines]
    split
    · rename_i equal
      rw [List.length_cons, ih, equal, List.count_cons_self]
      omega
    · rename_i other
      rw [List.count_cons_of_ne other, ← ih]
      -- the character goes in front of the first line, which is there since one is ended later on
      split
      · rename_i empty
        rw [empty, List.length_nil] at ih
        omega
      · rename_i found
        rw [found, List.length_cons, List.length_cons]

example : lines ['a', '\n', '\n', 'b'] = [['a'], [], ['b']] := rfl

/-! ## Counting line breaks -/

/-- The number of **line breaks** in a text. -/
def breaks (text : String) : Nat := text.toList.count '\n'

/-- The number of line breaks in several texts. -/
def breaksIn : List String → Nat
  | [] => 0
  | text :: texts => breaks text + breaksIn texts

@[simp] theorem breaks_append (text other : String) :
    breaks (text ++ other) = breaks text + breaks other := by
  simp [breaks]

@[simp] theorem breaks_toString (text : String) : breaks (toString text) = breaks text := rfl

@[simp] theorem breaksIn_nil : breaksIn [] = 0 := rfl

@[simp] theorem breaksIn_cons (text : String) (texts : List String) :
    breaksIn (text :: texts) = breaks text + breaksIn texts := rfl

@[simp] theorem breaksIn_append (texts others : List String) :
    breaksIn (texts ++ others) = breaksIn texts + breaksIn others := by
  induction texts with
  | nil => simp
  | cons text texts ih => simp [ih, Nat.add_assoc]

/-- Texts of the members of a list have the line breaks of what the members carry if each of them has. -/
theorem breaksIn_map_eq {α : Type} {members : List α} {text : α → String} {carried : α → List String}
    (each : ∀ member ∈ members, breaks (text member) = breaksIn (carried member)) :
    breaksIn (members.map text) = breaksIn (members.flatMap carried) := by
  induction members with
  | nil => rfl
  | cons member members ih =>
    obtain ⟨first, rest⟩ := List.forall_mem_cons.1 each
    rw [List.map_cons, breaksIn_cons, List.flatMap_cons, breaksIn_append, first, ih rest]

/-- Texts have no line breaks in all exactly when none of them has one. -/
theorem breaksIn_eq_zero_iff {texts : List String} :
    breaksIn texts = 0 ↔ ∀ text ∈ texts, '\n' ∉ text.toList := by
  induction texts with
  | nil => simp
  | cons text texts ih => simp [ih, breaks, List.count_eq_zero]

/-- Line breaks add up over the parts of a text between separators without any. -/
theorem breaks_intercalate {separator : String} (none : breaks separator = 0) (parts : List String) :
    breaks (separator.intercalate parts) = breaksIn parts := by
  induction parts with
  | nil => rfl
  | cons part parts ih =>
    cases parts with
    | nil => simp
    | cons next parts =>
      rw [String.intercalate_cons_cons, breaks_append, breaks_append, none, ih]
      simp

/-! ## Numbers -/

/-- Digits have no line break among them. -/
theorem count_break_toDigits (number : Nat) : (Nat.toDigits 10 number).count '\n' = 0 := by
  refine List.count_eq_zero.2 fun member => ?_
  have digit := Nat.isDigit_of_mem_toDigits (by decide) (by decide) member
  exact absurd digit (by decide)

@[simp] theorem breaks_repr_nat (number : Nat) : breaks number.repr = 0 := by
  rw [breaks, Nat.toList_repr, count_break_toDigits]

@[simp] theorem breaks_repr_int (number : Int) : breaks number.repr = 0 := by
  cases number with
  | ofNat magnitude => exact breaks_repr_nat magnitude
  | negSucc less =>
    have written : (Int.negSucc less).repr = "-" ++ (less + 1).repr := rfl
    rw [written, breaks_append, breaks_repr_nat]
    rfl

@[simp] theorem breaks_toString_uint32 (number : UInt32) : breaks (toString number) = 0 :=
  breaks_repr_nat number.toNat

@[simp] theorem breaks_toString_uint8 (number : UInt8) : breaks (toString number) = 0 :=
  breaks_repr_nat number.toNat

/-- A decimal number is written with digits and perhaps a point. -/
theorem breaks_scaled_text (number : Decimal.Scaled) : breaks number.text = 0 := by
  have digits : (toString number.digits).toList.count '\n' = 0 := breaks_repr_nat number.digits
  -- zeros and a point stand around and between the digits
  have padding (length : Nat) : (List.replicate length '0').count '\n' = 0 := by
    simp [List.count_replicate]
  unfold Decimal.Scaled.text
  extract_lets given places padded whole
  split
  · rw [breaks, String.toList_ofList, List.count_append, digits, padding]
  · have parts : (padded.take whole).count '\n' + (padded.drop whole).count '\n' = 0 := by
      rw [← List.count_append, List.take_append_drop, List.count_append, padding, digits]
    rw [breaks, String.toList_ofList, List.count_append, List.count_cons_of_ne (by decide), parts]

/-- A floating point number is written on one line. -/
theorem breaks_format_text (format : Decimal.Format) (bits : Nat) : breaks (format.text bits) = 0 := by
  unfold Decimal.Format.text
  split
  · rfl
  · split <;> rfl
  · rename_i negative mantissa exponent _
    extract_lets magnitude
    have plain : breaks magnitude = 0 := by
      unfold magnitude
      split
      · rfl
      · exact breaks_scaled_text _
    split
    · rw [breaks_append, plain]
      rfl
    · exact plain

end QueryPlan.Text

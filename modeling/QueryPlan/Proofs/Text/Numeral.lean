import QueryPlan.Text.Numeral
import QueryPlan.Proofs.Text.Nesting
import QueryPlan.Proofs.Text.Trimming

/-! # Written numbers
A whole number within the bound of a reader is read back from its decimal digits. Whatever a reader
accepts consists of digits and perhaps a plus sign, so that it is flat and firm. -/

namespace QueryPlan.Text

/-- A digit is a visible character. -/
theorem isBlank_of_isDigit {c : Char} (digit : c.isDigit = true) : isBlank c = false := by
  have range : 48 ≤ c.toNat ∧ c.toNat ≤ 57 := by
    simpa [Char.isDigit, UInt32.le_iff_toNat_le] using digit
  exact isBlank_of_visible (by omega) (by omega)

/-- Decimal digits are read as the number they were written for. -/
theorem readNumeral?_toDigits {bound value : Nat} (small : value < bound) :
    readNumeral? bound (Nat.toDigits 10 value) = some value := by
  have digits : ∀ c ∈ Nat.toDigits 10 value, c.isDigit = true :=
    fun c member => Nat.isDigit_of_mem_toDigits (by decide) (by decide) member
  have filled : Nat.toDigits 10 value ≠ [] := Nat.toDigits_ne_nil
  have whole : unsigned (Nat.toDigits 10 value) = Nat.toDigits 10 value := by
    unfold unsigned
    split
    · rename_i rest plus
      exact absurd (digits '+' (by simp [plus])) (by decide)
    · rfl
  have all : (Nat.toDigits 10 value).all Char.isDigit = true := List.all_eq_true.2 digits
  rw [readNumeral?, whole, all]
  simp [small, filled, Nat.ofDigitChars_ten_toDigits]

/-- A written length is read back. -/
theorem readLength?_toString (length : UInt32) :
    readLength? (toString length).toList = some length := by
  have written : (toString length).toList = Nat.toDigits 10 length.toNat := Nat.toList_repr
  rw [readLength?, written, readNumeral?_toDigits length.toNat_lt_size, Option.map_some,
    UInt32.ofNat_toNat]

/-- A written precision or scale is read back. -/
theorem readPrecision?_toString (precision : UInt8) :
    readPrecision? (toString precision).toList = some precision := by
  have written : (toString precision).toList = Nat.toDigits 10 precision.toNat := Nat.toList_repr
  rw [readPrecision?, written, readNumeral?_toDigits precision.toNat_lt_size, Option.map_some,
    UInt8.ofNat_toNat]

/-- What is read as a number consists of digits, and perhaps a plus sign in front. -/
theorem digits_of_readNumeral? {bound value : Nat} {text : List Char}
    (read : readNumeral? bound text = some value) :
    text ≠ [] ∧ ∀ c ∈ text, c = '+' ∨ c.isDigit = true := by
  have accepted : (!(unsigned text).isEmpty && (unsigned text).all Char.isDigit) = true := by
    unfold readNumeral? at read
    by_contra refused
    simp only at read
    rw [if_neg refused] at read
    cases read
  rw [Bool.and_eq_true, Bool.not_eq_true', List.isEmpty_eq_false_iff, List.all_eq_true] at accepted
  obtain ⟨filled, digits⟩ := accepted
  unfold unsigned at filled digits
  split at digits
  · exact ⟨List.cons_ne_nil _ _, List.forall_mem_cons.2 ⟨.inl rfl, fun c member =>
      .inr (digits c member)⟩⟩
  · refine ⟨?_, fun c member => .inr (digits c member)⟩
    rintro rfl
    exact filled rfl

/-- A text that is read as a number has neither brackets nor commas. -/
theorem flat_of_readNumeral? {bound value : Nat} {text : List Char}
    (read : readNumeral? bound text = some value) : Flat text := by
  intro c member
  obtain rfl | digit := (digits_of_readNumeral? read).2 c member
  · decide
  · refine ⟨?_, ?_, ?_⟩ <;> rintro rfl <;> exact absurd digit (by decide)

/-- A text that is read as a number has no blanks. -/
theorem firm_of_readNumeral? {bound value : Nat} {text : List Char}
    (read : readNumeral? bound text = some value) : Firm text := by
  refine firm_of_forall (digits_of_readNumeral? read).1 fun c member => ?_
  obtain rfl | digit := (digits_of_readNumeral? read).2 c member
  · decide
  · exact isBlank_of_isDigit digit

/-- A precision is read within the bound of lengths, too. -/
theorem readNumeral?_mono {bound larger value : Nat} {text : List Char} (le : bound ≤ larger)
    (read : readNumeral? bound text = some value) : readNumeral? larger text = some value := by
  have small : value < larger := Nat.lt_of_lt_of_le (lt_of_readNumeral? read) le
  unfold readNumeral? at read ⊢
  simp only at read ⊢
  split at read
  · rename_i digits
    split at read
    · cases read
      rw [if_pos digits, if_pos small]
    · cases read
  · cases read

end QueryPlan.Text

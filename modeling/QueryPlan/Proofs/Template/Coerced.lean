import QueryPlan.Proofs.DataType.WellFormed

/-! # Coerced types
What a type becomes at a template keeps the nullability of the type and the length of a character
string, and belongs to the family that the template names. Each rule of coercion takes its own results,
as they are, so a type that was coerced onto a template stays what it is when it is coerced onto the
template again (`DataType.coerced_of_coerce?`). -/

namespace QueryPlan.DataType

/-- The length of a character string of bounded length. -/
def characterLength? : DataType → Option UInt32
  | atom (.sized kind length) _ => if kind.isCharacter then some length else none
  | _ => none

/-- What is **coerced** from a source onto a template. -/
structure Coerced (source : DataType) (target : Template) (result : DataType) : Prop where
  /-- Every atom in the result is within its bounds. -/
  wellFormed : result.WellFormed
  /-- The result allows null exactly when the source does. -/
  nullability : result.nullability = source.nullability
  /-- The result belongs to the family that the template names. -/
  family : ∀ family, target.family? = some family → result.family = family
  /-- At a placeholder the result is a character string of any length. -/
  string : ∀ name, target = .placeholder name → result = atom (.plain .string) source.nullability
  /-- A character string of bounded length comes from one of the same length. -/
  length : ∀ length, result.characterLength? = some length → source.characterLength? = some length
  /-- Coercing the result onto the template again does not change it. -/
  stable : result.coerce? target = some result

namespace CoercesTo

variable {source result : DataType} {target : Template}

/-- The result has the nullability of the source. -/
theorem nullability_eq (coerces : CoercesTo source target result) :
    result.nullability = source.nullability :=
  (carries_coerce? target).nullability_eq coerces.coerce?_eq

/-- The result belongs to the family that the template names. -/
theorem family_eq {family : Family} (coerces : CoercesTo source target result)
    (named : target.family? = some family) : result.family = family := by
  cases coerces with
  | same shape => exact shape.family_eq.trans (Option.some_inj.1 named)
  | bounded => exact Option.some_inj.1 named
  | string => cases named

/-- The result at a placeholder is a character string of any length. -/
theorem eq_string {name : String} (coerces : CoercesTo source (.placeholder name) result) :
    result = atom (.plain .string) source.nullability := by
  cases coerces with
  | string => rfl

/-- A character string of bounded length comes from one of the same length. -/
theorem characterLength?_eq {length : UInt32} (coerces : CoercesTo source target result)
    (found : result.characterLength? = some length) : source.characterLength? = some length := by
  cases coerces with
  | same => exact found
  | bounded fromCharacter toCharacter =>
    rw [characterLength?, if_pos toCharacter] at found
    rw [characterLength?, if_pos fromCharacter, found]
  -- the strings at a placeholder have lost their length
  | string => cases found

/-- **A rule takes its own results**, as they are. -/
theorem again (coerces : CoercesTo source target result) : CoercesTo result target result := by
  cases coerces with
  | same shape => exact .same shape
  | bounded fromCharacter toCharacter text state =>
    -- the kind changes no more, so the length is not checked
    exact .bounded toCharacter toCharacter text state (absurd rfl)
  | string character name => exact .string rfl name

end CoercesTo

/-- **Coercion is sound and stable**: from a well-formed type, whatever it is coerced onto, comes a
well-formed type of the family that the template names, with the nullability of the source and the
length of a character string, and coercing it again does not change it. -/
theorem coerced_of_coerce? {source result : DataType} {target : Template}
    (wellFormed : source.WellFormed) (coerced : source.coerce? target = some result) :
    Coerced source target result := by
  have coerces : CoercesTo source target result := coerce?_eq_some_iff.1 coerced
  exact {
    wellFormed := wellFormed.coerce? coerced
    nullability := coerces.nullability_eq
    family := fun _ named => coerces.family_eq named
    string := by
      rintro name rfl
      exact coerces.eq_string
    length := fun _ found => coerces.characterLength?_eq found
    stable := coerces.again.coerce?_eq }

/-- A nullable string of at most eight characters becomes one of exactly eight, and that stays one; at a
placeholder either of them becomes a string of any length. -/
theorem coerced_of_coerce?_code :
    let code : DataType := atom (.sized .varChar 8) .nullable
    let padded : DataType := atom (.sized .fixedChar 8) .nullable
    let fixed : Template := .sized .fixedChar "L1" .required
    code.WellFormed ∧ code.coerce? fixed = some padded ∧ Coerced code fixed padded ∧
      Coerced padded (.placeholder "any1") (atom (.plain .string) .nullable) := by
  intro code padded fixed
  have wellFormed : code.WellFormed := show (1 : UInt32) ≤ 8 by decide
  have coerced : code.coerce? fixed = some padded := rfl
  have first : Coerced code fixed padded := coerced_of_coerce? wellFormed coerced
  exact ⟨wellFormed, coerced, first, coerced_of_coerce? first.wellFormed rfl⟩

end QueryPlan.DataType

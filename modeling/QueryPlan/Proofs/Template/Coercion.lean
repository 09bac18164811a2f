import QueryPlan.Proofs.DataType.Reading
import QueryPlan.Template.Coercion

/-! # Coercion and nullability
Whether a type fits a template is a matter of its shape: coercion commutes with a change of the
nullability at the top (`DataType.carries_coerce?`). Operations on types with this property
**carry** the nullability of their argument, and what they say of one type they say of every type of
the same shape. Only templates of the announced forms can be coerced onto
(`DataType.form_mem_targetForms`), and there are three rules for what becomes of a source
(`DataType.coerce?_eq_some_iff`). -/

namespace QueryPlan.DataType

/-! ## Operations that carry nullability -/

/-- An operation **carries** nullability when it commutes with every change of it. -/
def Carries (operation : DataType → Option DataType) : Prop :=
  ∀ type null, operation (type.withNullability null) = (operation type).map (withNullability null)

/-- What carries nullability gives its result the nullability of its argument. -/
theorem Carries.nullability_eq {operation : DataType → Option DataType} (carries : Carries operation)
    {type result : DataType} (found : operation type = some result) :
    result.nullability = type.nullability := by
  have again := carries type type.nullability
  rw [withNullability_nullability, found, Option.map_some, Option.some_inj] at again
  rw [again, nullability_withNullability]

/-- What carries nullability treats types of one shape alike: it has results for both or for none, and
the results have one shape again. -/
theorem Carries.exists_of_sameShape {operation : DataType → Option DataType}
    (carries : Carries operation) {type other result : DataType} (same : SameShape type other)
    (found : operation type = some result) :
    ∃ again, operation other = some again ∧ SameShape result again := by
  refine ⟨result.withNullability other.nullability, ?_, ?_⟩
  · rw [same.eq_withNullability, carries, found, nullability_withNullability]
    rfl
  · exact (sameShape_withNullability _ result).symm

/-! ## Coercion -/

/-- A constructor that may refuse does so whatever the nullability. -/
theorem ofAtom?_withNullability (kind : Atom) (null other : Nullability) :
    ofAtom? kind other = (ofAtom? kind null).map (withNullability other) := by
  unfold ofAtom? ofAtom
  cases kind.fault? with
  | none => rfl
  | some fault => rfl

/-- **Coercion carries nullability**, onto every template. -/
theorem carries_coerce? (target : Template) : Carries fun source => source.coerce? target := by
  intro source null
  cases target with
  | concrete type =>
    by_cases fits : SameShape source type
    · have fitsChanged : SameShape (source.withNullability null) type :=
        sameShape_withNullability_iff.2 fits
      simp only [coerce?, if_pos fits, if_pos fitsChanged, Option.map_some]
    · have refused : ¬ SameShape (source.withNullability null) type :=
        mt sameShape_withNullability_iff.1 fits
      simp only [coerce?, if_neg fits, if_neg refused, Option.map_none]
  | sized kind length state =>
    -- only the character types of bounded length have a result, which is checked again
    cases source with
    | atom shape old =>
      cases shape with
      | sized sourceKind count =>
        cases kind <;> cases sourceKind <;> first | rfl | exact ofAtom?_withNullability _ old null
      | plain | precise | decimal | userDefined => cases kind <;> rfl
    | struct | list | map => cases kind <;> rfl
  | placeholder name =>
    cases source with
    | atom shape old =>
      cases shape with
      | plain sourceKind => cases sourceKind <;> rfl
      | sized sourceKind count => cases sourceKind <;> rfl
      | precise | decimal | userDefined => rfl
    | struct | list | map => rfl
  | precise | decimal | struct | list | map => rfl

/-! ## Announced forms -/

/-- Each family announces its own types. -/
theorem concrete_mem_targetForms (family : Family) :
    Template.Form.concrete family ∈ family.targetForms := by
  unfold Family.targetForms
  split <;> exact List.mem_cons_self

/-- **Coercion keeps to the announced forms**: a template that a type can be coerced onto has a form that
its family announces. -/
theorem form_mem_targetForms {source : DataType} {target : Template}
    (coercible : (source.coerce? target).isSome = true) : target.form ∈ source.family.targetForms := by
  -- one case for each row of the coercion
  fun_cases coerce? source target with
  | case1 _ type same =>
    rw [Template.form, ← same.family_eq]
    exact concrete_mem_targetForms source.family
  | case2 _ type different =>
    rw [coerce?, if_neg different] at coercible
    cases coercible
  | case3 | case4 | case5 | case6 | case7 | case8 | case9 =>
    simp [Template.form, family, Atom.family, Family.targetForms]
  | case10 => simp_all [coerce?]

/-! ## The rules -/

/-- A constructor that may refuse makes the type of an atom within its bounds. -/
theorem ofAtom?_eq_some_iff {kind : Atom} {null : Nullability} {type : DataType} :
    ofAtom? kind null = some type ↔ kind.InBounds ∧ type = atom kind null := by
  rw [ofAtom?, Outcome.toOption_eq_some_iff, ofAtom_eq_ok_iff]

/-- The **rules of coercion**: what a source becomes at a template. -/
inductive CoercesTo : DataType → Template → DataType → Prop
  /-- A concrete template takes the types of its shape, as they are. -/
  | same {source type : DataType} (shape : SameShape source type) :
    CoercesTo source (.concrete type) source
  /-- A template for character strings of bounded length takes both kinds of them. The length is carried
  over, and checked again where the kind changes. -/
  | bounded {source target : LengthKind} (fromCharacter : source.isCharacter = true)
    (toCharacter : target.isCharacter = true) {length : UInt32} {null : Nullability} (text : String)
    (state : Nullability) (checked : source ≠ target → 1 ≤ length) :
    CoercesTo (atom (.sized source length) null) (.sized target text state)
      (atom (.sized target length) null)
  /-- A placeholder takes character strings, as strings of any length. -/
  | string {source : Atom} (character : source.family.isCharacter = true) {null : Nullability}
    (name : String) : CoercesTo (atom source null) (.placeholder name) (atom (.plain .string) null)

/-- What a source is coerced into follows from a rule. -/
theorem coercesTo_of_coerce? {source result : DataType} {target : Template}
    (coerced : source.coerce? target = some result) : CoercesTo source target result := by
  cases target with
  | concrete type =>
    obtain ⟨shape, rfl⟩ := by simpa [coerce?] using coerced
    exact .same shape
  | sized target text state =>
    cases source with
    | atom shape null =>
      cases shape with
      | sized source length =>
        cases target with
        | fixedBinary => cases coerced
        | fixedChar =>
          cases source with
          | fixedBinary => cases coerced
          | fixedChar =>
            cases coerced
            exact .bounded rfl rfl text state (absurd rfl)
          | varChar =>
            -- the constructor of the other kind checks the length once more
            obtain ⟨inBounds, rfl⟩ := ofAtom?_eq_some_iff.1 coerced
            exact .bounded rfl rfl text state fun _ => inBounds
        | varChar =>
          cases source with
          | fixedBinary => cases coerced
          | varChar =>
            cases coerced
            exact .bounded rfl rfl text state (absurd rfl)
          | fixedChar =>
            obtain ⟨inBounds, rfl⟩ := ofAtom?_eq_some_iff.1 coerced
            exact .bounded rfl rfl text state fun _ => inBounds
      | plain | precise | decimal | userDefined => cases target <;> cases coerced
    | struct | list | map => cases target <;> cases coerced
  | placeholder name =>
    cases source with
    | atom shape null =>
      cases shape with
      | plain kind =>
        cases kind with
        | string =>
          cases coerced
          exact .string rfl name
        | _ => cases coerced
      | sized kind length =>
        cases kind with
        | fixedBinary => cases coerced
        | fixedChar | varChar =>
          cases coerced
          exact .string rfl name
      | precise | decimal | userDefined => cases coerced
    | struct | list | map => cases coerced
  -- no other template takes anything, not even types of its own family
  | precise | decimal | struct | list | map => cases coerced

/-- What follows from a rule is what the source is coerced into. -/
theorem CoercesTo.coerce?_eq {source result : DataType} {target : Template}
    (coerces : CoercesTo source target result) : source.coerce? target = some result := by
  cases coerces with
  | same shape => exact if_pos shape
  | @bounded source target fromCharacter toCharacter length null text state checked =>
    -- a change of kind is what the checked constructor is for
    cases target with
    | fixedBinary => cases toCharacter
    | fixedChar =>
      cases source with
      | fixedBinary => cases fromCharacter
      | fixedChar => rfl
      | varChar => exact ofAtom?_eq_some_iff.2 ⟨checked nofun, rfl⟩
    | varChar =>
      cases source with
      | fixedBinary => cases fromCharacter
      | varChar => rfl
      | fixedChar => exact ofAtom?_eq_some_iff.2 ⟨checked nofun, rfl⟩
  | @string source character null name =>
    cases source with
    | plain kind =>
      cases kind with
      | string => rfl
      | _ => cases character
    | sized kind length =>
      cases kind with
      | fixedBinary => cases character
      | fixedChar | varChar => rfl
    | precise | decimal | userDefined => cases character

/-- **Coercion** gives what its rules say. -/
theorem coerce?_eq_some_iff {source result : DataType} {target : Template} :
    source.coerce? target = some result ↔ CoercesTo source target result :=
  ⟨coercesTo_of_coerce?, CoercesTo.coerce?_eq⟩

end QueryPlan.DataType

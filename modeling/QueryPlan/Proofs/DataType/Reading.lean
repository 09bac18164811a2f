import Mathlib.Data.List.Forall2
import QueryPlan.DataType.Parser
import QueryPlan.Proofs.Outcome
import QueryPlan.Proofs.DataType.Components
import QueryPlan.Proofs.Text.Numeral
import QueryPlan.Proofs.TypeText.Word

/-! # Type texts that are read
What it takes for one level of a type text to be read, and as what: `ReadsLevel` says it without the
errors, the text of the level and the brackets, which do not matter when reading succeeds
(`DataType.ofOutline_eq_ok_iff`). -/

namespace QueryPlan

/-- Every member of the right of two related lists is related to some member of the left. -/
theorem exists_mem_of_forall₂ {α β : Type} {related : α → β → Prop} {lefts : List α} {rights : List β}
    (all : List.Forall₂ related lefts rights) {right : β} (member : right ∈ rights) :
    ∃ left ∈ lefts, related left right := by
  induction all with
  | nil => cases member
  | @cons left other lefts rights first _ ih =>
    obtain rfl | later := List.mem_cons.1 member
    · exact ⟨left, List.mem_cons_self, first⟩
    · obtain ⟨found, inside, holds⟩ := ih later
      exact ⟨found, List.mem_cons_of_mem left inside, holds⟩

/-- What holds of the members of one list and of those of another alike holds of all of them alike. -/
theorem forall_mem_iff_of_forall₂ {α β : Type} {left : α → Prop} {right : β → Prop} {lefts : List α}
    {rights : List β} (all : List.Forall₂ (fun one other => left one ↔ right other) lefts rights) :
    (∀ one ∈ lefts, left one) ↔ ∀ other ∈ rights, right other := by
  induction all with
  | nil => simp
  | cons first _ ih => rw [List.forall_mem_cons, List.forall_mem_cons, first, ih]

/-! ## Atoms -/

namespace Atom

/-- An atom has no fault exactly when it is within its bounds. -/
theorem fault?_eq_none_iff {kind : Atom} : kind.fault? = none ↔ kind.InBounds := by
  cases kind with
  | plain kind => simp [fault?, InBounds]
  | sized kind length =>
    simp only [fault?, InBounds, ite_eq_right_iff, reduceCtorEq, imp_false, UInt32.le_iff_toNat_le,
      ← UInt32.toNat_inj]
    exact Nat.one_le_iff_ne_zero.symm
  | precise kind precision => simp [fault?, InBounds, UInt8.not_lt]
  | decimal precision scale =>
    have positive : ¬ precision = 0 ↔ 1 ≤ precision := by
      rw [UInt8.le_iff_toNat_le, ← UInt8.toNat_inj]
      exact Nat.one_le_iff_ne_zero.symm
    simp only [fault?, InBounds, ite_eq_right_iff, reduceCtorEq, imp_false, not_or, UInt8.not_lt,
      positive]
  | userDefined name =>
    simp only [fault?, InBounds, ite_eq_right_iff, reduceCtorEq, imp_false, List.isEmpty_iff,
      Text.trim_eq_nil_iff, Bool.not_eq_true]

end Atom

/-- The type of an atom exists exactly within the bounds of the atom. -/
theorem DataType.ofAtom_eq_ok_iff {kind : Atom} {null : Nullability} {type : DataType} :
    ofAtom kind null = .ok type ↔ kind.InBounds ∧ type = atom kind null := by
  rw [ofAtom, ← Atom.fault?_eq_none_iff]
  cases kind.fault? with
  | none => simp [eq_comm]
  | some error => simp

namespace AtomForm

/-- The atom that parameters of the right form are **read** as. -/
inductive Reads : AtomForm → List (List Char) → Atom → Prop
  /-- No parameter. -/
  | fixed (kind : Atom) : Reads (.fixed kind) [] kind
  /-- A length. -/
  | sized {kind : LengthKind} {parameter : List Char} {length : UInt32}
    (read : Text.readLength? parameter = some length) :
    Reads (.sized kind) [parameter] (.sized kind length)
  /-- A precision. -/
  | precise {kind : PrecisionKind} {parameter : List Char} {precision : UInt8}
    (read : Text.readPrecision? parameter = some precision) :
    Reads (.precise kind) [parameter] (.precise kind precision)
  /-- A precision and a scale. -/
  | decimal {first second : List Char} {precision scale : UInt8}
    (readFirst : Text.readPrecision? first = some precision)
    (readSecond : Text.readPrecision? second = some scale) :
    Reads .decimal [first, second] (.decimal precision scale)

/-- A parameter is read when it is a number. -/
@[simp] theorem readNumber_eq_ok_iff {α : Type} {read? : List Char → Option α}
    {text parameter : List Char} {value : α} :
    readNumber read? text parameter = .ok value ↔ read? parameter = some value := by
  unfold readNumber
  split <;> simp_all

/-- What parameters are read as does not depend on the text they are named with in errors. -/
theorem readAtom_eq_ok_iff {text word : List Char} {form : AtomForm} {parameters : List (List Char)}
    {kind : Atom} : form.readAtom text word parameters = .ok kind ↔ form.Reads parameters kind := by
  constructor
  · intro read
    unfold readAtom at read
    split at read
    · cases read
      exact .fixed _
    · simp only [Outcome.bind_eq_ok_iff, readNumber_eq_ok_iff, Outcome.pure_eq_ok_iff] at read
      obtain ⟨length, read, rfl⟩ := read
      exact .sized read
    · simp only [Outcome.bind_eq_ok_iff, readNumber_eq_ok_iff, Outcome.pure_eq_ok_iff] at read
      obtain ⟨precision, read, rfl⟩ := read
      exact .precise read
    · simp only [Outcome.bind_eq_ok_iff, readNumber_eq_ok_iff, Outcome.pure_eq_ok_iff] at read
      obtain ⟨precision, readFirst, scale, readSecond, rfl⟩ := read
      exact .decimal readFirst readSecond
    · cases read
  · intro reads
    cases reads with
    | fixed => rfl
    | sized read =>
      simp only [readAtom, Outcome.bind_eq_ok_iff, readNumber_eq_ok_iff, Outcome.pure_eq_ok_iff]
      exact ⟨_, read, rfl⟩
    | precise read =>
      simp only [readAtom, Outcome.bind_eq_ok_iff, readNumber_eq_ok_iff, Outcome.pure_eq_ok_iff]
      exact ⟨_, read, rfl⟩
    | decimal readFirst readSecond =>
      simp only [readAtom, Outcome.bind_eq_ok_iff, readNumber_eq_ok_iff, Outcome.pure_eq_ok_iff]
      exact ⟨_, readFirst, _, readSecond, rfl⟩

/-- The parameters of an atom are whole numbers of at most 32 bits. -/
theorem Reads.exists_numeral {form : AtomForm} {parameters : List (List Char)} {kind : Atom}
    (reads : form.Reads parameters kind) {parameter : List Char} (member : parameter ∈ parameters) :
    ∃ value, Text.readNumeral? UInt32.size parameter = some value := by
  have precise : ∀ {text precision}, Text.readPrecision? text = some precision →
      ∃ value, Text.readNumeral? UInt32.size text = some value := by
    intro text precision read
    obtain ⟨value, small, -⟩ := Option.map_eq_some_iff.1 read
    exact ⟨value, Text.readNumeral?_mono (by decide) small⟩
  cases reads with
  | fixed => cases member
  | sized read =>
    obtain rfl := List.mem_singleton.1 member
    obtain ⟨value, read, -⟩ := Option.map_eq_some_iff.1 read
    exact ⟨value, read⟩
  | precise read =>
    obtain rfl := List.mem_singleton.1 member
    exact precise read
  | decimal readFirst readSecond =>
    obtain rfl | rest := List.mem_cons.1 member
    · exact precise readFirst
    · obtain rfl := List.mem_singleton.1 rest
      exact precise readSecond

/-- No keyword stands for an atom known by name only. -/
theorem Reads.userDefinedNames_eq {word : List Char} {form : AtomForm}
    (found : Keyword.find? word = some (.atom form)) {parameters : List (List Char)} {kind : Atom}
    (reads : form.Reads parameters kind) (null : Nullability) :
    (DataType.atom kind null).userDefinedNames = [] := by
  -- only an atom without parameters could be any atom, and those in the table are none of them
  have all : ∀ entry ∈ Keyword.table, (match entry.2 with
      | .atom (.fixed kind) => (DataType.atom kind .required).userDefinedNames
      | _ => []) = [] := by decide
  cases reads with
  | fixed kind =>
    have fixed := all _ (Keyword.mem_table_of_find? found)
    cases kind with
    | userDefined name => cases fixed
    | plain | sized | precise | decimal => rfl
  | sized | precise | decimal => rfl

end AtomForm

/-! ## Types -/

namespace DataType

/-- A type is **read off** a text when it is what the outline of the text stands for. -/
def ReadsText (text : List Char) (type : DataType) : Prop :=
  ofOutline (Outline.ofText text) = .ok type

/-- The type that one level of a type text is **read** as. -/
inductive ReadsLevel (parts : Parts) : DataType → Prop
  /-- A name behind the mark of a type known by name only. -/
  | userDefined {name : List Char} (marked : userDefinedName? parts.keyword = some name)
    (bare : parts.parameters = []) (inBounds : (Atom.userDefined (String.ofList name)).InBounds) :
    ReadsLevel parts (atom (.userDefined (String.ofList name)) parts.nullability)
  /-- The keyword of an atom, with numbers as parameters. -/
  | atom {form : AtomForm} {kind : Atom}
    (found : Keyword.find? (Text.lowercase parts.keyword) = some (.atom form))
    (read : form.Reads parts.parameters kind) (inBounds : kind.InBounds) :
    ReadsLevel parts (atom kind parts.nullability)
  /-- Another keyword, with types as parameters. -/
  | composite {keyword : Keyword} {components : List DataType} {type : DataType}
    (found : Keyword.find? (Text.lowercase parts.keyword) = some keyword)
    (members : List.Forall₂ ReadsText parts.parameters components)
    (composed : Composed parts.nullability keyword components type) : ReadsLevel parts type

/-- The same level with another nullability is read as the same type with that nullability. -/
theorem ReadsLevel.withNullability {parts : Parts} {type : DataType} (reads : ReadsLevel parts type)
    (null : Nullability) :
    ReadsLevel ⟨parts.keyword, parts.parameters?, null⟩ (type.withNullability null) := by
  cases reads with
  | userDefined marked bare inBounds => exact .userDefined marked bare inBounds
  | atom found read inBounds => exact .atom found read inBounds
  | composite found members composed => exact .composite found members (composed.withNullability null)

/-- A level is read as a type of its own nullability. -/
theorem ReadsLevel.nullability_eq {parts : Parts} {type : DataType} (reads : ReadsLevel parts type) :
    type.nullability = parts.nullability := by
  cases reads with
  | userDefined | atom => rfl
  | composite found members composed => cases composed <;> rfl

/-- A level that is read as a composed type has the components of that type for parameters. -/
theorem ReadsLevel.members_of_composed {parts : Parts} {null : Nullability} {keyword : Keyword}
    {components : List DataType} {type : DataType} (reads : ReadsLevel parts type)
    (composed : Composed null keyword components type) :
    List.Forall₂ ReadsText parts.parameters components := by
  cases reads with
  | userDefined | atom => cases composed
  | composite found members again =>
    obtain ⟨-, rfl⟩ := again.unique composed
    exact members

/-- A list of outlines is read outline by outline. -/
theorem ofOutlines_eq_ok_iff {outlines : List Outline} {types : List DataType} :
    ofOutlines outlines = .ok types ↔
      List.Forall₂ (fun outline type => ofOutline outline = .ok type) outlines types := by
  induction outlines generalizing types with
  | nil => simp [ofOutlines, eq_comm]
  | cons outline outlines ih =>
    simp only [ofOutlines, Outcome.bind_eq_ok_iff, Outcome.pure_eq_ok_iff, ih,
      List.forall₂_cons_left_iff]
    constructor
    · rintro ⟨type, first, others, rest, rfl⟩
      exact ⟨type, others, first, rest, rfl⟩
    · rintro ⟨type, others, first, rest, rfl⟩
      exact ⟨type, first, others, rest, rfl⟩

/-- The outlines of parameters keep their texts. -/
theorem map_text_map_ofText (texts : List (List Char)) :
    (texts.map Outline.ofText).map Outline.text = texts := by
  rw [List.map_map]
  conv_rhs => rw [← List.map_id texts]
  exact List.map_congr_left fun text _ => Outline.text_ofText text

/-- Texts are read when their outlines are. -/
theorem forall₂_readsText_iff {texts : List (List Char)} {types : List DataType} :
    List.Forall₂ ReadsText texts types ↔
      List.Forall₂ (fun outline type => ofOutline outline = .ok type)
        (texts.map Outline.ofText) types := by
  rw [List.forall₂_map_left_iff]
  rfl

/-- What a text is read as is what its level is read as. -/
theorem ReadsText.readsLevel {text : List Char} {parts : Parts} {type : DataType}
    (read : ReadsText text type) (level : Parts.ofText text = .ok parts) : ReadsLevel parts type := by
  rw [ReadsText, Outline.ofText_of_ok level] at read
  unfold ofOutline at read
  simp only at read
  split at read
  · rename_i name marked
    split at read
    · rename_i bare
      obtain ⟨inBounds, rfl⟩ := ofAtom_eq_ok_iff.1 read
      exact .userDefined marked (List.map_eq_nil_iff.1 (List.isEmpty_iff.1 bare)) inBounds
    · cases read
  · split at read
    · cases read
    · rename_i form found
      simp only [Outcome.bind_eq_ok_iff, AtomForm.readAtom_eq_ok_iff, ofAtom_eq_ok_iff,
        map_text_map_ofText] at read
      obtain ⟨kind, reads, inBounds, rfl⟩ := read
      exact .atom found reads inBounds
    · rename_i found
      simp only [Outcome.bind_eq_ok_iff, ofOutlines_eq_ok_iff, Outcome.pure_eq_ok_iff] at read
      obtain ⟨fields, members, rfl⟩ := read
      exact .composite found (forall₂_readsText_iff.2 members) (.struct fields)
    · rename_i found
      split at read
      · rename_i only
        simp only [Outcome.bind_eq_ok_iff, Outcome.pure_eq_ok_iff] at read
        obtain ⟨element, member, rfl⟩ := read
        refine .composite found (forall₂_readsText_iff.2 ?_) (.list element)
        rw [only]
        exact .cons member .nil
      · cases read
    · rename_i found
      split at read
      · rename_i both
        simp only [Outcome.bind_eq_ok_iff, Outcome.pure_eq_ok_iff] at read
        obtain ⟨key, readKey, value, readValue, rfl⟩ := read
        refine .composite found (forall₂_readsText_iff.2 ?_) (.map key value)
        rw [both]
        exact .cons readKey (.cons readValue .nil)
      · cases read

/-- What a level is read as is what its text is read as. -/
theorem ReadsLevel.readsText {text : List Char} {parts : Parts} {type : DataType}
    (reads : ReadsLevel parts type) (level : Parts.ofText text = .ok parts) : ReadsText text type := by
  rw [ReadsText, Outline.ofText_of_ok level]
  cases reads with
  | userDefined marked bare inBounds =>
    unfold ofOutline
    rw [marked, bare]
    exact ofAtom_eq_ok_iff.2 ⟨inBounds, rfl⟩
  | atom found read inBounds =>
    unfold ofOutline
    rw [Keyword.userDefinedName?_of_find?_lowercase found]
    simp only [found, Outcome.bind_eq_ok_iff, AtomForm.readAtom_eq_ok_iff, ofAtom_eq_ok_iff,
      map_text_map_ofText]
    exact ⟨_, read, inBounds, rfl⟩
  | composite found members composed =>
    replace members := forall₂_readsText_iff.1 members
    unfold ofOutline
    rw [Keyword.userDefinedName?_of_find?_lowercase found]
    generalize parts.parameters.map Outline.ofText = outlines at members ⊢
    cases composed with
    | struct =>
      simp only [found, Outcome.bind_eq_ok_iff, ofOutlines_eq_ok_iff, Outcome.pure_eq_ok_iff]
      exact ⟨_, members, rfl⟩
    | list =>
      cases members with | cons member none =>
      cases none
      simp only [found, Outcome.bind_eq_ok_iff, Outcome.pure_eq_ok_iff]
      exact ⟨_, member, rfl⟩
    | map =>
      cases members with | cons readKey rest =>
      cases rest with | cons readValue none =>
      cases none
      simp only [found, Outcome.bind_eq_ok_iff, Outcome.pure_eq_ok_iff]
      exact ⟨_, readKey, _, readValue, rfl⟩

/-- **A level is read** as what its keyword and its parameters stand for; an empty pair of brackets does
not matter. -/
theorem readsText_iff {text : List Char} {parts : Parts} (level : Parts.ofText text = .ok parts)
    {type : DataType} : ReadsText text type ↔ ReadsLevel parts type :=
  ⟨fun read => read.readsLevel level, fun reads => reads.readsText level⟩

/-- A text that is read is read level by level. -/
theorem ReadsText.exists_level {text : List Char} {type : DataType} (read : ReadsText text type) :
    ∃ parts, Parts.ofText text = .ok parts ∧ ReadsLevel parts type := by
  cases level : Parts.ofText text with
  | error fault =>
    rw [ReadsText, Outline.ofText_of_error level, ofOutline] at read
    cases read
  | ok parts => exact ⟨parts, rfl, read.readsLevel level⟩

end DataType

end QueryPlan

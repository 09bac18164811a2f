import QueryPlan.Proofs.DataType.RoundTrip
import QueryPlan.Proofs.TypeText.Respelling

/-! # Types read in every spelling
A type text without names is read as the same type in every spelling, or refused in every spelling
(`DataType.parse_eq_ok_iff_of_respelled`). Each level of a text is compared with that of its compact
spelling: the keywords announce the same, and the parameters are **read alike**, as numbers and as types.
Names are left out because their letter case matters, and the blanks around their brackets. -/

namespace QueryPlan

open Text

/-- Two texts are **read alike** when they are read as the same numbers and as the same types. -/
structure ReadAlike (left right : List Char) : Prop where
  /-- The same numbers, within every bound. -/
  number : ∀ bound, readNumeral? bound left = readNumeral? bound right
  /-- The same types. -/
  type : ∀ type, DataType.ReadsText left type ↔ DataType.ReadsText right type

theorem ReadAlike.symm {left right : List Char} (alike : ReadAlike left right) :
    ReadAlike right left :=
  ⟨fun bound => (alike.number bound).symm, fun type => (alike.type type).symm⟩

/-- Parameters that are read alike are read as the same atom. -/
theorem AtomForm.Reads.congr {form : AtomForm} {lefts rights : List (List Char)} {kind : Atom}
    (reads : form.Reads lefts kind) (alike : List.Forall₂ ReadAlike lefts rights) :
    form.Reads rights kind := by
  have length : ∀ {left right}, ReadAlike left right → readLength? left = readLength? right :=
    fun alike => by rw [readLength?, alike.number, readLength?]
  have precision : ∀ {left right}, ReadAlike left right → readPrecision? left = readPrecision? right :=
    fun alike => by rw [readPrecision?, alike.number, readPrecision?]
  cases reads with
  | fixed kind =>
    cases alike
    exact .fixed kind
  | sized read =>
    cases alike with | cons first rest =>
    cases rest
    exact .sized (length first ▸ read)
  | precise read =>
    cases alike with | cons first rest =>
    cases rest
    exact .precise (precision first ▸ read)
  | decimal readFirst readSecond =>
    cases alike with | cons first rest =>
    cases rest with | cons second rest =>
    cases rest
    exact .decimal (precision first ▸ readFirst) (precision second ▸ readSecond)

namespace DataType

/-- Texts that are read alike one by one are read as the same types. -/
theorem forall₂_readsText_congr {lefts rights : List (List Char)} {types : List DataType}
    (reads : List.Forall₂ ReadsText lefts types) (alike : List.Forall₂ ReadAlike lefts rights) :
    List.Forall₂ ReadsText rights types := by
  induction alike generalizing types with
  | nil =>
    cases reads
    exact .nil
  | cons first rest ih =>
    cases reads with | cons read others =>
    exact .cons ((first.type _).1 read) (ih others)

/-- Levels without names whose keywords announce the same and whose parameters are read alike are read as
the same type. -/
theorem ReadsLevel.congr {left right : Parts} {type : DataType} (reads : ReadsLevel left type)
    (unnamed : userDefinedName? left.keyword = none)
    (keyword : Keyword.find? (lowercase left.keyword) = Keyword.find? (lowercase right.keyword))
    (null : left.nullability = right.nullability)
    (parameters : List.Forall₂ ReadAlike left.parameters right.parameters) :
    ReadsLevel right type := by
  cases reads with
  | userDefined marked bare inBounds =>
    rw [unnamed] at marked
    cases marked
  | atom found reads inBounds =>
    rw [null]
    exact .atom (keyword ▸ found) (reads.congr parameters) inBounds
  | composite found members composed =>
    exact .composite (keyword ▸ found) (forall₂_readsText_congr members parameters) (null ▸ composed)

/-- A level without the mark of a name is read as the same type as its compact spelling when this is so
of its parameters. -/
theorem readsLevel_compact_iff {parts : Parts} {type : DataType} (unmarked : '!' ∉ parts.keyword)
    (trimmed : trim parts.keyword = parts.keyword)
    (parameters : ∀ parameter ∈ parts.parameters, ReadAlike parameter (compact parameter)) :
    ReadsLevel parts.compact type ↔ ReadsLevel parts type := by
  have unnamed : ∀ {keyword : List Char}, '!' ∉ keyword → userDefinedName? keyword = none := by
    intro keyword absent
    cases marked : userDefinedName? keyword with
    | none => rfl
    | some name =>
      rw [userDefinedName?_eq_some_iff.1 marked] at absent
      exact absurd (List.mem_cons_of_mem _ List.mem_cons_self) absent
  have compactUnmarked : '!' ∉ parts.compact.keyword :=
    mt (mem_compact_iff (by decide) (by decide)).1 unmarked
  have keyword := Keyword.find?_lowercase_compact trimmed
  have alike : List.Forall₂ ReadAlike parts.parameters parts.compact.parameters := by
    rw [Parts.parameters_compact, List.forall₂_map_right_iff, List.forall₂_same]
    exact parameters
  constructor
  · intro reads
    exact reads.congr (unnamed compactUnmarked) keyword rfl (alike.flip.imp fun _ _ => ReadAlike.symm)
  · intro reads
    exact reads.congr (unnamed unmarked) keyword.symm rfl alike

/-- **A text without names is read as its compact spelling is.** -/
theorem readsText_compact_iff {text : List Char} {type : DataType} (unmarked : '!' ∉ text) :
    ReadsText (compact text) type ↔ ReadsText text type := by
  induction text using Parts.text_induction generalizing type with
  | step text ih =>
    have level := Parts.ofText_compact text
    -- a text that cannot be taken apart is refused in both spellings
    cases given : Parts.ofText text with
    | error fault =>
      rw [given] at level
      constructor
      · intro read
        obtain ⟨parts, ok, -⟩ := read.exists_level
        rw [level] at ok
        cases ok
      · intro read
        obtain ⟨parts, ok, -⟩ := read.exists_level
        rw [given] at ok
        cases ok
    | ok parts =>
      rw [given] at level
      have inside := Parts.readFrom_ofText given
      rw [readsText_iff level, readsText_iff given]
      -- a parameter may be read as a number or as a type, depending on the keyword
      refine readsLevel_compact_iff (mt (inside.mem_of_mem_keyword '!') unmarked)
        (Parts.trim_keyword given) fun parameter member => ⟨fun bound => ?_, fun type => ?_⟩
      · exact (readNumeral?_compact bound (trim_eq_self (inside.parameters_firm parameter member))).symm
      · exact (ih parts given parameter member
          (mt (inside.mem_of_mem_parameter parameter member '!') unmarked)).symm

/-- **Spelling does not matter.** A text without the mark of a name is read as a type exactly when each of
its spellings is read as that type: letters may be in either case, and blanks may stand at both ends and
next to brackets, commas and question marks. -/
theorem parse_eq_ok_iff_of_respelled {text other : String} (unmarked : '!' ∉ text.toList)
    (respelled : Respelled text.toList other.toList) (type : DataType) :
    parse text = .ok type ↔ parse other = .ok type := by
  have same := respelled.compact_eq
  have kept : ∀ {text : List Char}, '!' ∈ compact text ↔ '!' ∈ text :=
    mem_compact_iff (by decide) (by decide)
  have otherUnmarked : '!' ∉ other.toList := by rwa [← kept, ← same, kept]
  calc parse text = .ok type
      ↔ ReadsText (compact text.toList) type := (readsText_compact_iff unmarked).symm
    _ ↔ ReadsText (compact other.toList) type := by rw [same]
    _ ↔ parse other = .ok type := readsText_compact_iff otherUnmarked

/-- Counts by date are read in another case, and with blanks at both ends, behind a bracket, in front of
a comma and in front of a question mark. -/
theorem parse_eq_ok_iff_of_respelled_counts :
    let counts := map (plain .date) (list (plain .i8) .nullable) .required
    '!' ∉ "map<date,list<i8>?>".toList ∧
      Respelled "map<date,list<i8>?>".toList "\tMap< DATE\n,list<I8> ?> ".toList ∧
      parse "map<date,list<i8>?>" = .ok counts ∧
      parse "\tMap< DATE\n,list<I8> ?> " = .ok counts := by
  intro counts
  have unmarked : '!' ∉ "map<date,list<i8>?>".toList := by decide
  have insert : ∀ (front inserted back : String), allBlank inserted.toList = true →
      Loose front.toList back.toList → ∀ {given before after : List Char},
      before = front.toList ++ back.toList →
      after = front.toList ++ (inserted.toList ++ back.toList) →
      Respelled given before → Respelled given after := by
    rintro front inserted back blank loose given _ _ rfl rfl respelled
    exact .blanks inserted.toList respelled loose blank
  have respelled :
      Respelled "map<date,list<i8>?>".toList "\tMap< DATE\n,list<I8> ?> ".toList := by
    have letters : Respelled "map<date,list<i8>?>".toList "Map<DATE,list<I8>?>".toList :=
      .letters .refl (by decide)
    have start : Respelled _ "\tMap<DATE,list<I8>?>".toList :=
      insert "" "\t" "Map<DATE,list<I8>?>" (by decide) (by decide) (by decide) (by decide) letters
    have bracket : Respelled _ "\tMap< DATE,list<I8>?>".toList :=
      insert "\tMap<" " " "DATE,list<I8>?>" (by decide) (by decide) (by decide) (by decide) start
    have comma : Respelled _ "\tMap< DATE\n,list<I8>?>".toList :=
      insert "\tMap< DATE" "\n" ",list<I8>?>" (by decide) (by decide) (by decide) (by decide) bracket
    have mark : Respelled _ "\tMap< DATE\n,list<I8> ?>".toList :=
      insert "\tMap< DATE\n,list<I8>" " " "?>" (by decide) (by decide) (by decide) (by decide) comma
    exact insert "\tMap< DATE\n,list<I8> ?>" " " "" (by decide) (by decide) (by decide) (by decide) mark
  have read : parse "map<date,list<i8>?>" = .ok counts := by decide +kernel
  exact ⟨unmarked, respelled, read,
    (parse_eq_ok_iff_of_respelled unmarked respelled counts).1 read⟩

end DataType

end QueryPlan

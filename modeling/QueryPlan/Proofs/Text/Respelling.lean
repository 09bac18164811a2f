import QueryPlan.Proofs.Text.Trimming

/-! # Spellings of one text
A text may be **respelled**: letters may change their case, and blanks may be put at its ends and next to
delimiters, the characters at which a type text is taken apart. Of all spellings of a text one is the
**compact** one, in lowercase and without such blanks. It is the same for every spelling
(`Respelled.compact_eq`), and it is found part by part: a text that is taken apart at a delimiter has the
compact spellings of its parts for the parts of its own (`compact_append_delimiter`). -/

namespace QueryPlan.Text

/-! ## Letter case -/

/-- The capital letters of the alphabet. -/
def capitals : List Char := "ABCDEFGHIJKLMNOPQRSTUVWXYZ".toList

/-- What holds of all capital letters is decided letter by letter. -/
instance decidableForallCapitals (P : Char → Prop) [DecidablePred P] :
    Decidable (∀ c ∈ capitals, P c) :=
  List.decidableBAll P capitals

/-- Only the capital letters of the alphabet have another lowercase form. -/
theorem toLower_eq_self {c : Char} (small : c ∉ capitals) : c.toLower = c := by
  unfold Char.toLower
  split
  · rename_i range
    have all : ∀ point < 91, 65 ≤ point → Char.ofNat point ∈ capitals := by decide
    have low : 65 ≤ c.toNat := UInt32.le_iff_toNat_le.1 range.1
    have high : c.toNat < 91 := Nat.lt_succ_of_le (UInt32.le_iff_toNat_le.1 range.2)
    have capital := all c.toNat high low
    rw [Char.ofNat_toNat] at capital
    exact absurd capital small
  · rfl

/-- What does not tell capital letters from small ones does not tell characters from their lowercase
forms. -/
theorem apply_toLower {β : Type} (function : Char → β)
    (capital : ∀ c ∈ capitals, function c.toLower = function c) (c : Char) :
    function c.toLower = function c := by
  by_cases member : c ∈ capitals
  · exact capital c member
  · rw [toLower_eq_self member]

@[simp] theorem isBlank_toLower (c : Char) : isBlank c.toLower = isBlank c :=
  apply_toLower isBlank (by decide) c

/-- Blanks have no letter case. -/
theorem toLower_of_isBlank {c : Char} (blank : isBlank c = true) : c.toLower = c := by
  refine toLower_eq_self fun capital => ?_
  have all : ∀ c ∈ capitals, isBlank c = false := by decide
  rw [all c capital] at blank
  cases blank

/-- A character is **caseless** when it is no letter of the alphabet, in either case. -/
def Caseless (c : Char) : Prop := ∀ b ∈ capitals, b ≠ c ∧ b.toLower ≠ c

instance : DecidablePred Caseless := fun c =>
  inferInstanceAs (Decidable (∀ b ∈ capitals, b ≠ c ∧ b.toLower ≠ c))

/-- A caseless character is the lowercase form of itself alone. -/
theorem Caseless.toLower_eq_iff {c : Char} (caseless : Caseless c) (b : Char) :
    b.toLower = c ↔ b = c :=
  iff_of_eq (apply_toLower (· = c) (fun b capital => by simp [caseless b capital]) b)

theorem Caseless.toLower_eq {c : Char} (caseless : Caseless c) : c.toLower = c :=
  (caseless.toLower_eq_iff c).2 rfl

/-- Lowercasing a text keeps its caseless characters, and adds none. -/
theorem Caseless.mem_map_toLower_iff {c : Char} (caseless : Caseless c) {text : List Char} :
    c ∈ text.map Char.toLower ↔ c ∈ text := by
  simp [List.mem_map, caseless.toLower_eq_iff]

/-- A text of caseless characters is in lowercase. -/
theorem map_toLower_of_caseless {text : List Char} (caseless : ∀ c ∈ text, Caseless c) :
    text.map Char.toLower = text :=
  (List.map_congr_left fun c member => (caseless c member).toLower_eq).trans (List.map_id text)

/-! ## Respelled texts -/

/-- Whether a character **delimits** the parts of a type text: a bracket, a comma or a question mark. -/
def isDelimiter (c : Char) : Bool := c = '<' || c = '>' || c = ',' || c = '?'

/-- A place in a text, between what stands in front of it and what stands behind it, is **loose** when it
is at an end of the text or next to a delimiter. -/
inductive Loose : List Char → List Char → Prop
  /-- The start of the text. -/
  | start (back : List Char) : Loose [] back
  /-- The end of the text. -/
  | finish (front : List Char) : Loose front []
  /-- Behind a delimiter. -/
  | behind (front : List Char) {d : Char} (delimits : isDelimiter d = true) (back : List Char) :
    Loose (front ++ [d]) back
  /-- In front of a delimiter. -/
  | before (front : List Char) {d : Char} (delimits : isDelimiter d = true) (back : List Char) :
    Loose front (d :: back)

/-- Whether a place is loose can be told from the characters next to it. -/
theorem loose_iff {front back : List Char} :
    Loose front back ↔ front = [] ∨ back = [] ∨ front.getLast?.any isDelimiter = true ∨
      back.head?.any isDelimiter = true := by
  constructor
  · intro loose
    cases loose with
    | start => exact .inl rfl
    | finish => exact .inr (.inl rfl)
    | behind front delimits => exact .inr (.inr (.inl (by simp [delimits])))
    | before front delimits => exact .inr (.inr (.inr delimits))
  · rintro (rfl | rfl | behind | before)
    · exact .start back
    · exact .finish front
    · obtain ⟨d, last, delimits⟩ := (Option.any_eq_true ..).1 behind
      obtain ⟨start, rfl⟩ := List.getLast?_eq_some_iff.1 last
      exact .behind start delimits back
    · cases back with
      | nil => cases before
      | cons d rest => exact .before front before rest

instance (front back : List Char) : Decidable (Loose front back) := decidable_of_iff _ loose_iff.symm

/-- The texts that a text can be **respelled** as: the case of letters is changed anywhere, and blanks
are inserted at loose places. -/
inductive Respelled (text : List Char) : List Char → Prop
  /-- Every text is a spelling of itself. -/
  | refl : Respelled text text
  /-- The case of letters does not matter. -/
  | letters {middle other : List Char} (respelled : Respelled text middle)
    (same : middle.map Char.toLower = other.map Char.toLower) : Respelled text other
  /-- Blanks at a loose place do not matter. -/
  | blanks {front back : List Char} (inserted : List Char) (respelled : Respelled text (front ++ back))
    (loose : Loose front back) (blank : allBlank inserted = true) :
    Respelled text (front ++ (inserted ++ back))

/-! ## The compact spelling -/

/-- The compact spelling of a text behind a word in lowercase that is not at its end yet. -/
def compactAfter (word : List Char) : List Char → List Char
  | [] => trim word
  | c :: rest =>
    -- blanks are cut off a word once it is complete, so that those inside it stay
    if isDelimiter c then trim word ++ c :: compactAfter [] rest
    else compactAfter (word ++ [c.toLower]) rest

/-- The **compact** spelling of a text: in lowercase, and without blanks at its ends and next to
delimiters. -/
def compact (text : List Char) : List Char := compactAfter [] text

@[simp] theorem isDelimiter_toLower (c : Char) : isDelimiter c.toLower = isDelimiter c :=
  apply_toLower isDelimiter (by decide) c

/-- Delimiters are the four characters of that kind. -/
theorem isDelimiter_iff {c : Char} : isDelimiter c = true ↔ c = '<' ∨ c = '>' ∨ c = ',' ∨ c = '?' := by
  simp [isDelimiter, or_assoc]

/-- Delimiters are not blank. -/
theorem isBlank_of_isDelimiter {d : Char} (delimits : isDelimiter d = true) : isBlank d = false := by
  obtain rfl | rfl | rfl | rfl := isDelimiter_iff.1 delimits <;> decide

/-- Delimiters are no letters. -/
theorem caseless_of_isDelimiter {d : Char} (delimits : isDelimiter d = true) : Caseless d := by
  obtain rfl | rfl | rfl | rfl := isDelimiter_iff.1 delimits <;> decide

variable {text word blanks : List Char}

/-- A text is compact up to a delimiter and behind it. -/
theorem compactAfter_append_delimiter (front back : List Char) {d : Char}
    (delimits : isDelimiter d = true) :
    compactAfter word (front ++ d :: back) = compactAfter word front ++ d :: compact back := by
  -- for every word, since the word in front grows along the text up to the next delimiter
  induction front generalizing word with
  | nil => simp [compactAfter, delimits, compact]
  | cons c front ih =>
    rw [List.cons_append, compactAfter, compactAfter]
    split
    · rw [ih, List.append_assoc, List.cons_append]
    · exact ih

/-- **Delimiters stay where they are** in the compact spelling. -/
theorem compact_append_delimiter (front back : List Char) {d : Char} (delimits : isDelimiter d = true) :
    compact (front ++ d :: back) = compact front ++ d :: compact back :=
  compactAfter_append_delimiter front back delimits

/-- Without delimiters the compact spelling is the trimmed lowercase form. -/
theorem compactAfter_of_undelimited (undelimited : ∀ c ∈ text, isDelimiter c = false) :
    compactAfter word text = trim (word ++ text.map Char.toLower) := by
  induction text generalizing word with
  | nil => simp [compactAfter]
  | cons c rest ih =>
    obtain ⟨first, later⟩ := List.forall_mem_cons.1 undelimited
    rw [compactAfter, first, if_neg Bool.false_ne_true, ih later, List.map_cons, List.append_assoc,
      List.singleton_append]

/-- Letter case does not matter to the compact spelling. -/
theorem compactAfter_map_toLower (word text : List Char) :
    compactAfter word (text.map Char.toLower) = compactAfter word text := by
  induction text generalizing word with
  | nil => rfl
  | cons c rest ih =>
    have twice : c.toLower.toLower = c.toLower := apply_toLower Char.toLower (by decide) c
    rw [List.map_cons, compactAfter, compactAfter, isDelimiter_toLower, ih, ih, twice]
    split
    · rename_i delimits
      rw [(caseless_of_isDelimiter delimits).toLower_eq]
    · rfl

/-- Blanks at the start do not matter to the compact spelling. -/
theorem compactAfter_blank_append (blank : allBlank blanks = true) :
    compactAfter (blanks ++ word) text = compactAfter word text := by
  induction text generalizing word with
  | nil => exact trim_blank_append blank word
  | cons c rest ih =>
    rw [compactAfter, compactAfter, trim_blank_append blank, List.append_assoc, ih]

/-- Blanks stay themselves in lowercase, and do not delimit anything. -/
theorem compactAfter_of_allBlank (blank : allBlank blanks = true) (rest : List Char) :
    compactAfter word (blanks ++ rest) = compactAfter (word ++ blanks) rest := by
  induction blanks generalizing word with
  | nil => rw [List.nil_append, List.append_nil]
  | cons b blanks ih =>
    obtain ⟨first, later⟩ := (Bool.and_eq_true ..).mp blank
    have plain : isDelimiter b = false := Bool.eq_false_iff.2 fun delimits => by
      rw [isBlank_of_isDelimiter delimits] at first
      cases first
    rw [List.cons_append, compactAfter, plain, if_neg Bool.false_ne_true, toLower_of_isBlank first,
      ih later, List.append_assoc, List.singleton_append]

/-- Blanks at the end do not matter to the compact spelling. -/
theorem compactAfter_append_blank (blank : allBlank blanks = true) :
    compactAfter word (text ++ blanks) = compactAfter word text := by
  induction text generalizing word with
  | nil =>
    have whole : compactAfter word (blanks ++ []) = compactAfter (word ++ blanks) [] :=
      compactAfter_of_allBlank blank []
    rw [List.append_nil] at whole
    rw [List.nil_append, whole, compactAfter, compactAfter, trim_append_blank word blank]
  | cons c rest ih => rw [List.cons_append, compactAfter, compactAfter, ih, ih]

theorem compact_blank_append (blank : allBlank blanks = true) (text : List Char) :
    compact (blanks ++ text) = compact text := by
  rw [compact, compactAfter_of_allBlank blank, List.nil_append, ← List.append_nil blanks,
    compactAfter_blank_append blank, compact]

theorem compact_append_blank (text : List Char) (blank : allBlank blanks = true) :
    compact (text ++ blanks) = compact text :=
  compactAfter_append_blank blank

/-- Trimming does not matter to the compact spelling. -/
@[simp] theorem compact_trim (text : List Char) : compact (trim text) = compact text := by
  obtain ⟨front, back, blankFront, blankBack, whole⟩ := exists_trim text
  conv => rhs; rw [whole, compact_blank_append blankFront, compact_append_blank _ blankBack]

/-- Trimming the end does not matter to the compact spelling. -/
@[simp] theorem compact_trimEnd (text : List Char) : compact (trimEnd text) = compact text := by
  obtain ⟨back, blank, whole⟩ := exists_trimEnd text
  conv => rhs; rw [whole, compact_append_blank _ blank]

/-- **All spellings of a text have one compact spelling.** -/
theorem Respelled.compact_eq {other : List Char} (respelled : Respelled text other) :
    compact text = compact other := by
  induction respelled with
  | refl => rfl
  | @letters middle other _ same ih =>
    -- both are compact as their common lowercase form is
    rw [ih, compact, compact, ← compactAfter_map_toLower [] middle, same, compactAfter_map_toLower]
  | @blanks front back inserted _ loose blank ih =>
    rw [ih]
    cases loose with
    | start back => exact (compact_blank_append blank back).symm
    | finish front => rw [List.append_nil, List.append_nil, compact_append_blank front blank]
    | behind front delimits back =>
      rw [List.append_assoc, List.append_assoc, List.singleton_append, List.singleton_append,
        compact_append_delimiter _ _ delimits, compact_append_delimiter _ _ delimits,
        compact_blank_append blank]
    | before front delimits back =>
      rw [← List.append_assoc, compact_append_delimiter _ _ delimits,
        compact_append_delimiter _ _ delimits, compact_append_blank front blank]

/-! ## What stands in the compact spelling -/

/-- The compact spelling keeps every character that is not blank, in lowercase. -/
theorem mem_compactAfter_iff {c : Char} (visible : isBlank c = false) :
    c ∈ compactAfter word text ↔ c ∈ word ∨ c ∈ text.map Char.toLower := by
  induction text generalizing word with
  | nil => simp [compactAfter, mem_trim_iff visible]
  | cons d rest ih =>
    rw [compactAfter]
    split
    · rename_i delimits
      simp [ih, mem_trim_iff visible, (caseless_of_isDelimiter delimits).toLower_eq]
    · simp [ih, or_assoc]

/-- The compact spelling keeps the caseless characters that are not blank, and adds none. -/
theorem mem_compact_iff {c : Char} (visible : isBlank c = false) (caseless : Caseless c) :
    c ∈ compact text ↔ c ∈ text := by
  rw [compact, mem_compactAfter_iff visible, caseless.mem_map_toLower_iff]
  simp

/-- The compact spelling has the delimiters of the text. -/
theorem mem_compact_iff_of_isDelimiter {d : Char} (delimits : isDelimiter d = true) :
    d ∈ compact text ↔ d ∈ text :=
  mem_compact_iff (isBlank_of_isDelimiter delimits) (caseless_of_isDelimiter delimits)

/-- Nothing is left of a blank text only. -/
theorem compactAfter_eq_nil_iff :
    compactAfter word text = [] ↔ allBlank word = true ∧ allBlank text = true := by
  induction text generalizing word with
  | nil => simp [compactAfter, trim_eq_nil_iff]
  | cons c rest ih =>
    rw [compactAfter]
    split
    · rename_i delimits
      simp [isBlank_of_isDelimiter delimits]
    · rw [ih]
      simp [allBlank, and_assoc]

@[simp] theorem compact_eq_nil_iff : compact text = [] ↔ allBlank text = true := by
  rw [compact, compactAfter_eq_nil_iff]
  simp

/-- The compact spelling is empty or firm. -/
theorem firm_compactAfter (filled : compactAfter word text ≠ []) : Firm (compactAfter word text) := by
  induction text generalizing word with
  | nil => exact firm_trim filled
  | cons c rest ih =>
    rw [compactAfter] at filled ⊢
    split
    · rename_i delimits
      have visible := isBlank_of_isDelimiter delimits
      -- at either end stands the delimiter itself, or what is firm already
      constructor
      · by_cases empty : trim word = []
        · rw [empty]
          exact ⟨c, rfl, visible⟩
        · exact (firm_trim empty).1.append _
      · by_cases empty : compactAfter [] rest = []
        · rw [empty]
          exact EndsFirm.prepend ⟨c, rfl, visible⟩ _
        · exact ((ih empty).2.prepend [c]).prepend _
    · rename_i plain
      rw [if_neg plain] at filled
      exact ih filled

@[simp] theorem trim_compact (text : List Char) : trim (compact text) = compact text := by
  by_cases empty : compact text = []
  · rw [empty]
    rfl
  · exact trim_eq_self (firm_compactAfter empty)

/-- The compact spelling keeps a firm end, in lowercase. -/
theorem getLast?_compactAfter (front : List Char) {c : Char} (visible : isBlank c = false) :
    (compactAfter word (front ++ [c])).getLast? = some c.toLower := by
  induction front generalizing word with
  | nil =>
    rw [List.nil_append, compactAfter]
    split
    · rename_i delimits
      rw [(caseless_of_isDelimiter delimits).toLower_eq, compactAfter]
      exact List.getLast?_concat
    · have last : (word ++ [c.toLower]).getLast? = some c.toLower := List.getLast?_concat
      rw [compactAfter, getLast?_trim ⟨c.toLower, last, by rwa [isBlank_toLower]⟩, last]
  | cons d front ih =>
    rw [List.cons_append, compactAfter]
    split
    · rw [List.getLast?_append, List.getLast?_cons, ih]
      rfl
    · exact ih

/-- Without delimiters, a trimmed text is compact in lowercase. -/
theorem compact_of_undelimited (undelimited : ∀ c ∈ text, isDelimiter c = false)
    (trimmed : trim text = text) : compact text = text.map Char.toLower := by
  rw [compact, compactAfter_of_undelimited undelimited, List.nil_append]
  by_cases empty : text = []
  · rw [empty]
    rfl
  · have firm : Firm text := by
      rw [← trimmed] at empty ⊢
      exact firm_trim empty
    obtain ⟨⟨first, head, firmHead⟩, ⟨last, tail, firmTail⟩⟩ := firm
    exact trim_eq_self ⟨⟨first.toLower, by rw [List.head?_map, head, Option.map_some],
        by rwa [isBlank_toLower]⟩,
      ⟨last.toLower, by rw [List.getLast?_map, tail, Option.map_some], by rwa [isBlank_toLower]⟩⟩

end QueryPlan.Text

import Mathlib.Data.List.Infix
import QueryPlan.Proofs.Text.Nesting

/-! # Balanced brackets
The brackets of a text are **balanced** when no prefix of it closes more of them than it opens, and the
whole closes as many as it opens. The depth at which a text is split does not tell: it stays at zero
where a bracket is closed that was never opened. It is exact as long as that does not happen
(`depthBehind_add_count_iff`), and so the texts that count as nothing when a longer text is split are
the ones with balanced brackets around all their commas (`closed_iff`). Splitting undoes joining for
these, while joining undoes splitting for every text (`splitTopLevel_inverse_join`). -/

namespace QueryPlan.Text

/-! ## Balanced texts -/

/-- The brackets of a text are **balanced** when they are opened before they are closed, and all of them
are closed. -/
structure Balanced (text : List Char) : Prop where
  /-- No prefix closes more brackets than it opens. -/
  closes_le_opens : ∀ front, front <+: text → front.count '>' ≤ front.count '<'
  /-- The whole text closes as many brackets as it opens. -/
  closes_eq_opens : text.count '>' = text.count '<'

/-- The commas of a text are **enclosed** when in front of each of them more brackets are opened than
closed. -/
def Enclosed (text : List Char) : Prop :=
  ∀ front, front ++ [','] <+: text → front.count '>' < front.count '<'

instance : DecidablePred Balanced := fun text =>
  decidable_of_iff ((∀ front ∈ text.inits, front.count '>' ≤ front.count '<') ∧
      text.count '>' = text.count '<')
    ⟨fun ⟨prefixes, whole⟩ => ⟨fun front start => prefixes front ((List.mem_inits ..).2 start), whole⟩,
      fun balanced => ⟨fun front member => balanced.closes_le_opens front ((List.mem_inits ..).1 member),
        balanced.closes_eq_opens⟩⟩

instance : DecidablePred Enclosed := fun text =>
  decidable_of_iff (∀ front ∈ text.inits, front ++ [','] <+: text → front.count '>' < front.count '<')
    ⟨fun enclosed front comma =>
        enclosed front ((List.mem_inits ..).2 ((List.prefix_append ..).trans comma)) comma,
      fun enclosed front _ => enclosed front⟩

/-! ## Counting brackets -/

/-- A character that closes a bracket below depth zero is the only one that is not counted. -/
theorem depthAfter_add_count (depth : Nat) (c : Char) :
    depthAfter depth c + [c].count '>' = max (depth + [c].count '<') ([c].count '>') := by
  by_cases opens : c = '<'
  · subst opens
    simp
  · by_cases closes : c = '>'
    · subst closes
      simp
      omega
    · simp [depthAfter, opens, closes]

/-- The depth counts every bracket that is opened, and at most the ones that are closed. -/
theorem add_count_le_depthBehind (depth : Nat) (text : List Char) :
    depth + text.count '<' ≤ depthBehind depth text + text.count '>' := by
  induction text generalizing depth with
  | nil => simp
  | cons c rest ih =>
    have first := depthAfter_add_count depth c
    have later := ih (depthAfter depth c)
    rw [depthBehind_cons, ← List.singleton_append, List.count_append, List.count_append]
    omega

/-- **The depth is exact** as long as it is never left at zero where a bracket is closed: it counts all
brackets exactly when no prefix closes more of them than it opens beyond the depth at the start. -/
theorem depthBehind_add_count_iff {depth : Nat} {text : List Char} :
    depthBehind depth text + text.count '>' = depth + text.count '<' ↔
      ∀ front, front <+: text → front.count '>' ≤ depth + front.count '<' := by
  constructor
  · rintro counted front ⟨back, rfl⟩
    -- what the front counts too much, the back cannot make up for
    have behind := add_count_le_depthBehind (depthBehind depth front) back
    rw [depthBehind_append, List.count_append, List.count_append] at counted
    omega
  · intro prefixes
    induction text generalizing depth with
    | nil => simp
    | cons c rest ih =>
      have first := depthAfter_add_count depth c
      -- the first character is counted exactly, so its depth is enough for what follows
      have enough := prefixes [c] (List.prefix_append [c] rest)
      have later := @ih (depthAfter depth c) fun front start => by
        have longer := prefixes ([c] ++ front) ((List.prefix_append_right_inj [c]).2 start)
        rw [List.count_append, List.count_append] at longer
        omega
      rw [depthBehind_cons, ← List.singleton_append, List.count_append, List.count_append]
      omega

/-- A text is cut when it has a comma in front of which the depth is back at zero. -/
theorem isCut_iff {depth : Nat} {text : List Char} :
    IsCut depth text ↔ ∃ front, front ++ [','] <+: text ∧ depthBehind depth front = 0 := by
  constructor
  · intro cut
    induction text generalizing depth with
    | nil => exact absurd cut (isCut_nil depth)
    | cons c rest ih =>
      obtain ⟨rfl, rfl⟩ | later := cut
      · exact ⟨[], List.cons_prefix_cons.2 ⟨rfl, List.nil_prefix⟩, rfl⟩
      · obtain ⟨front, comma, back⟩ := ih later
        exact ⟨c :: front, List.cons_prefix_cons.2 ⟨rfl, comma⟩, back⟩
  · rintro ⟨front, ⟨back, rfl⟩, zero⟩
    simp [zero]

/-- Behind a prefix of a balanced text the depth is the number of brackets left open. -/
theorem Balanced.depthBehind_prefix {text front : List Char} (balanced : Balanced text) (depth : Nat)
    (start : front <+: text) :
    depthBehind depth front + front.count '>' = depth + front.count '<' :=
  depthBehind_add_count_iff.2 fun shorter more =>
    Nat.le_trans (balanced.closes_le_opens shorter (more.trans start)) (Nat.le_add_left _ _)

/-- **Closed texts** are the ones with balanced brackets around all their commas. -/
theorem closed_iff {text : List Char} : Closed text ↔ Balanced text ∧ Enclosed text := by
  constructor
  · intro closed
    -- from a depth that no prefix can use up, the depth counts the whole text
    have counted : depthBehind (text.count '>') text + text.count '>' =
        text.count '>' + text.count '<' :=
      depthBehind_add_count_iff.2 fun front start =>
        Nat.le_trans (start.sublist.count_le '>') (Nat.le_add_right _ _)
    rw [closed.depthBehind_eq] at counted
    have whole : text.count '>' = text.count '<' := by omega
    have prefixes : ∀ front, front <+: text → front.count '>' ≤ front.count '<' := by
      have atZero : depthBehind 0 text + text.count '>' = 0 + text.count '<' := by
        rw [closed.depthBehind_eq, whole]
      simpa using depthBehind_add_count_iff.1 atZero
    have balanced : Balanced text := ⟨prefixes, whole⟩
    refine ⟨balanced, fun front comma => ?_⟩
    have positive : depthBehind 0 front ≠ 0 := fun zero =>
      closed.not_isCut 0 (isCut_iff.2 ⟨front, comma, zero⟩)
    have counted := balanced.depthBehind_prefix 0 ((List.prefix_append ..).trans comma)
    omega
  · -- a balanced text leads back to every depth, and in front of a comma it is above that depth
    rintro ⟨balanced, enclosed⟩ depth
    have counted := balanced.depthBehind_prefix depth List.prefix_rfl
    have whole := balanced.closes_eq_opens
    refine ⟨?_, iff_of_false ?_ (isCut_nil depth)⟩
    · rw [depthBehind_nil]
      omega
    · rw [isCut_iff]
      rintro ⟨front, comma, zero⟩
      have inside := enclosed front comma
      have counted := balanced.depthBehind_prefix depth ((List.prefix_append ..).trans comma)
      omega

/-! ## Joining and splitting -/

/-- **Joining and splitting undo each other**: every text is joined again from the parts it is split
into, and texts with balanced brackets around all their commas are split again out of the text joined
from them. -/
theorem splitTopLevel_inverse_join :
    (∀ text, [','].intercalate (splitTopLevel text) = text) ∧
      ∀ parts : List (List Char), parts ≠ [] → (∀ part ∈ parts, Balanced part ∧ Enclosed part) →
        splitTopLevel ([','].intercalate parts) = parts := by
  refine ⟨intercalate_splitAtDepth 0, fun parts filled each => ?_⟩
  have closed : ∀ part ∈ parts, Closed part := fun part member => closed_iff.2 (each part member)
  exact splitTopLevel_intercalate filled (separable_of_closed closed)

/-- A text whose depth is held at zero twice is joined again from its parts `>i32`, ` <a,b>>` and the
empty text; the parts of a parameter list with a map and an empty place in it are split again. -/
theorem splitTopLevel_inverse_join_fields :
    let fields := ["i32".toList, "map<struct<i32,i64>,u!a b>?".toList, [], " ".toList]
    splitTopLevel ">i32, <a,b>>,".toList = [">i32".toList, " <a,b>>".toList, []] ∧
      [','].intercalate (splitTopLevel ">i32, <a,b>>,".toList) = ">i32, <a,b>>,".toList ∧
      fields ≠ [] ∧ (∀ part ∈ fields, Balanced part ∧ Enclosed part) ∧
      splitTopLevel ([','].intercalate fields) = fields := by
  intro fields
  have filled : fields ≠ [] := List.cons_ne_nil _ _
  have each : ∀ part ∈ fields, Balanced part ∧ Enclosed part := by decide
  exact ⟨by decide, splitTopLevel_inverse_join.1 _, filled, each,
    splitTopLevel_inverse_join.2 fields filled each⟩

end QueryPlan.Text

import QueryPlan.Proofs.Wire.Reading

/-! # Levels of expressions on the wire
An expression is read going down a number of levels, which is that of the wire value itself. The number
keeps nothing from being read: with any larger number of levels the outcome is the same
(`Expression.ofWireWithin_eq_ofWire`), and the content of a choice is read as if there were no limit
(`Expression.ofWire_of_choice`). The readers of an expression ask a reader of its parts about values of
fewer levels only. -/

namespace QueryPlan

open Wire (Value Reader)

namespace Wire

/-! ## Levels of members -/

/-- Values of a list that are given names keep their levels. -/
theorem Value.depthOfMembers_zip_le (names : List String) (items : List Value) :
    depthOfMembers (names.zip items) ≤ depthOfItems items := by
  induction names generalizing items with
  | nil => exact Nat.zero_le _
  | cons name names ih =>
    cases items with
    | nil => exact Nat.zero_le _
    | cons item items =>
      have rest := ih items
      rw [List.zip_cons_cons, depthOfMembers, depthOfItems]
      omega

/-- A member of a record has fewer levels than the value that holds the record. -/
theorem Value.depth_lt_of_member?_record {value inner : Value} {names : List String} {name : String}
    (found : (value.record names).member? name = some inner) : inner.depth < value.depth := by
  have inRecord := depth_lt_of_member? found
  have asWritten : (value.record names).depth ≤ value.depth := by
    cases value with
    | array items =>
      rw [record, recordWith]
      split
      · exact Nat.succ_le_succ (depthOfMembers_zip_le _ items)
      · exact Nat.le_refl _
    | null | boolean | integer | single | double | string | object => exact Nat.le_refl _
  omega

/-- The content of a choice has fewer levels than the choice. -/
theorem depth_lt_of_readChoice {value content : Value} {form : String}
    (chosen : readChoice value = .ok (form, some content)) : content.depth < value.depth := by
  unfold readChoice at chosen
  split at chosen
  · cases chosen
  · cases chosen
    simp only [Value.depth, Value.depthOfMembers]
    omega
  · cases chosen

/-! ## Readers that agree -/

variable {α : Type} {read again : Reader α} {levels : Nat}

/-- Two readers **agree below** a number of levels when they read values of fewer levels alike. -/
def AgreeBelow (levels : Nat) (read again : Reader α) : Prop :=
  ∀ ⦃value : Value⦄, value.depth < levels → read value = again value

/-- A member of a record is read alike. -/
theorem AgreeBelow.member (agree : AgreeBelow levels read again) {value : Value}
    (within : value.depth ≤ levels) (names : List String) (name : String) :
    readMember name read (value.record names) = readMember name again (value.record names) := by
  unfold readMember
  cases found : (value.record names).member? name with
  | none => rfl
  | some inner => exact agree (Nat.lt_of_lt_of_le (Value.depth_lt_of_member?_record found) within)

/-- Values that are read alike one by one are read alike as a list. -/
theorem readEach_congr {values : List Value} (alike : ∀ value ∈ values, read value = again value) :
    readEach read values = readEach again values := by
  induction values with
  | nil => rfl
  | cons value values ih =>
    obtain ⟨first, rest⟩ := List.forall_mem_cons.1 alike
    rw [readEach, readEach, first, ih rest]

/-- Lists are read alike. -/
theorem AgreeBelow.list (agree : AgreeBelow levels read again) :
    AgreeBelow levels (readList read) (readList again) := by
  intro value below
  cases value with
  | array items =>
    refine readEach_congr fun item member => agree ?_
    have inArray := Value.depth_le_of_mem member
    simp only [Value.depth] at below
    omega
  | null | boolean | integer | single | double | string | object => rfl

end Wire

open Wire (AgreeBelow)

namespace Expression

variable {read again : Reader Expression} {levels : Nat}

/-- Clauses are read alike. -/
theorem agreeBelow_clauseOfWire (agree : AgreeBelow levels read again) :
    AgreeBelow levels (clauseOfWire read) (clauseOfWire again) := by
  intro value below
  have within := Nat.le_of_lt below
  simp only [clauseOfWire, agree.member within]

/-- The content of an expression is read alike by readers that agree below its levels. -/
theorem ofContent_congr {content : Value} (agree : AgreeBelow content.depth read again)
    (form : String) : ofContent read form content = ofContent again form content := by
  have within := Nat.le_refl content.depth
  have clauses := (agreeBelow_clauseOfWire agree).list
  simp only [ofContent, conditionalOfWire, agree.member within, agree.list.member within,
    clauses.member within]

/-! ## Enough levels -/

/-- An expression is read alike with any two numbers of levels that the value does not exceed. -/
theorem ofWireWithin_congr {first second : Nat} {value : Value} (inFirst : value.depth ≤ first)
    (inSecond : value.depth ≤ second) : ofWireWithin first value = ofWireWithin second value := by
  have positive := Wire.Value.depth_pos value
  induction first generalizing second value with
  | zero => omega
  | succ first ih =>
    cases second with
    | zero => omega
    | succ second =>
      rw [ofWireWithin, ofWireWithin]
      cases chosen : Wire.readChoice value with
      | error fault => rfl
      | ok choice =>
        obtain ⟨form, content?⟩ := choice
        cases content? with
        | none => rfl
        | some content =>
          have fewer := Wire.depth_lt_of_readChoice chosen
          refine ofContent_congr (fun inner below => ?_) form
          exact ih (by omega) (by omega) (Wire.Value.depth_pos inner)

/-- With more levels than the value has an expression is read as with its own. -/
theorem ofWireWithin_eq_ofWire {depth : Nat} {value : Value} (enough : value.depth ≤ depth) :
    ofWireWithin depth value = ofWire value :=
  ofWireWithin_congr enough (Nat.le_refl _)

/-- **Reading has no limit**: the content of a choice is read with expressions of any number of levels
as its parts. -/
theorem ofWire_of_choice {value content : Value} {form : String}
    (chosen : Wire.readChoice value = .ok (form, some content)) :
    ofWire value = ofContent ofWire form content := by
  have fewer := Wire.depth_lt_of_readChoice chosen
  obtain ⟨levels, counted⟩ : ∃ levels, value.depth = levels + 1 := ⟨value.depth - 1, by omega⟩
  rw [ofWire, counted, ofWireWithin, chosen]
  refine ofContent_congr (fun inner below => ?_) form
  exact ofWireWithin_eq_ofWire (by omega)

end Expression

end QueryPlan

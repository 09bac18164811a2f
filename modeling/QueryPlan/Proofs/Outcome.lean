/-! # Successful outcomes
A computation in `Except` succeeds exactly when each of its steps does. The equations below take the
success or the failure of a composed computation apart, so that no proof has to look into the monad. -/

namespace QueryPlan.Outcome

variable {ε α β : Type}

/-- Whether two outcomes are equal is decided by their errors or their values. -/
instance decidableEq [DecidableEq ε] [DecidableEq α] : DecidableEq (Except ε α)
  | .error left, .error right => decidable_of_iff (left = right) (by simp)
  | .ok left, .ok right => decidable_of_iff (left = right) (by simp)
  | .error _, .ok _ => .isFalse nofun
  | .ok _, .error _ => .isFalse nofun

/-- A sequence of two steps succeeds when both do. -/
@[simp] theorem bind_eq_ok_iff {first : Except ε α} {next : α → Except ε β} {value : β} :
    (first >>= next) = .ok value ↔ ∃ middle, first = .ok middle ∧ next middle = .ok value := by
  cases first with
  | error error => simp [bind, Except.bind]
  | ok middle => simp [bind, Except.bind]

/-- A sequence of two steps fails when the first does, or the second behind it. -/
theorem bind_eq_error_iff {first : Except ε α} {next : α → Except ε β} {fault : ε} :
    (first >>= next) = .error fault ↔
      first = .error fault ∨ ∃ middle, first = .ok middle ∧ next middle = .error fault := by
  cases first with
  | error error => simp [bind, Except.bind]
  | ok middle => simp [bind, Except.bind]

/-- A check succeeds in one way only. -/
@[simp] theorem exists_eq_ok_unit_iff {check : Except ε Unit} :
    (∃ done, check = .ok done) ↔ check = .ok () :=
  ⟨fun ⟨_, passed⟩ => passed, fun passed => ⟨(), passed⟩⟩

/-- A returned value is the outcome. -/
@[simp] theorem pure_eq_ok_iff {value other : α} :
    (pure value : Except ε α) = .ok other ↔ value = other := by
  simp [pure, Except.pure]

/-- A check in front of a value only decides whether there is a value. -/
theorem check_then_eq_ok_iff {check : Except ε Unit} {value other : α} :
    (do check; return value : Except ε α) = .ok other ↔ other = value ∧ check = .ok () := by
  simp only [bind_eq_ok_iff, pure_eq_ok_iff, exists_and_right, exists_eq_ok_unit_iff]
  exact ⟨fun ⟨passed, same⟩ => ⟨same.symm, passed⟩, fun ⟨same, passed⟩ => ⟨passed, same.symm⟩⟩

/-- A mapped computation succeeds when the computation does. -/
@[simp] theorem map_eq_ok_iff {step : α → β} {first : Except ε α} {value : β} :
    first.map step = .ok value ↔ ∃ middle, first = .ok middle ∧ step middle = value := by
  cases first <;> simp [Except.map]

/-- A computation whose errors are renamed succeeds when the computation does. -/
@[simp] theorem mapError_eq_ok_iff {rename : ε → β} {first : Except ε α} {value : α} :
    first.mapError rename = .ok value ↔ first = .ok value := by
  cases first with
  | error error => exact ⟨nofun, nofun⟩
  | ok found =>
    constructor
    · intro renamed
      cases renamed
      rfl
    · intro passed
      cases passed
      rfl

/-- What is left of an outcome without its errors is the value of a success. -/
@[simp] theorem toOption_eq_some_iff {outcome : Except ε α} {value : α} :
    outcome.toOption = some value ↔ outcome = .ok value := by
  cases outcome <;> simp [Except.toOption]

/-! ## Checks of lists -/

section Checks

variable {check : α → Except ε PUnit} {values : List α}

/-- A list passes a check exactly when each of its members does. -/
theorem forM_eq_ok_iff : forM values check = .ok () ↔ ∀ value ∈ values, check value = .ok () := by
  induction values with
  | nil => simp
  | cons value values ih =>
    simp only [List.forM_cons, bind_eq_ok_iff, exists_and_right, exists_eq_ok_unit_iff, ih,
      List.forall_mem_cons]

/-- A list fails a check with the fault of the first member that does not pass. -/
theorem forM_eq_error_iff {fault : ε} :
    forM values check = .error fault ↔
      ∃ before value after, values = before ++ value :: after ∧
        (∀ earlier ∈ before, check earlier = .ok ()) ∧ check value = .error fault := by
  induction values with
  | nil => simp [pure, Except.pure]
  | cons value values ih =>
    rw [List.forM_cons, bind_eq_error_iff]
    constructor
    · rintro (failed | ⟨done, passed, failed⟩)
      · exact ⟨[], value, values, rfl, nofun, failed⟩
      · obtain ⟨before, first, after, rfl, passedToo, failed⟩ := ih.1 failed
        exact ⟨value :: before, first, after, rfl, List.forall_mem_cons.2 ⟨passed, passedToo⟩, failed⟩
    · rintro ⟨before, first, after, split, passed, failed⟩
      cases before with
      | nil =>
        cases split
        exact .inl failed
      | cons earlier before =>
        cases split
        obtain ⟨passed, passedToo⟩ := List.forall_mem_cons.1 passed
        exact .inr ⟨(), passed, ih.2 ⟨before, first, after, rfl, passedToo, failed⟩⟩

/-- Checking the members of several lists in one go is checking list by list. -/
theorem forM_flatMap {α β ε : Type} {lists : List α} {members : α → List β}
    {check : β → Except ε PUnit} :
    forM (lists.flatMap members) check = forM lists fun list => forM (members list) check := by
  induction lists with
  | nil => rfl
  | cons list lists ih => rw [List.flatMap_cons, List.forM_append, List.forM_cons, ih]

/-- Checks that agree on the members of a list agree on the list. -/
theorem forM_congr {other : α → Except ε PUnit}
    (agree : ∀ value ∈ values, check value = other value) : forM values check = forM values other := by
  induction values with
  | nil => rfl
  | cons value values ih =>
    obtain ⟨first, rest⟩ := List.forall_mem_cons.1 agree
    rw [List.forM_cons, List.forM_cons, first, ih rest]

end Checks

end QueryPlan.Outcome

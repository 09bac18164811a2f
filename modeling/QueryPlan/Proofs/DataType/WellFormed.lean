import QueryPlan.Proofs.DataType.RoundTrip
import QueryPlan.Proofs.Template.Coercion

/-! # Well-formed types
A type is well formed exactly when each of its nodes passes the check of its own parameters
(`DataType.wellFormed_iff`). That check looks at one level only, and several ways of making a type go
without it: a plain kind, a composed type, another nullability at the top, a result of coercion. None
of them needs it, since each keeps the parameters it is given, or takes them from a type that is well
formed already. -/

namespace QueryPlan.DataType

/-- A type passes the check of its own parameters when it is composed, or an atom within its bounds. -/
theorem check_eq_ok_iff {type : DataType} :
    type.check = .ok type ↔ ∀ kind null, type = atom kind null → kind.InBounds := by
  cases type with
  | atom kind null =>
    rw [check, ofAtom_eq_ok_iff]
    constructor
    · rintro ⟨inBounds, -⟩ _ _ ⟨⟩
      exact inBounds
    · intro inBounds
      exact ⟨inBounds kind null rfl, rfl⟩
  | struct | list | map => simp [check]

/-- **Well-formedness, node by node**: a type is well formed when every node of it passes the check of
its own parameters. -/
theorem wellFormed_iff {type : DataType} :
    type.WellFormed ↔ ∀ node ∈ type.nodes, node.check = .ok node := by
  induction type using DataType.induction with
  | atom kind null => simp [nodes, WellFormed, check_eq_ok_iff]
  | @composed null keyword components type composed ih =>
    -- the check of a composed type does not look into its components
    have passes : type.check = .ok type := by
      cases composed <;> rfl
    rw [composed.wellFormed_iff, composed.nodes_eq, List.forall_mem_cons, List.forall_mem_flatMap]
    constructor
    · intro wellFormed
      exact ⟨passes, fun component member => (ih component member).1 (wellFormed component member)⟩
    · rintro ⟨-, below⟩ component member
      exact (ih component member).2 (below component member)

/-- A change of nullability at the top keeps a type within its bounds. -/
@[simp] theorem wellFormed_withNullability {type : DataType} {null : Nullability} :
    (type.withNullability null).WellFormed ↔ type.WellFormed := by
  cases type <;> rfl

/-- **Coercion keeps types well formed**, onto every template. -/
theorem WellFormed.coerce? {source result : DataType} {target : Template}
    (wellFormed : source.WellFormed) (coerced : source.coerce? target = some result) :
    result.WellFormed := by
  cases coerce?_eq_some_iff.1 coerced with
  | same => exact wellFormed
  | bounded => exact wellFormed
  | string => exact trivial

end QueryPlan.DataType

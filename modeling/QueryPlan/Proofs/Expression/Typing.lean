import QueryPlan.Proofs.Expression.Construction

/-! # Typing rules
What the checked constructors look at, said as rules: which values belong to a type, and which clauses
fit together in a conditional. A literal is well typed exactly when its value belongs to its type
(`Literal.wellTyped_iff_belongsTo`), and a conditional is the one its parts give exactly when they fit
(`Expression.conditional_eq_ok_iff`). -/

namespace QueryPlan

open Outcome

/-! ## Literals -/

/-- A literal value **belongs to** a type of its kind, of either nullability. Null belongs to every
nullable type, a character string of fixed length has exactly the characters its type says, and one of
variable length has no more. -/
inductive LiteralValue.BelongsTo : LiteralValue → DataType → Prop
  | null {type : DataType} (absent : type.isNullable = true) : BelongsTo .null type
  | boolean (value : Bool) (null : Nullability) :
    BelongsTo (.boolean value) (.atom (.plain .boolean) null)
  | i8 (value : Int8) (null : Nullability) : BelongsTo (.i8 value) (.atom (.plain .i8) null)
  | i16 (value : Int16) (null : Nullability) : BelongsTo (.i16 value) (.atom (.plain .i16) null)
  | i32 (value : Int32) (null : Nullability) : BelongsTo (.i32 value) (.atom (.plain .i32) null)
  | i64 (value : Int64) (null : Nullability) : BelongsTo (.i64 value) (.atom (.plain .i64) null)
  | fp32 (bits : UInt32) (null : Nullability) : BelongsTo (.fp32 bits) (.atom (.plain .fp32) null)
  | fp64 (bits : UInt64) (null : Nullability) : BelongsTo (.fp64 bits) (.atom (.plain .fp64) null)
  | string (value : String) (null : Nullability) :
    BelongsTo (.string value) (.atom (.plain .string) null)
  | date (days : Int32) (null : Nullability) : BelongsTo (.date days) (.atom (.plain .date) null)
  | fixedChar {text : String} {length : UInt32} (null : Nullability)
    (exact : text.toList.length = length.toNat) :
    BelongsTo (.fixedChar text) (.atom (.sized .fixedChar length) null)
  | varChar {text : String} {length : UInt32} (null : Nullability)
    (within : text.toList.length ≤ length.toNat) :
    BelongsTo (.varChar text) (.atom (.sized .varChar length) null)

/-- A text is counted exactly when a length can state its number of characters. -/
theorem charLength_eq_ok_iff {text : String} {count : UInt32} :
    charLength text = .ok count ↔ text.toList.length = count.toNat := by
  have bounded : count.toNat < UInt32.size := count.toNat_lt
  rw [charLength]
  split
  case isTrue fits =>
    have counted : (UInt32.ofNat text.toList.length).toNat = text.toList.length :=
      UInt32.toNat_ofNat_of_lt' fits
    rw [Except.ok.injEq, ← UInt32.toNat_inj, counted]
  case isFalse tooLong => exact iff_of_false nofun (by omega)

/-- A value agrees with a type exactly when it belongs to it. -/
theorem Literal.agrees_eq_ok_true_iff {value : LiteralValue} {type : DataType} :
    agrees value type = .ok true ↔ value.BelongsTo type := by
  constructor
  · intro agreeing
    unfold agrees at agreeing
    -- one case for each row of the comparison: null, the kinds in their order, and all other pairs
    split at agreeing
    case h_1 => exact .null (Except.ok.inj agreeing)
    case h_11 text length null =>
      obtain ⟨count, counted, same⟩ := map_eq_ok_iff.1 agreeing
      rw [charLength_eq_ok_iff, beq_iff_eq.1 same] at counted
      exact .fixedChar null counted
    case h_12 text length null =>
      obtain ⟨count, counted, within⟩ := map_eq_ok_iff.1 agreeing
      rw [charLength_eq_ok_iff] at counted
      exact .varChar null (counted ▸ UInt32.le_iff_toNat_le.1 (of_decide_eq_true within))
    case h_13 => cases agreeing
    all_goals constructor
  · intro belongs
    cases belongs with
    | null absent => rw [agrees, absent]
    | boolean | i8 | i16 | i32 | i64 | fp32 | fp64 | string | date => rfl
    | fixedChar null exact =>
      exact map_eq_ok_iff.2 ⟨_, charLength_eq_ok_iff.2 exact, beq_self_eq_true _⟩
    | @varChar text length null within =>
      have counted : text.toList.length = (UInt32.ofNat text.toList.length).toNat :=
        (UInt32.toNat_ofNat_of_lt' (Nat.lt_of_le_of_lt within length.toNat_lt)).symm
      have shorter : UInt32.ofNat text.toList.length ≤ length :=
        UInt32.le_iff_toNat_le.2 (counted ▸ within)
      exact map_eq_ok_iff.2 ⟨_, charLength_eq_ok_iff.2 counted, decide_eq_true shorter⟩

/-- A literal is well typed exactly when its value belongs to its type. -/
theorem Literal.wellTyped_iff_belongsTo {literal : Literal} :
    literal.WellTyped ↔ literal.value.BelongsTo literal.type :=
  wellTyped_iff.trans agrees_eq_ok_true_iff

/-! ## Conditionals -/

namespace Expression

/-- The clauses and the last expression of a conditional **fit** together under a type: conditions are
boolean, results have the shape of the last expression, and so has the type, which allows null exactly
when one of them does. -/
structure Fit (clauses : List (Expression × Expression)) (otherwise : Expression) (type : DataType) :
    Prop where
  /-- Every condition is boolean. -/
  conditions : ∀ clause ∈ clauses, clause.1.isBoolean = true
  /-- Every result has the shape of the last expression. -/
  results : ∀ clause ∈ clauses, DataType.SameShape clause.2.type otherwise.type
  /-- The type has the shape of the last expression. -/
  shape : DataType.SameShape type otherwise.type
  /-- The type allows null exactly when the last expression or a result does. -/
  nullable_iff : type.isNullable = true ↔
    otherwise.type.isNullable = true ∨ ∃ clause ∈ clauses, clause.2.type.isNullable = true

/-- Clauses are consistent when their conditions are boolean and their results have the shape; together
they allow null when one of them does, or what stood in front of them did. -/
theorem checkClauses_eq_ok_iff {base : DataType} {null combined : Nullability}
    {clauses : List (Expression × Expression)} :
    checkClauses base null clauses = .ok combined ↔
      (∀ clause ∈ clauses, clause.1.isBoolean = true ∧ DataType.SameShape clause.2.type base) ∧
        combined = .ofBool (null.isNullable || clauses.any (·.2.type.isNullable)) := by
  induction clauses generalizing null with
  | nil =>
    rw [checkClauses, Except.ok.injEq, List.any_nil, Bool.or_false, Nullability.ofBool_isNullable]
    exact ⟨fun same => ⟨nofun, same.symm⟩, fun ⟨_, same⟩ => same.symm⟩
  | cons clause clauses ih =>
    obtain ⟨condition, result⟩ := clause
    rw [checkClauses, List.forall_mem_cons, List.any_cons, ← Bool.or_assoc]
    split
    case isTrue boolean =>
      split
      case isTrue same =>
        rw [ih, Nullability.isNullable_combine, and_iff_right (And.intro boolean same)]
        rfl
      case isFalse other => exact iff_of_false nofun fun fit => other fit.1.1.2
    case isFalse other => exact iff_of_false nofun fun fit => other fit.1.1.1

/-- A conditional is built with a type exactly when its clauses and its last expression fit under it. -/
theorem conditional_eq_ok_iff {clauses : List (Expression × Expression)} {otherwise : Expression}
    {type : DataType} :
    conditional clauses otherwise = .ok (ifThen clauses otherwise type) ↔
      Fit clauses otherwise type := by
  simp only [conditional, bind_eq_ok_iff, pure_eq_ok_iff, checkClauses_eq_ok_iff]
  constructor
  · rintro ⟨null, ⟨agreeing, rfl⟩, built⟩
    cases built
    refine ⟨fun clause member => (agreeing clause member).1,
      fun clause member => (agreeing clause member).2, DataType.sameShape_withNullability _ _, ?_⟩
    rw [DataType.isNullable, DataType.nullability_withNullability, Nullability.isNullable_ofBool,
      Bool.or_eq_true, List.any_eq_true]
    rfl
  · intro fit
    refine ⟨_, ⟨fun clause member => ⟨fit.conditions clause member, fit.results clause member⟩, rfl⟩, ?_⟩
    -- a type is its shape and whether it allows null, and the rules say both
    have allowed : type.isNullable =
        (otherwise.type.nullability.isNullable || clauses.any (·.2.type.isNullable)) := by
      rw [Bool.eq_iff_iff, fit.nullable_iff, Bool.or_eq_true, List.any_eq_true]
      rfl
    rw [← allowed, DataType.isNullable, Nullability.ofBool_isNullable,
      ← fit.shape.symm.eq_withNullability]

end Expression

end QueryPlan

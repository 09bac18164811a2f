import QueryPlan.Proofs.Outcome
import QueryPlan.Wire.Decoding
import QueryPlan.Wire.Encoding

/-! # Reading what was written
Each reader of the wire format takes back what is written for it: a named member of an object, a list, a
member of an enumerated type, a literal value whose number is finite, a type whose text is read back as
the type. -/

namespace QueryPlan

open Outcome
open Wire (Value Reader)

/-! ## Objects and lists -/

namespace Wire

/-- Every value has a level. -/
theorem Value.depth_pos (value : Value) : 0 < value.depth := by
  cases value with
  | array | object => exact Nat.succ_pos _
  | null | boolean | integer | single | double | string => exact Nat.one_pos

/-- The number of levels of a value of a list is at most that of the deepest one. -/
theorem Value.depth_le_of_mem {item : Value} {items : List Value} (member : item ∈ items) :
    item.depth ≤ depthOfItems items := by
  induction items with
  | nil => cases member
  | cons first rest ih =>
    rw [depthOfItems]
    obtain rfl | inRest := List.mem_cons.1 member
    · exact Nat.le_max_left _ _
    · exact Nat.le_trans (ih inRest) (Nat.le_max_right _ _)

/-- A list is read when each value of it is. -/
theorem readEach_map {α : Type} {read : Reader α} {encode : α → Value} {parts : List α}
    (each : ∀ part ∈ parts, read (encode part) = .ok part) :
    readEach read (parts.map encode) = .ok parts := by
  induction parts with
  | nil => rfl
  | cons first rest ih =>
    obtain ⟨readFirst, readRest⟩ := List.forall_mem_cons.1 each
    exact bind_eq_ok_iff.2 ⟨first, readFirst, bind_eq_ok_iff.2 ⟨rest, ih readRest, rfl⟩⟩

/-- A part that may be missing is read, if its wire form is not the absent value. -/
theorem readOptional_optional {α : Type} {name : String} {read : Reader α} {encode : α → Value}
    {members : List (String × Value)} {part : Option α}
    (found : members.lookup name = some (.optional encode part))
    (written : ∀ content ∈ part, encode content ≠ .null ∧ read (encode content) = .ok content) :
    readOptional name read (.object members) = .ok part := by
  cases part with
  | none => simp [readOptional, Value.member?, found, Value.optional]
  | some content =>
    -- what is written is not null, so it is not taken for a missing part
    obtain ⟨present, readContent⟩ := written content rfl
    simp [readOptional, Value.member?, found, Value.optional, readContent]

/-- A whole number within the bounds of its type is read. -/
theorem map_readInteger {α : Type} {least most value : Int} {make : Int → α} {part : α}
    (above : least ≤ value) (below : value ≤ most) (made : make value = part) :
    (readInteger least most (.integer value)).map make = .ok part := by
  rw [readInteger, if_pos ⟨above, below⟩, Except.map, made]

end Wire

/-! ## Names -/

/-- The name of a phase is read back. -/
theorem AggregationPhase.ofName_wireName (phase : AggregationPhase) :
    Wire.readNamed wireName all (.string phase.wireName) = .ok phase := by
  cases phase <;> rfl

/-- The name of a scope is read back. -/
theorem AggregationScope.ofName_wireName (scope : AggregationScope) :
    Wire.readNamed wireName members (.string scope.wireName) = .ok scope := by
  cases scope <;> rfl

/-- The name of an order is read back. -/
theorem SortDirection.ofName_wireName (direction : SortDirection) :
    ofWire (.string direction.wireName) = .ok direction := by
  cases direction <;> rfl

/-! ## Types and literal values -/

/-- A type is **portable** when its text is read back as the type. -/
def DataType.Portable (type : DataType) : Prop := parse type.text = .ok type

instance (type : DataType) : Decidable type.Portable :=
  inferInstanceAs (Decidable (DataType.parse type.text = .ok type))

/-- A portable type is read back. -/
theorem DataType.Portable.ofWire_toWire {type : DataType} (portable : type.Portable) :
    ofWire type.toWire = .ok type :=
  mapError_eq_ok_iff.2 portable

/-- Whether a literal value is not a floating point number that is infinite or undefined. -/
def LiteralValue.isFinite : LiteralValue → Bool
  | fp32 bits => Decimal.single.isFinite bits.toNat
  | fp64 bits => Decimal.double.isFinite bits.toNat
  | _ => true

/-- A finite literal value is read back. -/
theorem LiteralValue.ofWire_toWire {value : LiteralValue} (finite : value.isFinite = true) :
    ofWire value.toWire = .ok value := by
  cases value with
  | boolean | string | fixedChar | varChar | null => rfl
  | i8 value =>
    have read := congrArg i8 value.ofInt_toInt
    exact Wire.map_readInteger value.minValue_le_toInt value.toInt_le read
  | i16 value =>
    have read := congrArg i16 value.ofInt_toInt
    exact Wire.map_readInteger value.minValue_le_toInt value.toInt_le read
  | i32 value =>
    have read := congrArg i32 value.ofInt_toInt
    exact Wire.map_readInteger value.minValue_le_toInt value.toInt_le read
  | i64 value =>
    have read := congrArg i64 value.ofInt_toInt
    exact Wire.map_readInteger value.minValue_le_toInt value.toInt_le read
  | date days =>
    have read := congrArg date days.ofInt_toInt
    exact Wire.map_readInteger days.minValue_le_toInt days.toInt_le read
  | fp32 bits =>
    have finiteBits : Decimal.single.isFinite bits.toNat = true := finite
    rw [toWire, if_pos finiteBits]
    rfl
  | fp64 bits =>
    have finiteBits : Decimal.double.isFinite bits.toNat = true := finite
    rw [toWire, if_pos finiteBits]
    rfl

end QueryPlan

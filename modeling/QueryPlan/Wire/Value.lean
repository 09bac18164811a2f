import QueryPlan.Decimal.Shortest

/-! # Wire values
The values of the wire format: a tree of the kinds of values that a JSON document can hold. Whole
numbers are kept apart from floating point numbers, and a floating point number keeps the bits of the
width it was written with. -/

namespace QueryPlan.Wire

/-- A **wire value**. -/
inductive Value
  /-- The absent value. -/
  | null
  /-- A truth value. -/
  | boolean (value : Bool)
  /-- A whole number. -/
  | integer (value : Int)
  /-- The bits of a floating point number of 32 bits. -/
  | single (bits : UInt32)
  /-- The bits of a floating point number of 64 bits. -/
  | double (bits : UInt64)
  /-- A character string. -/
  | string (value : String)
  /-- A list of values. -/
  | array (items : List Value)
  /-- A list of named values. -/
  | object (members : List (String × Value))
  deriving Inhabited

namespace Value

/-- The value of a named member of an object. -/
def member? (value : Value) (name : String) : Option Value :=
  match value with
  | object members => members.lookup name
  | _ => none

/-- A record as an object. The items of a list stand for the members of the record in their order, and
the optional ones, which stand last, may be missing. -/
def recordWith (value : Value) (names optional : List String) : Value :=
  match value with
  | array items =>
    if names.length ≤ items.length ∧ items.length ≤ (names ++ optional).length then
      object ((names ++ optional).zip items)
    else value
  | _ => value

/-- A record without optional members as an object. -/
def record (value : Value) (names : List String) : Value := value.recordWith names []

mutual

/-- The number of levels of a value. -/
def depth : Value → Nat
  | array items => depthOfItems items + 1
  | object members => depthOfMembers members + 1
  | _ => 1

/-- The number of levels of the deepest value of a list. -/
def depthOfItems : List Value → Nat
  | [] => 0
  | item :: items => max (depth item) (depthOfItems items)

/-- The number of levels of the deepest member of a list. -/
def depthOfMembers : List (String × Value) → Nat
  | [] => 0
  | (_, value) :: members => max (depth value) (depthOfMembers members)

end

/-- The number of levels of a member is below that of the deepest one. -/
theorem depth_le_of_lookup {name : String} {value : Value} :
    ∀ {members : List (String × Value)}, members.lookup name = some value →
      value.depth ≤ depthOfMembers members
  | [], found => by simp at found
  | (other, first) :: members, found => by
    rw [List.lookup_cons] at found
    split at found
    · cases found
      simp only [depthOfMembers]
      omega
    · have := depth_le_of_lookup found
      simp only [depthOfMembers]
      omega

/-- A member has fewer levels than its object. -/
theorem depth_lt_of_member? {value inner : Value} {name : String}
    (found : value.member? name = some inner) : inner.depth < value.depth := by
  cases value with
  | object members =>
    have := depth_le_of_lookup found
    simp only [depth]
    omega
  | _ => simp [member?] at found

end Value

end QueryPlan.Wire

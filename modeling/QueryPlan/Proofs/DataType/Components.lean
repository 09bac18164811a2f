import QueryPlan.DataType.Bounds
import QueryPlan.TypeText.Keyword

/-! # Component types
Structs, lists and maps are **composed** by their keyword from component types, and every type is an
atom or composed. What holds of a type through all its levels is said of its components once, whichever
keyword composes them. -/

namespace QueryPlan.DataType

/-- The type that a keyword **composes** from component types. -/
inductive Composed (null : Nullability) : Keyword → List DataType → DataType → Prop
  /-- Any number of fields. -/
  | struct (fields : List DataType) : Composed null .struct fields (struct fields null)
  /-- One element type. -/
  | list (element : DataType) : Composed null .list [element] (list element null)
  /-- A key and a value type. -/
  | map (key value : DataType) : Composed null .map [key, value] (map key value null)

/-- The same keyword composes the type with another nullability. -/
theorem Composed.withNullability {null : Nullability} {keyword : Keyword}
    {components : List DataType} {type : DataType} (composed : Composed null keyword components type)
    (other : Nullability) : Composed other keyword components (type.withNullability other) := by
  cases composed with
  | struct => exact .struct components
  | list element => exact .list element
  | map key value => exact .map key value

/-- **Induction over types**: what holds of atoms, and of a composed type as soon as it holds of its
components, holds of every type. -/
theorem induction {motive : DataType → Prop} (atom : ∀ kind null, motive (.atom kind null))
    (composed : ∀ {null keyword components type}, Composed null keyword components type →
      (∀ component ∈ components, motive component) → motive type) : ∀ type, motive type
  | .atom kind null => atom kind null
  | .struct fields _ =>
    composed (.struct fields) fun field member =>
      have := List.sizeOf_lt_of_mem member
      induction atom composed field
  | .list element _ =>
    composed (.list element) fun component member =>
      List.mem_singleton.1 member ▸ induction atom composed element
  | .map key value _ =>
    composed (.map key value) (List.forall_mem_cons.2 ⟨induction atom composed key,
      List.forall_mem_singleton.2 (induction atom composed value)⟩)
termination_by type => sizeOf type

/-- A type is composed in one way only, and has the nullability it is composed with. -/
theorem Composed.unique {null other : Nullability} {keyword word : Keyword}
    {components others : List DataType} {type : DataType}
    (composed : Composed null keyword components type) (again : Composed other word others type) :
    null = other ∧ components = others := by
  cases composed <;> cases again <;> exact ⟨rfl, rfl⟩

/-! ## Nodes -/

mutual

/-- The **nodes** of a type: the type itself and the nodes of its components, from left to right. -/
def nodes : DataType → List DataType
  | atom kind null => [atom kind null]
  | struct fields null => struct fields null :: allNodes fields
  | list element null => list element null :: nodes element
  | map key value null => map key value null :: (nodes key ++ nodes value)

/-- The nodes of a list of types. -/
def allNodes : List DataType → List DataType
  | [] => []
  | type :: types => nodes type ++ allNodes types

end

/-- The nodes of a list of types are the nodes of its members. -/
theorem allNodes_eq (types : List DataType) : allNodes types = types.flatMap nodes := by
  induction types with
  | nil => rfl
  | cons type types ih => rw [allNodes, ih, List.flatMap_cons]

/-- The nodes of a composed type are the type and the nodes of its components. -/
theorem Composed.nodes_eq {null : Nullability} {keyword : Keyword} {components : List DataType}
    {type : DataType} (composed : Composed null keyword components type) :
    type.nodes = type :: components.flatMap nodes := by
  cases composed with
  | struct => rw [nodes, allNodes_eq]
  | list element => rw [nodes, List.flatMap_singleton]
  | map key value => simp [nodes]

/-! ## Bounds -/

/-- Every type of a list is well formed when each of its members is. -/
theorem allWellFormed_iff {types : List DataType} :
    AllWellFormed types ↔ ∀ type ∈ types, type.WellFormed := by
  induction types with
  | nil => simp [AllWellFormed]
  | cons type types ih => simp [AllWellFormed, ih]

/-- A composed type is well formed when its components are. -/
theorem Composed.wellFormed_iff {null : Nullability} {keyword : Keyword} {components : List DataType}
    {type : DataType} (composed : Composed null keyword components type) :
    type.WellFormed ↔ ∀ component ∈ components, component.WellFormed := by
  cases composed with
  | struct => rw [WellFormed, allWellFormed_iff]
  | list element => simp [WellFormed]
  | map key value => simp [WellFormed]

/-! ## Names -/

mutual

/-- The names of the types in a type that are known by name only. -/
def userDefinedNames : DataType → List String
  | atom (.userDefined name) _ => [name]
  | atom _ _ => []
  | struct fields _ => allUserDefinedNames fields
  | list element _ => userDefinedNames element
  | map key value _ => userDefinedNames key ++ userDefinedNames value

/-- The names of the types in a list of types that are known by name only. -/
def allUserDefinedNames : List DataType → List String
  | [] => []
  | type :: types => userDefinedNames type ++ allUserDefinedNames types

end

/-- The names in a list of types are the names in its members. -/
theorem allUserDefinedNames_eq (types : List DataType) :
    allUserDefinedNames types = types.flatMap userDefinedNames := by
  induction types with
  | nil => rfl
  | cons type types ih => rw [allUserDefinedNames, ih, List.flatMap_cons]

/-- The names in a composed type are the names in its components. -/
theorem Composed.userDefinedNames_eq {null : Nullability} {keyword : Keyword}
    {components : List DataType} {type : DataType} (composed : Composed null keyword components type) :
    type.userDefinedNames = components.flatMap userDefinedNames := by
  cases composed with
  | struct => exact allUserDefinedNames_eq components
  | list element => simp [userDefinedNames]
  | map key value => simp [userDefinedNames]

end QueryPlan.DataType

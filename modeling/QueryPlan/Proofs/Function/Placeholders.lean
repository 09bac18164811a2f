import Mathlib.Data.List.NodupEquivFin
import Mathlib.Data.List.Perm.Subperm
import QueryPlan.Function.Standard
import QueryPlan.Proofs.Function.Matching
import QueryPlan.Proofs.Outcome

/-! # Placeholders inside parameters
When a type stands at a template, each placeholder in the template stands **opposite** a component of
the type. Arguments are consistent when one assignment of types to names has the shape of every
component that stands opposite a placeholder. The check of arguments looks only at placeholders that
are parameters themselves, and a placeholder inside a struct, list or map binds nothing
(`Signature.not_consistent_of_nested_placeholder`). So all accepted arguments are consistent exactly when
a name that stands inside a parameter stands nowhere else (`Signature.accepted_consistent_iff`): where it
does, arguments can be made out of the parameters that are accepted and have two shapes at that name. -/

namespace QueryPlan

open DataType (SameShape)

namespace Template

mutual

/-- Each placeholder in a template, with the component of a type that stands opposite it. -/
def opposites : Template → DataType → List (String × DataType)
  | placeholder name, type => [(name, type)]
  | struct fields _, .struct types _ => allOpposites fields types
  | list element _, .list type _ => opposites element type
  | map key value _, .map keyType valueType _ => opposites key keyType ++ opposites value valueType
  | _, _ => []

/-- Each placeholder in a list of templates, with the component of a list of types that stands opposite
it. -/
def allOpposites : List Template → List DataType → List (String × DataType)
  | template :: templates, type :: types => opposites template type ++ allOpposites templates types
  | _, _ => []

end

mutual

/-- The names of the placeholders in a template, from left to right, each as often as it stands there. -/
def names : Template → List String
  | placeholder name => [name]
  | struct fields _ => allNames fields
  | list element _ => names element
  | map key value _ => names key ++ names value
  | concrete _ | sized _ _ _ | precise _ _ _ | decimal _ _ _ => []

/-- The names of the placeholders in a list of templates. -/
def allNames : List Template → List String
  | [] => []
  | template :: templates => names template ++ allNames templates

end

mutual

/-- No placeholder has two components opposite it. -/
theorem names_opposites_sublist : ∀ (template : Template) (type : DataType),
    ((template.opposites type).map Prod.fst).Sublist template.names
  | placeholder name, type => .refl [name]
  | struct fields null, type => by
    cases type with
    | struct types _ => exact allNames_allOpposites_sublist fields types
    | atom | list | map => exact List.nil_sublist _
  | list element null, type => by
    cases type with
    | list elementType _ => exact names_opposites_sublist element elementType
    | atom | struct | map => exact List.nil_sublist _
  | map key value null, type => by
    cases type with
    | map keyType valueType _ =>
      rw [opposites, List.map_append]
      exact (names_opposites_sublist key keyType).append (names_opposites_sublist value valueType)
    | atom | struct | list => exact List.nil_sublist _
  | concrete _, _ | sized _ _ _, _ | precise _ _ _, _ | decimal _ _ _, _ => List.nil_sublist _

/-- No placeholder in a list of templates has two components opposite it. -/
theorem allNames_allOpposites_sublist : ∀ (templates : List Template) (types : List DataType),
    ((allOpposites templates types).map Prod.fst).Sublist (allNames templates)
  | [], _ | _ :: _, [] => List.nil_sublist _
  | template :: templates, type :: types => by
    rw [allOpposites, List.map_append]
    exact (names_opposites_sublist template type).append (allNames_allOpposites_sublist templates types)

end

/-- A name that stands once in templates has at most one component opposite it. -/
theorem eq_of_mem_allOpposites {templates : List Template} {types : List DataType}
    {left right : String × DataType} (once : (allNames templates).count left.1 = 1)
    (leftMember : left ∈ allOpposites templates types)
    (rightMember : right ∈ allOpposites templates types) (named : left.1 = right.1) : left = right := by
  by_contra different
  have both : [left, right].Subperm (allOpposites templates types) := by
    refine List.subperm_of_subset (by simpa using different) ?_
    simp [leftMember, rightMember]
  have two : [left, right].countP (fun opposite => opposite.1 == left.1) = 2 := by simp [named]
  have twice : 2 ≤ (allNames templates).count left.1 :=
    calc 2 ≤ (allOpposites templates types).countP (fun opposite => opposite.1 == left.1) :=
        two ▸ both.countP_le _
      _ = ((allOpposites templates types).map Prod.fst).count left.1 := by
        rw [List.count_eq_countP, List.countP_map]
        rfl
      _ ≤ (allNames templates).count left.1 :=
        (allNames_allOpposites_sublist templates types).count_le left.1
  omega

/-- The names of the placeholders that stand inside a template; one that is a placeholder itself has none
inside. -/
def innerNames : Template → List String
  | placeholder _ => []
  | template => template.names

/-- The names inside a template that is no placeholder are all its names. -/
theorem mem_innerNames_iff {template : Template} {name : String} :
    name ∈ template.innerNames ↔ (∀ outer, template ≠ placeholder outer) ∧ name ∈ template.names := by
  cases template <;> simp [innerNames]

/-- A parameter that admits an argument has the shape assigned opposite its placeholders, but for those
inside it. -/
theorem Admits.sameShape_of_mem_opposites {assignment : String → DataType} {parameter : Template}
    {argument : DataType} (admits : parameter.Admits assignment argument) {opposite : String × DataType}
    (member : opposite ∈ parameter.opposites argument) (outer : opposite.1 ∉ parameter.innerNames) :
    SameShape opposite.2 (assignment opposite.1) := by
  have named : opposite.1 ∈ parameter.names :=
    (names_opposites_sublist parameter argument).subset (List.mem_map_of_mem member)
  obtain ⟨name, rfl⟩ : ∃ name, parameter = placeholder name := by
    by_contra composite
    exact outer (mem_innerNames_iff.2 ⟨not_exists.1 composite, named⟩)
  obtain rfl : opposite = (name, argument) := List.mem_singleton.1 member
  exact DataType.SameShape.symm admits

/-- Parameters that admit arguments have the shapes assigned opposite all placeholders, but for those whose
names stand inside a parameter. -/
theorem sameShape_of_mem_allOpposites {assignment : String → DataType} {parameters : List Template}
    {arguments : List DataType} (admits : List.Forall₂ (Admits assignment) parameters arguments)
    {opposite : String × DataType} (member : opposite ∈ allOpposites parameters arguments)
    (outer : ∀ parameter ∈ parameters, opposite.1 ∉ parameter.innerNames) :
    SameShape opposite.2 (assignment opposite.1) := by
  induction admits with
  | nil => cases member
  | cons first _ ih =>
    obtain ⟨outerFirst, outerRest⟩ := List.forall_mem_cons.1 outer
    obtain inFirst | inRest := List.mem_append.1 member
    · exact first.sameShape_of_mem_opposites inFirst outerFirst
    · exact ih inRest outerRest

/-! ### Arguments for given parameters -/

mutual

/-- The type at which the placeholders of a template stand opposite the types **chosen** for them by
number, from left to right. -/
def filled : Template → (Nat → DataType) → DataType
  | concrete type, _ => type
  | sized kind _ null, _ => .atom (.sized kind 1) null
  | precise kind _ null, _ => .atom (.precise kind 0) null
  | decimal _ _ null, _ => .atom (.decimal 1 0) null
  | struct fields null, choice => .struct (allFilled fields choice) null
  | list element null, choice => .list (filled element choice) null
  | map key value null, choice =>
    .map (filled key choice) (filled value fun number => choice (number + key.names.length)) null
  | placeholder _, choice => choice 0

/-- The types at which the placeholders of templates stand opposite the types chosen for them. -/
def allFilled : List Template → (Nat → DataType) → List DataType
  | [], _ => []
  | template :: templates, choice =>
    filled template choice :: allFilled templates fun number => choice (number + template.names.length)

end

mutual

/-- The types chosen stand opposite the placeholders. -/
theorem opposites_filled : ∀ (template : Template) (choice : Nat → DataType),
    template.opposites (template.filled choice) =
      template.names.mapIdx fun number name => (name, choice number)
  | placeholder _, _ => rfl
  | struct fields _, choice => allOpposites_allFilled fields choice
  | list element _, choice => opposites_filled element choice
  | map key value null, choice => by
    rw [filled, opposites, names, opposites_filled key, opposites_filled value, List.mapIdx_append]
  | concrete _, _ | sized _ _ _, _ | precise _ _ _, _ | decimal _ _ _, _ => rfl

/-- The types chosen stand opposite the placeholders of all templates. -/
theorem allOpposites_allFilled : ∀ (templates : List Template) (choice : Nat → DataType),
    allOpposites templates (allFilled templates choice) =
      (allNames templates).mapIdx fun number name => (name, choice number)
  | [], _ => rfl
  | template :: templates, choice => by
    rw [allFilled, allOpposites, allNames, opposites_filled template, allOpposites_allFilled templates,
      List.mapIdx_append]

end

/-- A parameter admits every choice for the placeholders inside it, and the type assigned if it is a
placeholder itself. -/
theorem admits_filled {assignment : String → DataType} {choice : Nat → DataType} (parameter : Template)
    (outer : ∀ name, parameter = placeholder name → choice 0 = assignment name) :
    parameter.Admits assignment (parameter.filled choice) := by
  cases parameter with
  | placeholder name =>
    have chosen : choice 0 = assignment name := outer name rfl
    rw [Admits, filled, chosen]
    exact SameShape.refl _
  | concrete type => exact SameShape.refl type
  | sized | precise | decimal | struct | list | map => exact .inl rfl

/-- Parameters admit one type for all placeholders. -/
theorem forall₂_admits_allFilled (type : DataType) (parameters : List Template) :
    List.Forall₂ (Admits fun _ => type) parameters (allFilled parameters fun _ => type) := by
  induction parameters with
  | nil => exact .nil
  | cons first rest ih => exact .cons (first.admits_filled fun _ _ => rfl) ih

/-- Parameters admit another type for a placeholder that stands inside one of them. -/
theorem exists_admits_allFilled (type other : DataType) {parameters : List Template}
    {parameter : Template} (member : parameter ∈ parameters) {name : String}
    (inner : name ∈ parameter.innerNames) :
    ∃ position, (allNames parameters)[position]? = some name ∧
      List.Forall₂ (Admits fun _ => type) parameters
        (allFilled parameters fun number => if number = position then other else type) := by
  induction parameters with
  | nil => cases member
  | cons first rest ih =>
    obtain rfl | later := List.mem_cons.1 member
    · obtain ⟨composite, named⟩ := mem_innerNames_iff.1 inner
      obtain ⟨position, inside, found⟩ := List.mem_iff_getElem.1 named
      refine ⟨position, ?_, .cons (parameter.admits_filled fun outer equal => ?_) ?_⟩
      · rw [allNames, List.getElem?_append_left inside, List.getElem?_eq_getElem inside, found]
      · exact absurd equal (composite outer)
      · -- the position lies in front of the remaining parameters
        have behind (number : Nat) : number + parameter.names.length ≠ position := by omega
        simp only [behind, if_false]
        exact forall₂_admits_allFilled type rest
    · obtain ⟨position, found, admits⟩ := ih later
      refine ⟨position + first.names.length, ?_, .cons (first.admits_filled fun outer equal => ?_) ?_⟩
      · rw [allNames, List.getElem?_append_right (Nat.le_add_left ..), Nat.add_sub_cancel, found]
      · have front : 0 ≠ position + first.names.length := by
          rw [equal, names, List.length_singleton]
          omega
        rw [if_neg front]
      · simpa only [Nat.add_right_cancel_iff] using admits

end Template

namespace Signature

/-- Arguments are **consistent** with a signature when there is one assignment of types to the names of
placeholders that has the shape of every component opposite a placeholder, at any depth. -/
def Consistent (signature : Signature) (arguments : List DataType) : Prop :=
  ∃ assignment : String → DataType,
    ∀ opposite ∈ Template.allOpposites signature.parameters arguments,
      SameShape opposite.2 (assignment opposite.1)

/-- Arguments are consistent exactly when the components opposite placeholders of one name have one
shape. -/
theorem consistent_iff_forall_pairs {signature : Signature} {arguments : List DataType} :
    signature.Consistent arguments ↔
      ∀ left ∈ Template.allOpposites signature.parameters arguments,
        ∀ right ∈ Template.allOpposites signature.parameters arguments,
          left.1 = right.1 → SameShape left.2 right.2 := by
  constructor
  · rintro ⟨assignment, same⟩ left leftMember right rightMember named
    have leftSame := same left leftMember
    rw [named] at leftSame
    exact leftSame.trans (same right rightMember).symm
  · intro same
    have assigned : ∀ name, ∃ type, ∀ opposite ∈ Template.allOpposites signature.parameters arguments,
        opposite.1 = name → SameShape opposite.2 type := by
      intro name
      by_cases named : ∃ opposite ∈ Template.allOpposites signature.parameters arguments,
          opposite.1 = name
      · obtain ⟨chosen, member, rfl⟩ := named
        exact ⟨chosen.2, fun opposite found named => same opposite found chosen member named⟩
      · exact ⟨default, fun opposite found equal => absurd ⟨opposite, found, equal⟩ named⟩
    choose assignment shapes using assigned
    exact ⟨assignment, fun opposite member => shapes opposite.1 opposite member rfl⟩

/-- Whether a name that stands inside a parameter of a signature stands nowhere else in it. -/
def InnerNamesStandAlone (signature : Signature) : Prop :=
  ∀ parameter ∈ signature.parameters, ∀ name ∈ parameter.innerNames,
    (Template.allNames signature.parameters).count name = 1

instance (signature : Signature) : Decidable signature.InnerNamesStandAlone :=
  inferInstanceAs (Decidable (∀ parameter ∈ _, ∀ name ∈ _, _))

/-- Where inner names stand alone, accepted arguments are consistent. -/
theorem InnerNamesStandAlone.consistent {signature : Signature}
    (alone : signature.InnerNamesStandAlone) {arguments : List DataType}
    (accepted : signature.checkArguments arguments = .ok ()) : signature.Consistent arguments := by
  obtain ⟨assignment, admits⟩ := checkArguments_eq_ok_iff.1 accepted
  refine consistent_iff_forall_pairs.2 fun left leftMember right rightMember named => ?_
  by_cases inner : ∃ parameter ∈ signature.parameters, left.1 ∈ parameter.innerNames
  · obtain ⟨parameter, member, inside⟩ := inner
    have once := alone parameter member left.1 inside
    rw [Template.eq_of_mem_allOpposites once leftMember rightMember named]
    exact SameShape.refl _
  · -- the name is bound by parameters that are placeholders themselves
    simp only [not_exists, not_and] at inner
    have leftSame := Template.sameShape_of_mem_allOpposites admits leftMember inner
    have rightSame := Template.sameShape_of_mem_allOpposites admits rightMember (named ▸ inner)
    rw [named] at leftSame
    exact leftSame.trans rightSame.symm

/-- A name that does not stand alone stands at another position, too. -/
theorem exists_other_position {names : List String} {name : String} {position : Nat}
    (found : names[position]? = some name) (again : names.count name ≠ 1) :
    ∃ other, other ≠ position ∧ names[other]? = some name := by
  have positive : 0 < names.count name := List.count_pos_iff.2 (List.mem_of_getElem? found)
  have twice : 2 ≤ names.count name := by omega
  obtain ⟨first, second, before, firstNamed, secondNamed⟩ :=
    List.duplicate_iff_exists_distinct_get.1 (List.duplicate_iff_two_le_count.2 twice)
  have before : first.val < second.val := before
  by_cases there : first.val = position
  · exact ⟨second, by omega, List.getElem?_eq_some_iff.2 ⟨second.isLt, secondNamed.symm⟩⟩
  · exact ⟨first, there, List.getElem?_eq_some_iff.2 ⟨first.isLt, firstNamed.symm⟩⟩

/-- Where an inner name does not stand alone, some accepted arguments are not consistent. -/
theorem exists_accepted_not_consistent {signature : Signature} {parameter : Template}
    (member : parameter ∈ signature.parameters) {name : String} (inner : name ∈ parameter.innerNames)
    (again : (Template.allNames signature.parameters).count name ≠ 1) :
    ∃ arguments, signature.checkArguments arguments = .ok () ∧ ¬ signature.Consistent arguments := by
  -- a string stands opposite the name inside the parameter, and an integer everywhere else
  obtain ⟨position, found, admits⟩ :=
    Template.exists_admits_allFilled (.plain .i32) (.plain .string) member inner
  refine ⟨_, checkArguments_eq_ok_iff.2 ⟨_, admits⟩, fun consistent => ?_⟩
  have same := consistent_iff_forall_pairs.1 consistent
  rw [Template.allOpposites_allFilled] at same
  obtain ⟨other, different, otherFound⟩ := exists_other_position found again
  have equal : SameShape (.plain .string) (.plain .i32) :=
    same (name, .plain .string) (List.mem_of_getElem? (i := position) (by simp [found]))
      (name, .plain .i32) (List.mem_of_getElem? (i := other) (by simp [otherFound, different])) rfl
  exact absurd equal (by decide)

/-- **Placeholders bind consistently exactly where inner names stand alone**: all arguments that a
signature accepts are consistent when no name that stands inside one of its structs, lists or maps stands
in it a second time, and only then. -/
theorem accepted_consistent_iff (signature : Signature) :
    (∀ arguments, signature.checkArguments arguments = .ok () → signature.Consistent arguments) ↔
      signature.InnerNamesStandAlone := by
  refine ⟨fun consistent parameter member name inner => ?_,
    fun alone arguments accepted => alone.consistent accepted⟩
  by_contra again
  obtain ⟨arguments, accepted, inconsistent⟩ := exists_accepted_not_consistent member inner again
  exact inconsistent (consistent arguments accepted)

/-- A comparison behind a list of values of any type is consistent: the name inside the list stands alone,
and two lists of integers are compared whether or not they may be null. -/
theorem consistent_comparison_of_lists :
    let equal := Catalog.scalarSignature "equal_within"
      [.list (.placeholder "any1") .required, .placeholder "any2", .placeholder "any2"]
      (.fixed (.plain .boolean))
    let numbers : DataType := .list (.plain .i32) .required
    let arguments : List DataType := [.list (.plain .string) .required, numbers, numbers.asNullable]
    equal.InnerNamesStandAlone ∧ equal.checkArguments arguments = .ok () ∧
      equal.Consistent arguments := by
  intro equal numbers arguments
  have alone : equal.InnerNamesStandAlone := by decide
  have accepted : equal.checkArguments arguments = .ok () := by decide
  exact ⟨alone, accepted, (accepted_consistent_iff equal).2 alone arguments accepted⟩

/-- **A placeholder inside a template binds nothing**: an integer and a list of strings are accepted for
a value and a list of values of its type, though no assignment has the shape of both. -/
theorem not_consistent_of_nested_placeholder :
    let contains := Catalog.scalarSignature "contains"
      [.placeholder "any1", .list (.placeholder "any1") .required] (.fixed (.plain .boolean))
    let arguments : List DataType := [.plain .i32, .list (.plain .string) .required]
    contains.checkArguments arguments = .ok () ∧ ¬ contains.Consistent arguments := by
  intro contains arguments
  have accepted : contains.checkArguments arguments = .ok () := by decide
  have opposite : Template.allOpposites contains.parameters arguments =
      [("any1", .plain .i32), ("any1", .plain .string)] := rfl
  refine ⟨accepted, ?_⟩
  rintro ⟨assignment, same⟩
  rw [opposite] at same
  have value := same ("any1", .plain .i32) List.mem_cons_self
  have element := same ("any1", .plain .string) (List.mem_cons_of_mem _ List.mem_cons_self)
  have equal : SameShape (.plain .i32) (.plain .string) := value.trans element.symm
  exact absurd equal (by decide)

end Signature

end QueryPlan

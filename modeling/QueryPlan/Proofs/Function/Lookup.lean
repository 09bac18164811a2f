import Mathlib.Data.List.Basic
import QueryPlan.Function.Catalog

/-! # Looking up overloads
A catalog keeps its overloads in groups by lowercase name, which is a matter of storage: the overloads
of a name are the declarations of that name in their order (`Catalog.overloads_ofList`), a call is
resolved to the first of them that has its kind and accepts its arguments, and a key is found at the
first of them that has it. -/

namespace QueryPlan.Catalog

/-! ## Groups -/

/-- Whether two names are the same, in either case. -/
def SameName (left right : String) : Prop := Text.lowercaseName left = Text.lowercaseName right

instance (left right : String) : Decidable (SameName left right) :=
  inferInstanceAs (Decidable (Text.lowercaseName left = Text.lowercaseName right))

/-- An overload is put behind those of its name and leaves the other groups alone. -/
theorem lookup_addTo (name other : String) (signature : Signature)
    (groups : List (String × List Signature)) :
    ((addTo name signature groups).lookup other).getD [] =
      (groups.lookup other).getD [] ++ if name = other then [signature] else [] := by
  induction groups with
  | nil =>
    by_cases same : name = other
    · subst same
      simp [addTo]
    · have different : (other == name) = false := beq_eq_false_iff_ne.2 (Ne.symm same)
      simp [addTo, List.lookup_cons, different, same]
  | cons group groups ih =>
    obtain ⟨found, overloads⟩ := group
    by_cases here : found = name
    · subst here
      by_cases same : found = other
      · subst same
        simp [addTo]
      · have different : (other == found) = false := beq_eq_false_iff_ne.2 (Ne.symm same)
        simp [addTo, List.lookup_cons, different, same]
    · rw [addTo, if_neg here, List.lookup_cons, List.lookup_cons]
      by_cases same : other = found
      · subst same
        rw [beq_self_eq_true, if_neg (Ne.symm here), List.append_nil]
      · rw [beq_eq_false_iff_ne.2 same]
        exact ih

/-- One more declaration is one more overload of its name. -/
theorem overloads_add (catalog : Catalog) (signature : Signature) (name : String) :
    (catalog.add signature).overloads name =
      catalog.overloads name ++ [signature].filter fun found => SameName found.name name := by
  have added : (catalog.add signature).overloads name =
      catalog.overloads name ++ if SameName signature.name name then [signature] else [] :=
    lookup_addTo (Text.lowercaseName signature.name) (Text.lowercaseName name) signature
      catalog.groups
  rw [added]
  by_cases same : SameName signature.name name
  · rw [if_pos same, List.filter_singleton, decide_eq_true same, cond_true]
  · rw [if_neg same, List.filter_singleton, decide_eq_false same, cond_false]

/-- **The overloads of a name** are the declarations of that name, in the order of declaration. -/
theorem overloads_ofList (signatures : List Signature) (name : String) :
    (ofList signatures).overloads name = signatures.filter fun found => SameName found.name name := by
  suffices grow : ∀ catalog : Catalog, (signatures.foldl add catalog).overloads name =
      catalog.overloads name ++ signatures.filter fun found => SameName found.name name by
    rw [ofList, grow empty]
    rfl
  induction signatures with
  | nil =>
    intro catalog
    exact (List.append_nil _).symm
  | cons signature signatures ih =>
    intro catalog
    rw [List.foldl_cons, ih, overloads_add, List.append_assoc, ← List.filter_append]
    rfl

/-! ## Resolution -/

/-- A call is resolved exactly to the first overload of its name that has its kind and accepts its
arguments. -/
theorem resolve_eq_ok_iff {catalog : Catalog} {kind : FunctionKind} {name : String}
    {arguments : List DataType} {signature : Signature} :
    catalog.resolve kind name arguments = .ok signature ↔
      (catalog.overloads name).find? (fun found =>
        found.kind = kind && found.accepts arguments) = some signature := by
  unfold resolve
  cases (catalog.overloads name).find? fun found => found.kind = kind && found.accepts arguments with
  | none => simp
  | some found => simp

/-- A call is resolved to one of the declarations, which has the name of the call. -/
theorem mem_of_resolve {signatures : List Signature} {kind : FunctionKind} {name : String}
    {arguments : List DataType} {signature : Signature}
    (resolved : (ofList signatures).resolve kind name arguments = .ok signature) :
    signature ∈ signatures ∧ SameName signature.name name := by
  have found := List.mem_of_find?_eq_some (resolve_eq_ok_iff.1 resolved)
  rw [overloads_ofList, List.mem_filter, decide_eq_true_iff] at found
  exact found

end QueryPlan.Catalog

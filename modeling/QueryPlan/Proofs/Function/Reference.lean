import QueryPlan.Function.Standard
import QueryPlan.Proofs.Function.Lookup
import QueryPlan.Proofs.Outcome

/-! # References to overloads
The reference that is kept in a call holds the key of the overload: its name and the short names of its
parameters. A key is looked up under the name in front of its first colon, and the first declaration
with the key is found. That is the overload of the call as long as its name has no colon and no earlier
declaration has the same key (`Catalog.get?_reference_of_resolve`), but a key tells neither the two
kinds of functions nor parameters of one family apart (`Catalog.not_get?_reference_of_resolve`). -/

namespace QueryPlan

/-! ## Lowercase names -/

/-- Every character has a lowercase form. -/
theorem Text.lowerChar_ne_nil (c : Char) : lowerChar c ≠ [] := by
  unfold lowerChar
  split_ifs
  · exact List.cons_ne_nil _ _
  · exact List.cons_ne_nil _ _
  · split
    · exact List.cons_ne_nil _ _
    · exact List.cons_ne_nil _ _

/-- A longer text has a longer lowercase form, though a sigma may change where the text goes on. -/
theorem Text.length_lowerAfter_lt (before front : List Char) (c : Char) (back : List Char) :
    (lowerAfter before front).length < (lowerAfter before (front ++ c :: back)).length := by
  induction front generalizing before with
  | nil =>
    rw [List.nil_append, lowerAfter, lowerAfter, List.length_nil]
    by_cases sigma : c = 'Σ'
    · rw [if_pos sigma]
      exact Nat.zero_lt_succ _
    · rw [if_neg sigma, List.length_append]
      exact Nat.add_pos_left (List.length_pos_iff.2 (lowerChar_ne_nil c)) _
  | cons first rest ih =>
    have inner := ih (first :: before)
    rw [List.cons_append, lowerAfter, lowerAfter]
    by_cases sigma : first = 'Σ'
    · rw [if_pos sigma, if_pos sigma]
      exact Nat.succ_lt_succ inner
    · rw [if_neg sigma, if_neg sigma, List.length_append, List.length_append]
      exact Nat.add_lt_add_left inner _

/-! ## Keys -/

/-- There is no colon in the short name of a family. -/
theorem Family.colon_notMem_shortName (family : Family) : ':' ∉ family.shortName.toList := by
  have every : ∀ found ∈ all, ':' ∉ found.shortName.toList := by decide
  exact every family (mem_all family)

/-- There is no colon in the short name of a template. -/
theorem Template.colon_notMem_shortName (template : Template) :
    ':' ∉ template.shortName.toList := by
  unfold shortName
  cases template.family? with
  | none => decide
  | some family => exact family.colon_notMem_shortName

namespace Signature

/-- The part of a key behind the name: the short names of the parameters. -/
def keySuffix (signature : Signature) : String :=
  "_".intercalate (signature.parameters.map Template.shortName)

/-- A key is a name, a colon and the short names of parameters. -/
theorem toList_key (signature : Signature) :
    signature.key.toList = signature.name.toList ++ ':' :: signature.keySuffix.toList := by
  simp [key, keySuffix]

/-- The only colon of a key behind the name is the one that ends the name. -/
theorem colon_notMem_keySuffix (signature : Signature) : ':' ∉ signature.keySuffix.toList := by
  unfold keySuffix
  generalize signature.parameters = parameters
  induction parameters with
  | nil => decide
  | cons first others ih =>
    have plain := first.colon_notMem_shortName
    cases others with
    | nil => simpa using plain
    | cons next others =>
      rw [List.map_cons, List.map_cons, String.intercalate_cons_cons, String.toList_append,
        String.toList_append, List.mem_append, List.mem_append]
      rintro ((inFirst | inSeparator) | inOthers)
      · exact plain inFirst
      · exact absurd inSeparator (by decide)
      · exact ih inOthers

/-- Nothing stands in front of a colon in a text whose only colon is its first character. -/
theorem eq_nil_of_colon_cons_eq {suffix more other : List Char} (plain : ':' ∉ suffix)
    (same : ':' :: suffix = more ++ ':' :: other) : more = [] := by
  cases more with
  | nil => rfl
  | cons c more =>
    have inside : ':' ∈ suffix := by
      rw [(List.cons.inj same).2]
      exact List.mem_append_right _ List.mem_cons_self
    exact absurd inside plain

/-- A key determines the name it was made from. -/
theorem name_eq_of_key_eq {signature other : Signature} (same : other.key = signature.key) :
    other.name = signature.name := by
  have characters : other.name.toList ++ ':' :: other.keySuffix.toList =
      signature.name.toList ++ ':' :: signature.keySuffix.toList := by
    rw [← toList_key, ← toList_key, same]
  -- if one name went on behind the other, the colon would lie in the suffix behind the shorter one
  obtain ⟨more, longer, behind⟩ | ⟨more, longer, behind⟩ := List.append_eq_append_iff.1 characters
  · rw [eq_nil_of_colon_cons_eq other.colon_notMem_keySuffix behind, List.append_nil] at longer
    exact String.toList_injective longer.symm
  · rw [eq_nil_of_colon_cons_eq signature.colon_notMem_keySuffix behind, List.append_nil] at longer
    exact String.toList_injective longer

end Signature

namespace Catalog

/-- The name that a key starts with is cut off at the first colon. -/
theorem nameOfKey_eq_of_toList {key : String} {front back : List Char} (plain : ':' ∉ front)
    (cut : key.toList = front ++ ':' :: back) : nameOfKey key = String.ofList front := by
  have before : ∀ c ∈ front, decide (c ≠ ':') = true := by
    intro c member
    rw [decide_eq_true_iff]
    rintro rfl
    exact plain member
  rw [nameOfKey, cut, List.takeWhile_append_of_pos before, List.takeWhile_cons_of_neg (by decide),
    List.append_nil]

/-- A key is looked up under the name it was made from, if that has no colon. -/
theorem nameOfKey_key {signature : Signature} (plain : ':' ∉ signature.name.toList) :
    nameOfKey signature.key = signature.name := by
  rw [nameOfKey_eq_of_toList plain signature.toList_key, String.ofList_toList]

/-- The key of a name without a colon is found at the first declaration that has it. -/
theorem get?_key {signatures : List Signature} {signature : Signature}
    (plain : ':' ∉ signature.name.toList) :
    (ofList signatures).get? signature.key =
      signatures.find? fun other => other.key = signature.key := by
  rw [get?, overloads_ofList, nameOfKey_key plain, List.find?_filter]
  congr 1
  funext other
  by_cases same : other.key = signature.key
  · have named : SameName other.name signature.name := by
      rw [Signature.name_eq_of_key_eq same]
      rfl
    simp [same, named]
  · simp [same]

/-- A name with a colon is not found under the part in front of the colon. -/
theorem colon_notMem_of_sameName {signature : Signature}
    (named : SameName signature.name (nameOfKey signature.key)) : ':' ∉ signature.name.toList := by
  intro colon
  obtain ⟨front, back, split, plain⟩ := List.eq_append_cons_of_mem colon
  have whole : signature.key.toList =
      front ++ ':' :: (back ++ ':' :: signature.keySuffix.toList) := by
    rw [Signature.toList_key, split, List.append_assoc, List.cons_append]
  have cut := nameOfKey_eq_of_toList plain whole
  have same : Text.lowercase (front ++ ':' :: back) = Text.lowercase front := by
    rw [SameName, cut, Text.lowercaseName, Text.lowercaseName, split, String.toList_ofList] at named
    exact String.ofList_injective named
  have longer := Text.length_lowerAfter_lt [] front ':' back
  rw [← Text.lowercase, ← Text.lowercase, same] at longer
  exact Nat.lt_irrefl _ longer

/-- What the key of a signature is looked up to has the key and the name of the signature, and the name
has no colon. -/
theorem of_get?_key {signatures : List Signature} {signature found : Signature}
    (looked : (ofList signatures).get? signature.key = some found) :
    found.key = signature.key ∧ found.name = signature.name ∧ ':' ∉ signature.name.toList := by
  have same : found.key = signature.key := by simpa using List.find?_some looked
  have listed := List.mem_of_find?_eq_some looked
  rw [overloads_ofList, List.mem_filter, decide_eq_true_iff, ← same] at listed
  have named := Signature.name_eq_of_key_eq same
  exact ⟨same, named, named ▸ colon_notMem_of_sameName listed.2⟩

/-- **What a reference is looked up to**: the key that is kept for a resolved call is found exactly when
the name has no colon, and at the overload of the call exactly when, besides, no declaration in front
of the overload has the same key. -/
theorem get?_reference_of_resolve {signatures : List Signature} {kind : FunctionKind} {name : String}
    {arguments : List DataType} {signature : Signature}
    (resolved : (ofList signatures).resolve kind name arguments = .ok signature) :
    ((∃ found, (ofList signatures).get? signature.reference.key = some found) ↔
        ':' ∉ signature.name.toList) ∧
      ((ofList signatures).get? signature.reference.key = some signature ↔
        ':' ∉ signature.name.toList ∧ ∃ before after, signatures = before ++ signature :: after ∧
          ∀ other ∈ before, other.key ≠ signature.key) := by
  have declared := (mem_of_resolve resolved).1
  change ((∃ found, (ofList signatures).get? signature.key = some found) ↔ _) ∧
    ((ofList signatures).get? signature.key = some signature ↔ _)
  constructor
  · constructor
    · rintro ⟨found, looked⟩
      exact (of_get?_key looked).2.2
    · intro plain
      rw [get?_key plain, ← Option.isSome_iff_exists, List.find?_isSome]
      exact ⟨signature, declared, decide_eq_true rfl⟩
  · have first (plain : ':' ∉ signature.name.toList) :
        (ofList signatures).get? signature.key = some signature ↔
          ∃ before after, signatures = before ++ signature :: after ∧
            ∀ other ∈ before, other.key ≠ signature.key := by
      rw [get?_key plain, List.find?_eq_some_iff_append]
      simp
    constructor
    · intro looked
      have plain := (of_get?_key looked).2.2
      exact ⟨plain, (first plain).1 looked⟩
    · rintro ⟨plain, foremost⟩
      exact (first plain).2 foremost

/-- The reference to the second of two overloads is looked up to it, as their parameters are of
different families. -/
theorem get?_reference_of_second_overload :
    let narrow := scalarSignature "total" [exactly .i32] (.argument 0)
    let wide := scalarSignature "total" [exactly .i64] (.argument 0)
    let catalog := ofList [narrow, wide]
    catalog.resolve .scalar "Total" [.plain .i64] = .ok wide ∧
      catalog.get? wide.reference.key = some wide := by
  intro narrow wide catalog
  have resolved : catalog.resolve .scalar "Total" [.plain .i64] = .ok wide := by decide +kernel
  refine ⟨resolved, (get?_reference_of_resolve resolved).2.2 ⟨by decide, [narrow], [], rfl, ?_⟩⟩
  decide

/-- **Overloads of both kinds share a key**: a call of an aggregate function is resolved to it, but its
reference is looked up to the scalar function that was declared in front of it. -/
theorem not_get?_reference_of_resolve :
    let scalarTotal := scalarSignature "total" [exactly .i32] (.argument 0)
    let aggregateTotal := aggregateSignature "total" [exactly .i32] (.plain .i64)
    let catalog := ofList [scalarTotal, aggregateTotal]
    catalog.resolve .aggregate "total" [.plain .i32] = .ok aggregateTotal ∧
      catalog.get? aggregateTotal.reference.key = some scalarTotal ∧
      scalarTotal ≠ aggregateTotal := by
  decide +kernel

end Catalog

end QueryPlan

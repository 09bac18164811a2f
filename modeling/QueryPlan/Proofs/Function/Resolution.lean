import QueryPlan.Function.Standard
import QueryPlan.Proofs.Function.Lookup
import QueryPlan.Proofs.Outcome

/-! # Resolution as a scan
That a catalog keeps its overloads in groups cannot be told from what it resolves: a call goes to the
first declaration that serves it, in the order of declaration (`Catalog.resolve_ofList_eq_ok_iff`), and
the declarations of other names have no part in it. So a call that is resolved stays so when a catalog
grows at its end, and is resolved again under the name that its reference keeps. -/

namespace QueryPlan.Catalog

open Outcome

/-! ## Size -/

/-- One more overload is put into one of the groups. -/
theorem length_flatMap_addTo (name : String) (signature : Signature)
    (groups : List (String × List Signature)) :
    ((addTo name signature groups).flatMap fun group => group.2).length =
      (groups.flatMap fun group => group.2).length + 1 := by
  induction groups with
  | nil => rfl
  | cons group groups ih =>
    obtain ⟨found, overloads⟩ := group
    rw [addTo]
    split
    case isTrue =>
      simp only [List.flatMap_cons, List.length_append, List.length_singleton]
      omega
    case isFalse =>
      simp only [List.flatMap_cons, List.length_append, ih]
      omega

/-- A catalog holds as many overloads as were declared. -/
theorem size_ofList (signatures : List Signature) : (ofList signatures).size = signatures.length := by
  suffices grow : ∀ catalog : Catalog,
      (signatures.foldl add catalog).size = catalog.size + signatures.length by
    rw [ofList, grow empty]
    exact Nat.zero_add _
  induction signatures with
  | nil => exact fun catalog => rfl
  | cons signature signatures ih =>
    intro catalog
    have added : (catalog.add signature).size = catalog.size + 1 := length_flatMap_addTo _ _ _
    rw [List.foldl_cons, ih, added, List.length_cons]
    omega

/-! ## The scan -/

/-- A declaration **serves** a call when it has the name of the call, in either case, and its kind, and
accepts its arguments. -/
def Serves (kind : FunctionKind) (name : String) (arguments : List DataType) (signature : Signature) :
    Prop :=
  SameName signature.name name ∧ signature.kind = kind ∧ signature.accepts arguments = true

instance (kind : FunctionKind) (name : String) (arguments : List DataType) (signature : Signature) :
    Decidable (Serves kind name arguments signature) :=
  inferInstanceAs (Decidable (_ ∧ _ ∧ _))

/-- A declaration serves a call **first** when it does and no earlier one of the list does. -/
def ServesFirst (kind : FunctionKind) (name : String) (arguments : List DataType)
    (signatures : List Signature) (signature : Signature) : Prop :=
  ∃ before after, signatures = before ++ signature :: after ∧ Serves kind name arguments signature ∧
    ∀ earlier ∈ before, ¬ Serves kind name arguments earlier

/-- The declarations of a name, in either case, in their order. -/
def declarationsOf (name : String) (signatures : List Signature) : List Signature :=
  signatures.filter fun found => SameName found.name name

variable {signatures : List Signature} {kind : FunctionKind} {name : String}
  {arguments : List DataType} {signature : Signature}

/-- What is sought among the overloads of a name is sought among all declarations. -/
theorem find?_overloads_ofList (signatures : List Signature) (kind : FunctionKind) (name : String)
    (arguments : List DataType) :
    ((ofList signatures).overloads name).find? (fun found =>
        found.kind = kind && found.accepts arguments) =
      signatures.find? fun found => Serves kind name arguments found := by
  rw [overloads_ofList, List.find?_filter]
  refine congrArg (fun test => signatures.find? test) (funext fun found => decide_eq_decide.2 ?_)
  simp only [Serves, Bool.and_eq_true, decide_eq_true_eq]

/-- **Resolution is a scan**: a call is resolved to the first declaration that serves it. -/
theorem resolve_ofList_eq_ok_iff :
    (ofList signatures).resolve kind name arguments = .ok signature ↔
      ServesFirst kind name arguments signatures signature := by
  rw [resolve_eq_ok_iff, find?_overloads_ofList, List.find?_eq_some_iff_append]
  simp only [decide_eq_true_eq, Bool.not_eq_true', decide_eq_false_iff_not]
  constructor
  · rintro ⟨serves, before, after, split, passed⟩
    exact ⟨before, after, split, serves, passed⟩
  · rintro ⟨before, after, split, serves, passed⟩
    exact ⟨serves, before, after, split, passed⟩

/-- A call is refused in one way, and exactly when no declaration serves it. -/
theorem resolve_ofList_eq_error_iff {error : PlanError} :
    (ofList signatures).resolve kind name arguments = .error error ↔
      error = .noMatchingFunction kind name arguments ∧
        ∀ found ∈ signatures, ¬ Serves kind name arguments found := by
  have unserved : signatures.find? (fun found => Serves kind name arguments found) = none ↔
      ∀ found ∈ signatures, ¬ Serves kind name arguments found := by
    simp only [List.find?_eq_none, decide_eq_true_eq]
  rw [← unserved, ← find?_overloads_ofList]
  unfold resolve
  cases ((ofList signatures).overloads name).find? fun found =>
    found.kind = kind && found.accepts arguments with
  | none => simp [eq_comm]
  | some found => simp

/-! ## Calls that stay resolved -/

/-- A call is resolved among the overloads of its name only. -/
theorem resolve_congr {catalog other : Catalog} (same : catalog.overloads name = other.overloads name) :
    catalog.resolve kind name arguments = other.resolve kind name arguments := by
  rw [resolve, resolve, same]

/-- A resolved call is resolved to the same overload when declarations are added at the end. -/
theorem resolve_append (more : List Signature)
    (resolved : (ofList signatures).resolve kind name arguments = .ok signature) :
    (ofList (signatures ++ more)).resolve kind name arguments = .ok signature := by
  obtain ⟨before, after, rfl, serves, passed⟩ := resolve_ofList_eq_ok_iff.1 resolved
  refine resolve_ofList_eq_ok_iff.2 ⟨before, after ++ more, ?_, serves, passed⟩
  rw [List.append_assoc, List.cons_append]

/-- A name has the overloads of the same name in another case. -/
theorem overloads_congr (catalog : Catalog) {other : String} (same : SameName name other) :
    catalog.overloads name = catalog.overloads other := by
  rw [overloads, overloads, same]

/-- A resolved call is resolved to the same overload under the name that the reference keeps. -/
theorem resolve_reference_name
    (resolved : (ofList signatures).resolve kind name arguments = .ok signature) :
    (ofList signatures).resolve kind signature.reference.name arguments = .ok signature := by
  have same : SameName signature.reference.name name := (mem_of_resolve resolved).2
  rw [resolve_eq_ok_iff, overloads_congr _ same]
  exact resolve_eq_ok_iff.1 resolved

/-- A call keeps the reference to the overload that it is resolved to, under whose name it is resolved to
the same overload again. -/
theorem exists_resolve_of_resolveCall {function : FunctionReference} {type : DataType}
    (called : (ofList signatures).resolveCall kind name arguments = .ok (function, type)) :
    ∃ signature, function = signature.reference ∧
      (ofList signatures).resolve kind name arguments = .ok signature ∧
        (ofList signatures).resolve kind function.name arguments = .ok signature := by
  simp only [resolveCall, bind_eq_ok_iff, pure_eq_ok_iff, Prod.mk.injEq] at called
  obtain ⟨signature, resolved, output, -, rfl, -⟩ := called
  exact ⟨signature, rfl, resolved, resolve_reference_name resolved⟩

/-- **A catalog resolves as a scan of its declarations does.** It has as many overloads as there are
declarations, and those of a name are the declarations of that name in their order. A call is resolved to
the first declaration that serves it and refused exactly when there is none. Once resolved, a call is
resolved to the same overload whatever is declared behind, wherever declarations of other names stand,
and under the name that its reference keeps, which an expression or an aggregation that is built from the
call has as well. -/
theorem resolve_refines_scan (signatures : List Signature) (name : String) :
    (ofList signatures).size = signatures.length ∧
    (ofList signatures).overloads name = declarationsOf name signatures ∧
    (∀ kind arguments,
      (∀ signature, (ofList signatures).resolve kind name arguments = .ok signature ↔
        ServesFirst kind name arguments signatures signature) ∧
      ∀ error, (ofList signatures).resolve kind name arguments = .error error ↔
        error = .noMatchingFunction kind name arguments ∧
          ∀ found ∈ signatures, ¬ Serves kind name arguments found) ∧
    (∀ kind arguments signature,
      (ofList signatures).resolve kind name arguments = .ok signature →
      (∀ more, (ofList (signatures ++ more)).resolve kind name arguments = .ok signature) ∧
      (∀ others, declarationsOf name others = declarationsOf name signatures →
        (ofList others).resolve kind name arguments = .ok signature) ∧
      (ofList signatures).resolve kind signature.reference.name arguments = .ok signature) ∧
    (∀ expressions call, (ofList signatures).scalar name expressions = .ok call →
      ∃ function type, call = .call function expressions type ∧
        ∃ signature, function = signature.reference ∧
          (ofList signatures).resolve .scalar name (expressions.map Expression.type) =
              .ok signature ∧
            (ofList signatures).resolve .scalar function.name (expressions.map Expression.type) =
              .ok signature) ∧
    ∀ expressions call, (ofList signatures).aggregate name expressions = .ok call →
      call.arguments = expressions ∧
        ∃ signature, call.function = signature.reference ∧
          (ofList signatures).resolve .aggregate name (expressions.map Expression.type) =
              .ok signature ∧
            (ofList signatures).resolve .aggregate call.function.name
              (expressions.map Expression.type) = .ok signature := by
  refine ⟨size_ofList signatures, overloads_ofList signatures name, ?_, ?_, ?_, ?_⟩
  · intro kind arguments
    exact ⟨fun _ => resolve_ofList_eq_ok_iff, fun _ => resolve_ofList_eq_error_iff⟩
  · intro kind arguments signature resolved
    refine ⟨fun more => resolve_append more resolved, fun others sameDeclarations => ?_,
      resolve_reference_name resolved⟩
    have sameOverloads : (ofList others).overloads name = (ofList signatures).overloads name := by
      rw [overloads_ofList, overloads_ofList]
      exact sameDeclarations
    rw [resolve_congr sameOverloads, resolved]
  · intro expressions call built
    simp only [scalar, bind_eq_ok_iff, pure_eq_ok_iff] at built
    obtain ⟨⟨function, type⟩, called, rfl⟩ := built
    exact ⟨function, type, rfl, exists_resolve_of_resolveCall called⟩
  · intro expressions call built
    simp only [aggregate, bind_eq_ok_iff, pure_eq_ok_iff] at built
    obtain ⟨⟨function, type⟩, called, rfl⟩ := built
    exact ⟨rfl, exists_resolve_of_resolveCall called⟩

/-- Declarations of one name in several cases and of both kinds, and of another name between them. -/
def lengthDeclarations : List Signature :=
  [scalarSignature "Length" [.concrete (.plain .string)] (.fixed (.plain .i64)),
   aggregateSignature "LENGTH" [.placeholder "any1"] (.plain .i64),
   scalarSignature "abs" [.concrete (.plain .i32)] (.argument 0),
   scalarSignature "length" [.placeholder "any1"] (.fixed (.plain .i32))]

/-- The length of a number is found behind that of a string and an aggregation. It is still found when an
overload for numbers is declared last and when the other name is declared first, and is found again under
the name in the call that is built, as the aggregation is under its own. -/
theorem resolve_refines_scan_length :
    let catalog := ofList lengthDeclarations
    let anyLength := scalarSignature "length" [.placeholder "any1"] (.fixed (.plain .i32))
    let numberLength := scalarSignature "lengtH" [.concrete (.plain .i32)] (.fixed (.plain .i8))
    let absolute := scalarSignature "abs" [.concrete (.plain .i32)] (.argument 0)
    let moved := absolute :: lengthDeclarations.eraseIdx 2
    let number := Expression.field ⟨0, .plain .i32⟩
    catalog.scalar "LENgth" [number] =
        .ok (.call ⟨"length", "length:any"⟩ [number] (.plain .i32)) ∧
      catalog.aggregate "LENgth" [number] =
        .ok { function := ⟨"LENGTH", "LENGTH:any"⟩, arguments := [number], type := .plain .i64 } ∧
      ServesFirst .scalar "LENgth" [.plain .i32] lengthDeclarations anyLength ∧
      catalog.resolve .scalar "length" [.plain .i32] = .ok anyLength ∧
      (∃ counting, catalog.resolve .aggregate "LENGTH" [.plain .i32] = .ok counting) ∧
      (ofList (lengthDeclarations ++ [numberLength])).resolve .scalar "LENgth" [.plain .i32] =
        .ok anyLength ∧
      declarationsOf "LENgth" moved = declarationsOf "LENgth" lengthDeclarations ∧
      (ofList moved).resolve .scalar "LENgth" [.plain .i32] = .ok anyLength := by
  intro catalog anyLength numberLength absolute moved number
  have resolved : catalog.resolve .scalar "LENgth" [.plain .i32] = .ok anyLength := by decide +kernel
  have built : catalog.scalar "LENgth" [number] =
      .ok (.call ⟨"length", "length:any"⟩ [number] (.plain .i32)) := by decide +kernel
  have counted : catalog.aggregate "LENgth" [number] =
      .ok { function := ⟨"LENGTH", "LENGTH:any"⟩, arguments := [number], type := .plain .i64 } := by
    decide +kernel
  have kept : declarationsOf "LENgth" moved = declarationsOf "LENgth" lengthDeclarations := by
    decide +kernel
  obtain ⟨-, -, scan, stable, -, aggregations⟩ := resolve_refines_scan lengthDeclarations "LENgth"
  obtain ⟨grows, moves, again⟩ := stable .scalar [.plain .i32] anyLength resolved
  obtain ⟨-, counting, -, -, countedAgain⟩ := aggregations [number] _ counted
  exact ⟨built, counted, ((scan .scalar [.plain .i32]).1 anyLength).1 resolved, again,
    ⟨counting, countedAgain⟩, grows [numberLength], kept, moves moved kept⟩

end QueryPlan.Catalog

import QueryPlan.Template.Coercion
import QueryPlan.Expression.AggregateCall

/-! # Function signatures
A signature is one overload of a function: the templates of its parameters and the rule that gives the
type of its result. Arguments fit a signature when there are as many of them as parameters and each
fits its parameter; the arguments at one placeholder must all have the shape of the first of them.
`Signature.outputType` applies the return rule to arguments that fit. -/

namespace QueryPlan

/-- The rule that gives the type of a result, its nullability left aside. -/
inductive ReturnRule
  /-- Always the same type. -/
  | fixed (type : DataType)
  /-- The type of an argument. -/
  | argument (index : Nat)
  /-- An argument coerced onto a template. -/
  | derived (index : Nat) (target : Template)
  deriving DecidableEq

/-- Where the nullability of a result comes from. -/
inductive NullabilityRule
  /-- The result is nullable when some argument is. -/
  | fromArguments
  /-- The result has the nullability that the return rule gives. -/
  | asDeclared
  deriving DecidableEq, Inhabited

/-- A **signature**: one overload of a function. -/
structure Signature where
  /-- The name of the function. -/
  name : String
  /-- The kind of the function. -/
  kind : FunctionKind
  /-- The templates of the parameters. -/
  parameters : List Template
  /-- The rule for the type of the result. -/
  returns : ReturnRule
  /-- The rule for the nullability of the result. -/
  nullability : NullabilityRule := .fromArguments
  deriving DecidableEq

/-- The types that stand at placeholders so far: the first argument at each name. -/
abbrev Bindings := List (String × DataType)

/-- Fits an argument to a parameter, under the bindings of the arguments before it. A placeholder takes
any type at first and later the types of the same shape; an open template takes the types of its
family and the ones that can be coerced onto it. -/
def Bindings.fit? (bindings : Bindings) (parameter : Template) (argument : DataType) :
    Option Bindings :=
  match parameter with
  | .placeholder name =>
    match bindings.lookup name with
    | some bound => if DataType.SameShape bound argument then some bindings else none
    | none => some ((name, argument) :: bindings)
  | .concrete _ => if (argument.coerce? parameter).isSome then some bindings else none
  | _ =>
    if parameter.family? = some argument.family ∨ (argument.coerce? parameter).isSome then some bindings
    else none

namespace Signature

/-- The key of an overload: its name and the short names of its parameters. -/
def key (signature : Signature) : String :=
  signature.name ++ ":" ++ "_".intercalate (signature.parameters.map Template.shortName)

/-- The reference to an overload. -/
def reference (signature : Signature) : FunctionReference := ⟨signature.name, signature.key⟩

/-- Fits arguments to parameters one by one, the first of them at position `index`. -/
def checkFrom (signature : Signature) (index : Nat) (bindings : Bindings) :
    List Template → List DataType → Except PlanError Unit
  | parameter :: parameters, argument :: arguments =>
    match bindings.fit? parameter argument with
    | some bindings => signature.checkFrom (index + 1) bindings parameters arguments
    | none => .error (.argumentType signature.key index parameter argument)
  | _, _ => .ok ()

/-- Checks that arguments of the given types fit, and reports the first that does not. -/
def checkArguments (signature : Signature) (arguments : List DataType) : Except PlanError Unit :=
  if arguments.length = signature.parameters.length then
    signature.checkFrom 0 [] signature.parameters arguments
  else
    .error (.arityMismatch signature.key signature.parameters.length arguments.length)

/-- Whether arguments of the given types fit. -/
def accepts (signature : Signature) (arguments : List DataType) : Bool :=
  (signature.checkArguments arguments).isOk

/-- The argument that the return rule names. -/
def argumentAt (signature : Signature) (arguments : List DataType) (index : Nat) :
    Except PlanError DataType :=
  match arguments[index]? with
  | some argument => .ok argument
  | none => .error (.unresolvedReturnType signature.key (.missingArgument index))

/-- The type of an argument that is returned: an argument at an open template is coerced onto it, if it
can be. -/
def returnedArgument (signature : Signature) (index : Nat) (argument : DataType) : DataType :=
  match signature.parameters[index]? with
  | some parameter =>
    -- neither a bound parameter nor a placeholder changes the type
    if ¬ parameter.isConcrete ∧ parameter.family?.isSome then
      (argument.coerce? parameter).getD argument
    else argument
  | none => argument

/-- The type that the return rule gives. -/
def returnedType (signature : Signature) (arguments : List DataType) : Except PlanError DataType :=
  match signature.returns with
  | .fixed type => .ok type
  | .argument index => do
    let argument ← signature.argumentAt arguments index
    return signature.returnedArgument index argument
  | .derived index target => do
    let source ← signature.argumentAt arguments index
    match source.coerce? target with
    | some type => return type
    | none => throw (.unresolvedReturnType signature.key (.notCoercible source target))

/-- The type of the result for arguments of the given types. -/
def outputType (signature : Signature) (arguments : List DataType) : Except PlanError DataType := do
  signature.checkArguments arguments
  let type ← signature.returnedType arguments
  match signature.nullability with
  | .asDeclared => return type
  | .fromArguments =>
    return type.withNullability (.combineAll (arguments.map DataType.nullability))

end Signature

end QueryPlan

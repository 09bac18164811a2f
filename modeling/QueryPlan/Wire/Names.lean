import QueryPlan.Plan.Operator
import QueryPlan.Function.Signature

/-! # Names on the wire
The names under which the members of enumerated types are written on the wire, with the lists that the
names are looked up in. -/

namespace QueryPlan

/-- Finds the member of a list that is written with a name. -/
def findNamed? (nameOf : α → String) (members : List α) (name : String) : Option α :=
  members.find? fun found => nameOf found = name

namespace Nullability

/-- The name of a nullability on the wire. -/
def wireName : Nullability → String
  | required => "required"
  | nullable => "nullable"

/-- Every nullability. -/
def all : List Nullability := [required, nullable]

end Nullability

/-- Both kinds of functions. -/
def FunctionKind.all : List FunctionKind := [scalar, aggregate]

namespace NullabilityRule

/-- The name of a rule for the nullability of results on the wire. -/
def wireName : NullabilityRule → String
  | fromArguments => "mirror"
  | asDeclared => "declared_output"

/-- Both rules for the nullability of results. -/
def all : List NullabilityRule := [fromArguments, asDeclared]

end NullabilityRule

namespace AggregationPhase

/-- The name of a phase on the wire. -/
def wireName : AggregationPhase → String
  | initialToIntermediate => "InitialToIntermediate"
  | intermediateToIntermediate => "IntermediateToIntermediate"
  | initialToResult => "InitialToResult"
  | intermediateToResult => "IntermediateToResult"

/-- Every phase. -/
def all : List AggregationPhase :=
  [initialToIntermediate, intermediateToIntermediate, initialToResult, intermediateToResult]

end AggregationPhase

namespace AggregationScope

/-- The name of a scope on the wire. -/
def wireName : AggregationScope → String
  | all => "All"
  | distinct => "Distinct"

/-- Both scopes. -/
def members : List AggregationScope := [all, distinct]

end AggregationScope

namespace SortDirection

/-- The name of an order on the wire. -/
def wireName : SortDirection → String
  | ascendingNullsFirst => "AscNullsFirst"
  | ascendingNullsLast => "AscNullsLast"
  | descendingNullsFirst => "DescNullsFirst"
  | descendingNullsLast => "DescNullsLast"
  | clustered => "Clustered"

/-- Every order. -/
def all : List SortDirection :=
  [ascendingNullsFirst, ascendingNullsLast, descendingNullsFirst, descendingNullsLast, clustered]

end SortDirection

namespace JoinType

/-- The name of a type of join on the wire. -/
def wireName : JoinType → String
  | inner => "Inner"
  | left => "Left"
  | right => "Right"
  | outer => "Outer"
  | leftSemi => "LeftSemi"
  | leftAnti => "LeftAnti"
  | rightSemi => "RightSemi"
  | rightAnti => "RightAnti"

/-- Every type of join. -/
def all : List JoinType := [inner, left, right, outer, leftSemi, leftAnti, rightSemi, rightAnti]

end JoinType

namespace SetOperation

/-- The name of a set operation on the wire. -/
def wireName (operation : SetOperation) : String :=
  match operation.kind, operation.keepsDuplicates with
  | .minus, false => "MinusPrimary"
  | .minus, true => "MinusMultiset"
  | .intersection, false => "IntersectionPrimary"
  | .intersection, true => "IntersectionMultiset"
  | .union, false => "UnionDistinct"
  | .union, true => "UnionAll"

/-- Every set operation. -/
def all : List SetOperation :=
  [⟨.minus, false⟩, ⟨.minus, true⟩, ⟨.intersection, false⟩, ⟨.intersection, true⟩,
   ⟨.union, false⟩, ⟨.union, true⟩]

end SetOperation

end QueryPlan

import QueryPlan.Plan.Explain
import QueryPlan.Plan.Draft
import QueryPlan.Plan.Shorthand
import QueryPlan.Plan.Walk
import QueryPlan.Function.Standard
import QueryPlan.Schema.Document
import QueryPlan.Template.Survey
import QueryPlan.Wire.Decoding
import QueryPlan.Wire.Encoding
import QueryPlan.Wire.Json
import QueryPlan.Proofs.Plan.Coherence
import QueryPlan.Proofs.Plan.Replacement
import QueryPlan.Proofs.DataType.RoundTrip
import QueryPlan.Proofs.Template.RoundTrip
import QueryPlan.Proofs.Function.Matching
import QueryPlan.Proofs.Function.OutputType
import QueryPlan.Proofs.Function.Lookup
import QueryPlan.Proofs.Function.ShapeInvariance
import QueryPlan.Proofs.Expression.Construction
import QueryPlan.Proofs.Function.Placeholders
import QueryPlan.Proofs.Function.Reference
import QueryPlan.Proofs.Wire.Reading
import QueryPlan.Proofs.Wire.RoundTrip
import QueryPlan.Proofs.DataType.Canonical
import QueryPlan.Proofs.Template.Agreement
import QueryPlan.Proofs.Expression.Typing
import QueryPlan.Proofs.Wire.Construction
import QueryPlan.Proofs.Function.Resolution
import QueryPlan.Proofs.Plan.Rows
import QueryPlan.Proofs.Function.Standard
import QueryPlan.Proofs.Plan.LineCount
import QueryPlan.Proofs.Function.Mismatch
import QueryPlan.Proofs.Function.StandardResult
import QueryPlan.Proofs.Plan.WellFormed
import QueryPlan.Proofs.Template.Grammar
import QueryPlan.Proofs.Template.TargetForms
import QueryPlan.Proofs.Function.Derivation
import QueryPlan.Proofs.Plan.Grouping
import QueryPlan.Proofs.Plan.SetOrder
import QueryPlan.Proofs.Expression.References
import QueryPlan.Proofs.Template.Coerced
import QueryPlan.Proofs.Expression.Resolved
import QueryPlan.Proofs.Plan.Pushdown
import QueryPlan.Proofs.Plan.Resolved
import QueryPlan.Proofs.DataType.Respelling

import QueryRewriting.Access.Template
import QueryRewriting.Main
import QueryRewriting.Proofs.Access.Authorization
import QueryRewriting.Proofs.Access.Exposure
import QueryRewriting.Proofs.Access.Substitution
import QueryRewriting.Proofs.QuerySpec.Meaning
import QueryRewriting.Proofs.Rewriting.Provenance
import QueryRewriting.Proofs.Rewriting.Rooting
import QueryRewriting.Proofs.Rewriting.Shelter
import QueryRewriting.Proofs.Rewriting.Stability
import QueryRewriting.Proofs.Rewriting.Typing
import QueryRewriting.Rewriting.Rule
import QueryRewriting.Template.Reader
import QueryRewriting.Proofs.Access.CircularViews
import QueryRewriting.Proofs.Rewriting.Sights
import QueryRewriting.Proofs.Access.Addressing
import QueryRewriting.Proofs.Rewriting.Costs
import QueryRewriting.Proofs.Access.Inlining
import QueryRewriting.Proofs.Access.ViewExpansion
import QueryRewriting.Proofs.Rewriting.Abreast
import QueryRewriting.Proofs.Access.Scoping
import QueryRewriting.Proofs.Access.ParameterNames
import QueryRewriting.Proofs.Request.Stages
import QueryRewriting.Proofs.Request.Milestones
import QueryRewriting.Proofs.Request.Accounting
import QueryRewriting.Proofs.Request.FilterProtocol
import QueryRewriting.Proofs.Request.Interruption
import QueryRewriting.Proofs.Access.StaticTypes
import QueryRewriting.Proofs.Access.Origin
import QueryRewriting.Proofs.Rewriting.Gates
import QueryRewriting.Proofs.Access.ServiceRole
import QueryRewriting.Proofs.QuerySpec.Addressing
import QueryRewriting.Proofs.Request.TotalCount
import QueryRewriting.Proofs.Rewriting.Depth
import QueryRewriting.Proofs.Rewriting.FilterDepth
import QueryRewriting.Proofs.Rewriting.Stacking
import QueryRewriting.Proofs.Access.FilterPlan
import QueryRewriting.Proofs.Access.FilterOrder
import QueryRewriting.Proofs.Template
import QueryRewriting.Proofs.Evaluation.Integers
import QueryRewriting.Proofs.QuerySpec.Acceptance
import QueryRewriting.Proofs.Schema.Document
import QueryRewriting.Proofs.Rewriting.Agreement
import QueryRewriting.Proofs.QueryType
import QueryRewriting.Proofs.Evaluation.Order
import QueryRewriting.Proofs.Evaluation.Equality
import QueryRewriting.Proofs.Telemetry.Log

import Genesis.Lib.Dialogue
import Genesis.Lib.Raises
import Genesis.Lib.Python
import Genesis.Lib.Text
import Genesis.Lib.Bounds
import Genesis.Lib.Chain
import Genesis.Lib.Tree
import Genesis.Lib.Traversal
import Genesis.Platform
import Genesis.Limits
import Genesis.Context.Models
import Genesis.Lib.Priority
import Genesis.Context.Safety
import Genesis.Context.Budgeting
import Genesis.Context.Manager
import Genesis.Context.Authority
import Genesis.Context.Header
import Genesis.Context.Selection
import Genesis.Context.FailClosed
import Genesis.Memory.Ranking
import Genesis.ModelGateway
import Genesis.Agentic.Models
import Genesis.Agentic.Engine
import Genesis.Agentic.Course
import Genesis.Agentic.Boundary
import Genesis.Agentic.Outcome
import Genesis.Agentic.ToolClient
import Genesis.Agentic.Totality
import Genesis.Agentic.Spending
import Genesis.Research.Decision
import Genesis.Research.Draft
import Genesis.Research.Engine
import Genesis.Research.Lineage
import Genesis.Context.Injection
import Genesis.Research.Isolation
import Genesis.Research.Citations
import Genesis.Research.Governance
import Genesis.Research.Disclosure
import Genesis.Delegation.Guard
import Genesis.Delegation.Lineage
import Genesis.Skills.Models
import Genesis.Skills.Loader
import Genesis.Skills.Selection
import Genesis.Skills.Runtime
import Genesis.Skills.Disclosure
import Genesis.Skills.Specification
import Genesis.Capabilities.Models
import Genesis.Capabilities.Resolver
import Genesis.Capabilities.Factory
import Genesis.Capabilities.Privilege
import Genesis.Capabilities.Order
import Genesis.Capabilities.Agreement
import Genesis.Lib.Words
import Genesis.Lib.Groups
import Genesis.Lib.Lines
import Genesis.Memory.Composition
import Genesis.Memory.Scoring
import Genesis.Research.Comparison
import Genesis.Research.Risks
import Genesis.Research.Reordering
import Genesis.Agentic.Failure
import Genesis.Delegation.Limits
import Genesis.Lib.Markers
import Genesis.Research.Documents
import Genesis.Research.Headings
import Genesis.Skills.Evaluator
import Genesis.Lib.JsonText
import Genesis.Context.Identity
import Genesis.Agentic.CallIds
import Genesis.Memory.Retrieval
import Genesis.Capabilities.Risk
import Genesis.Lib.Handlers
import Genesis.Observability.Correlation
import Genesis.Api.Routes
import Genesis.Api.Research
import Genesis.Api.Service
import Genesis.Api.Correlated
import Genesis.Deployment.Agent
import Genesis.Deployment.Research
import Genesis.Deployment.Defaults
import Genesis.Lib.Branching
import Genesis.Delegation.Fleet
import Genesis.Lib.Layers
import Genesis.Contracts.Errors
import Genesis.Contracts.Catalog
import Genesis.Deployment.Wire
import Genesis.Research.Failure
import Genesis.Deployment.Failure
import Genesis.Skills.Reads
import Genesis.Deployment.Attempts
import Genesis.Deployment.CallNames
import Genesis.Capabilities.Registration
import Genesis.Skills.Applicability
import Genesis.Api.Conforming
import Genesis.Lib.JsonAlike
import Genesis.Research.Prompts
import Genesis.Deployment.Views

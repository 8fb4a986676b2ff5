import Genesis.Contracts.Catalog
import Genesis.Deployment.Research

/-!
# What crosses the boundary of tools

A deployment checks its tool calls by `ToolBoundaryContracts` and everything else
by a `CanonicalContractCatalog`.  Loaded from one directory, they agree, so the
catalog accepts every tool request that leaves and every tool result that is passed
on to a provider (`wire_conforms`).
-/

namespace Genesis

open Py

/-- The POST carries a tool request that the catalog accepts, under the correlation id
of its own execution context. -/
structure Conforms (catalog : CanonicalContractCatalog) (call : ToolPost) : Prop where
  accepted : catalog.validate TOOL_REQUEST_SCHEMA_ID call.payload = .ok call.payload
  correlated : ∃ context : JsonObject, ∃ correlationId : String,
    call.payload.get? "execution_context" = some (.obj context) ∧
      context.get? "correlation_id" = some (.str correlationId) ∧
      call.headers.get? "X-Correlation-ID" = some correlationId

/-- An event that is in order: a POST conforms, and a provider is shown what it may be. -/
inductive Proper (catalog : CanonicalContractCatalog) (Shown : ProviderCall → Prop) :
    OutsideEvent → Prop
  | plan (definition : AgentDefinition) (request : JsonObject)
    (reply : Except PyException ExecutionPlan) :
    Proper catalog Shown ⟨.plan definition request, reply⟩
  | post {call : ToolPost} (conforms : Conforms catalog call) (reply : HttpReply) :
    Proper catalog Shown ⟨.post call, reply⟩
  | invoke {call : ProviderCall} (shown : Shown call) (reply : Except PyException ModelResponse) :
    Proper catalog Shown ⟨.invoke call, reply⟩

section

variable {boundary : ToolBoundaryContracts} {catalog : CanonicalContractCatalog}
  {client : BackendToolClient} {payload : JsonObject} {id contract correlationId : String}

theorem validate_of_boundaryResult
    (passed : boundaryResult contract (catalog.validate id payload) = .ok ()) :
    catalog.validate id payload = .ok payload := by
  cases checked : catalog.validate id payload with
  | ok result => rw [CanonicalContractCatalog.eq_of_validate checked]
  | error exc =>
    rw [checked] at passed
    cases exc <;> cases passed

theorem Agrees.validate_request (agrees : Agrees boundary catalog)
    (passed : boundary.requestError payload = none) :
    catalog.validate TOOL_REQUEST_SCHEMA_ID payload = .ok payload :=
  validate_of_boundaryResult
    ((agrees.request payload).symm.trans (BackendToolClient.check_eq_ok_iff.mpr passed))

theorem Agrees.validate_result (agrees : Agrees boundary catalog)
    (passed : boundary.resultError payload = none) :
    catalog.validate TOOL_RESULT_SCHEMA_ID payload = .ok payload :=
  validate_of_boundaryResult
    ((agrees.result payload).symm.trans (BackendToolClient.check_eq_ok_iff.mpr passed))

theorem header_post : (client.post payload correlationId).headers.get? "X-Correlation-ID" =
    some correlationId := by
  unfold BackendToolClient.post
  rfl

theorem Agrees.conforms (agrees : Agrees client.contracts catalog)
    (postable : client.Postable payload correlationId) :
    Conforms catalog (client.post payload correlationId) := by
  obtain ⟨context, found, correlated⟩ := postable.correlationId
  exact ⟨agrees.validate_request postable.schema, context, correlationId, found, correlated,
    header_post⟩

end

namespace AgentRuntimeEngine

/-- The messages are those of a plan and of tool results that the catalog accepts. -/
def ShowsResults (catalog : CanonicalContractCatalog) (engine : AgentRuntimeEngine)
    (call : ProviderCall) : Prop :=
  ∃ plan toolResults, call.request.messages = modelMessages engine.platform plan toolResults ∧
    ∀ toolResult ∈ toolResults,
      catalog.validate TOOL_RESULT_SCHEMA_ID toolResult = .ok toolResult

section

variable {engine : AgentRuntimeEngine} {deployment : Deployment} {definition : AgentDefinition}
  {request : JsonObject} {authorization : RuntimeAuthorization} {u : OutsideTrace}
  {catalog : CanonicalContractCatalog} {Shown : ProviderCall → Prop}

theorem Posts.proper {intent : ToolCallIntent} {event : OutsideEvent}
    (agrees : Agrees deployment.client.contracts catalog)
    (posts : Posts deployment definition request authorization intent event) :
    Proper catalog Shown event := by
  cases posts with
  | mk _ _ postable reply => exact .post (agrees.conforms postable) reply

theorem Obtains.proper {intent : ToolCallIntent} {exchange : OutsideEvent × JsonObject}
    (agrees : Agrees deployment.client.contracts catalog)
    (obtains : Obtains deployment definition request authorization intent exchange) :
    Proper catalog Shown exchange.1 ∧
      catalog.validate TOOL_RESULT_SCHEMA_ID exchange.2 = .ok exchange.2 := by
  cases obtains with
  | mk posts accepted => exact ⟨posts.proper agrees, agrees.validate_result accepted.schema⟩

theorem Conduct.proper (agrees : Agrees deployment.client.contracts catalog)
    (conduct : Conduct engine deployment definition request authorization u) :
    ∀ event ∈ u, Proper catalog (ShowsResults catalog engine) event := by
  cases conduct with
  | idle => exact List.forall_mem_nil _
  | planning => exact List.forall_mem_singleton.mpr (.plan _ _ _)
  | posting _ _ each =>
    refine List.forall_mem_cons.mpr ⟨.plan _ _ _, ?_⟩
    intro event member
    obtain ⟨intent, -, posts⟩ := exists_left_of_forall₂ each member
    exact posts.proper agrees
  | @consulting budget plan exchanges call governs each consults reply =>
    have proper : ∀ exchange ∈ exchanges,
        Proper catalog (ShowsResults catalog engine) exchange.1 ∧
          catalog.validate TOOL_RESULT_SCHEMA_ID exchange.2 = .ok exchange.2 := by
      intro exchange member
      obtain ⟨intent, -, obtains⟩ := exists_left_of_forall₂ each member
      exact obtains.proper agrees
    rw [List.cons_append, List.forall_mem_cons, List.forall_mem_append, List.forall_mem_map,
      List.forall_mem_singleton]
    refine ⟨.plan _ _ _, fun exchange member => (proper exchange member).1, .invoke ?_ reply⟩
    refine ⟨plan, _, consults.messages, ?_⟩
    rw [List.forall_mem_map]
    exact fun exchange member => (proper exchange member).2

end

end AgentRuntimeEngine

namespace ResearchEngine

/-- The messages are those of the question and of a bundle that the engine accepts. -/
def ShowsBundle (engine : ResearchEngine) (payload : JsonObject) (call : ProviderCall) : Prop :=
  ∃ bundle, Renders engine.platform payload bundle call.request ∧
    engine.contracts.validate CONTEXT_BUNDLE_SCHEMA bundle = .ok bundle

variable {engine : ResearchEngine} {deployment : ResearchDeployment} {payload : JsonObject}
  {u : OutsideTrace} {catalog : CanonicalContractCatalog} {Shown : ProviderCall → Prop}

theorem Searches.proper {args : RetrieveArguments} {correlation : String} {event : OutsideEvent}
    (agrees : Agrees deployment.provider.toolClient.contracts catalog)
    (searches : Searches engine deployment payload args correlation event) :
    Proper catalog Shown event := by
  cases searches with
  | mk _ postable reply => exact .post (agrees.conforms postable) reply

theorem Conduct.proper (agrees : Agrees deployment.provider.toolClient.contracts catalog)
    (conduct : Conduct engine deployment payload u) :
    ∀ event ∈ u, Proper catalog (ShowsBundle engine payload) event := by
  cases conduct with
  | idle => exact List.forall_mem_nil _
  | searching searches => exact List.forall_mem_singleton.mpr (searches.proper agrees)
  | consulting sources consults reply =>
    rw [List.forall_mem_append, List.forall_mem_singleton]
    refine ⟨?_, .invoke ⟨_, consults.renders, consults.schema⟩ reply⟩
    cases sources with
    | inline => exact List.forall_mem_nil _
    | retrieved searches => exact List.forall_mem_singleton.mpr (searches.proper agrees)

end ResearchEngine

/-- Where the clients of a deployment and its catalog read one directory in which `$id`s are
non-empty strings, or not true, and each has one document, whatever planner, Backend and
provider reply: every tool request that leaves a run or a research is one that the catalog
accepts, under the correlation id of its own context; and a provider of a run is shown no
tool result that it rejects. -/
theorem wire_conforms (platform : Platform) (library : SchemaLibrary) (tree other : FileTree.Tree)
    (boundary : ToolBoundaryContracts) (relisted : FileTree.Tree.Relisted tree other)
    (identified : Identified platform tree) (settled : ∀ id, Settled platform stringId tree id)
    (built : ToolBoundaryContracts.init platform library other = .ok boundary) :
    ∃ catalog, CanonicalContractCatalog.init platform library tree = .ok catalog ∧
      (∀ (engine : AgentRuntimeEngine) (deployment : Deployment) (definition : AgentDefinition)
        (request : JsonObject) (authorization : RuntimeAuthorization) (u : OutsideTrace)
        (r : Except PyException JsonObject), deployment.client.contracts = boundary →
        Dialogue.Runs (engine.runOutside deployment definition request authorization) u r →
          ∀ event ∈ u, Proper catalog (AgentRuntimeEngine.ShowsResults catalog engine) event) ∧
      ∀ (engine : ResearchEngine) (deployment : ResearchDeployment) (payload : JsonObject)
        (u : OutsideTrace) (outcome : Except PyException JsonObject × Unit),
        deployment.provider.toolClient.contracts = boundary →
        Dialogue.Runs (engine.researchOutside deployment payload) u outcome →
          ∀ event ∈ u, Proper catalog (ResearchEngine.ShowsBundle engine payload) event := by
  obtain ⟨catalog, loads, agrees⟩ :=
    ToolBoundaryContracts.exists_agrees relisted identified settled built
  refine ⟨catalog, loads, ?_, ?_⟩
  · rintro engine deployment definition request authorization u r rfl run
    exact (AgentRuntimeEngine.conduct_of_runs run).proper agrees
  · rintro engine deployment payload u outcome rfl run
    exact (ResearchEngine.conduct_of_runs run).proper agrees

/-! ## A run and a research on two schemas -/

def schemaDeployment : Deployment :=
  { AgentRuntimeEngine.diagnosticDeployment with
    client := { BackendToolClient.diagnosticClient with contracts := schemaBoundary } }

def wireRun : OutsideTrace × Except PyException JsonObject :=
  (AgentRuntimeEngine.completingEngine.runOutside schemaDeployment
    AgentRuntimeEngine.diagnosticDefinition AgentRuntimeEngine.spendingRequest
    AgentRuntimeEngine.diagnosticAuthorization).converse
      (fun _ => AgentRuntimeEngine.outsideReply) []

def schemaProvider : BackendContextProvider :=
  { BackendContextProvider.openProvider with
    toolClient :=
      { BackendContextProvider.openProvider.toolClient with contracts := schemaBoundary } }

def schemaDeployed : ResearchDeployment :=
  { ResearchEngine.policyDeployed with provider := schemaProvider }

def wireResearch : OutsideTrace × Except PyException JsonObject × Unit :=
  (ResearchEngine.searchingEngine.researchOutside schemaDeployed
    ResearchEngine.bundlelessRequest).converse (fun _ => ResearchEngine.searchReply) []

theorem wire_conforms_diagnostic :
    wireRun.1.length = 4 ∧ wireResearch.1.length = 2 ∧ ∃ catalog,
      CanonicalContractCatalog.init schemaPlatform fieldsLibrary schemaTree = .ok catalog ∧
        (∀ event ∈ wireRun.1, Proper catalog
          (AgentRuntimeEngine.ShowsResults catalog AgentRuntimeEngine.completingEngine) event) ∧
        ∀ event ∈ wireResearch.1, Proper catalog
          (ResearchEngine.ShowsBundle ResearchEngine.searchingEngine
            ResearchEngine.bundlelessRequest) event := by
  have length : wireRun.1.length = 4 := by decide +kernel
  have length' : wireResearch.1.length = 2 := by decide +kernel
  obtain ⟨catalog, loads, runs, researches⟩ := wire_conforms schemaPlatform fieldsLibrary
    schemaTree schemaTreeBackwards schemaBoundary (FileTree.Tree.relisted_relist _)
    schemaTree_identified schemaTree_settled schemaBoundary_init
  exact ⟨length, length', catalog, loads,
    runs _ schemaDeployment _ _ _ _ _ rfl (Dialogue.converse_runs _ [] _),
    researches _ schemaDeployed _ _ _ rfl (Dialogue.converse_runs _ [] _)⟩

end Genesis

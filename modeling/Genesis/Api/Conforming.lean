import Genesis.Api.Service
import Genesis.Capabilities.Risk

/-!
# Answers that conform

A request and everything in the answer to it pass the schemas of the catalog that the
service loads for it, each document its own schema.  The factory validates a payload
before it reads a draft from it, and validates the result in which it dumps the draft
again: `AgentDraft.modelDump_of_draftPayload` says that what is dumped is the payload.
`Service.respond_conforms` says it of every response with status 200.
-/

namespace Genesis

open Py

/-- The schema accepts the document. -/
def CanonicalContractCatalog.Admits (contracts : CanonicalContractCatalog) (schemaId : String)
    (document : JsonObject) : Prop :=
  contracts.validate schemaId document = .ok document

theorem CanonicalContractCatalog.admits_of_validate {contracts : CanonicalContractCatalog}
    {schemaId : String} {document validated : JsonObject}
    (valid : contracts.validate schemaId document = .ok validated) :
    contracts.Admits schemaId document := by
  rw [Admits, valid, eq_of_validate valid]

/-! ## What the factory proposes -/

/-- A field that was written as a string is read as that string. -/
theorem eq_of_strField {model key s t : String} {raw : JsonObject}
    (written : raw.get? key = some (.str s)) (read : strField model raw key = .ok t) : t = s := by
  rw [strField_eq_ok_iff, written] at read
  cases read
  rfl

namespace CapabilityFactory

/-- Every document of the result passes its own schema, and the agent draft is dumped as the
document it was read from. -/
structure Conforms (contracts : CanonicalContractCatalog) (result : FactoryAnalysisResult) :
    Prop where
  dumped : contracts.Admits FACTORY_RESULT_SCHEMA result.modelDump
  capabilityDraft : ∀ draft ∈ result.capabilityDraft,
    contracts.Admits CAPABILITY_DRAFT_SCHEMA draft
  agentDraft : ∀ draft ∈ result.agentDraft, ∃ document : JsonObject,
    AgentDraft.modelValidate document = .ok draft ∧ draft.modelDump = .obj document ∧
      contracts.Admits AGENT_DRAFT_SCHEMA document ∧
      document.get? "agent_definition" = some (.obj draft.agentDefinition) ∧
      contracts.Admits AGENT_DEFINITION_SCHEMA draft.agentDefinition

section

variable {factory : CapabilityFactory} {requirement : Requirement}
  {resolution : CapabilityResolution} {result built : FactoryAnalysisResult} {draft : AgentDraft}
  {definition : JsonObject} {request : FactoryAnalysisRequest}
  {capabilityId agentId digest : String}

/-- An agent draft is dumped as the payload it was read from. -/
theorem modelDump_of_draftPayload (valid : AgentDraft.modelValidate
    (draftPayload requirement resolution digest agentId definition) = .ok draft) :
    draft.modelDump = .obj (draftPayload requirement resolution digest agentId definition) := by
  simp only [AgentDraft.modelValidate, except_bind_eq_ok] at valid
  obtain ⟨_, -, draftId, readDraftId, tenantId, readTenantId, organizationId, readOrganizationId,
    workspaceId, readWorkspaceId, correlationId, readCorrelationId, agentId', readAgentId, version,
    readVersion, purpose, readPurpose, _, -, scopes, readScopes, tools, readTools, permissions,
    readPermissions, prohibited, readProhibited, risk, readRisk, evidence, readEvidence, tests,
    readTests, _, -, made⟩ := valid
  split at made
  · next riskLevel other level found =>
    obtain ⟨_, rfl⟩ := construct_eq_ok_iff.mp made
    have sameRisk := eq_of_strField rfl readRisk
    rw [sameRisk, RiskLevel.ofValue?_value] at level
    cases level
    cases found
    cases eq_of_strField rfl readDraftId
    cases eq_of_strField rfl readTenantId
    cases eq_of_strField rfl readOrganizationId
    cases eq_of_strField rfl readWorkspaceId
    cases eq_of_strField rfl readCorrelationId
    cases eq_of_strField rfl readAgentId
    cases eq_of_strField rfl readVersion
    cases eq_of_strField rfl readPurpose
    cases eq_of_strTupleField rfl readScopes
    cases eq_of_strTupleField rfl readTools
    cases eq_of_strTupleField rfl readPermissions
    cases eq_of_strTupleField rfl readProhibited
    cases eq_of_strTupleField rfl readEvidence
    cases eq_of_strTupleField rfl readTests
    rfl
  · cases made

theorem admits_of_validatedResult (valid : factory.validatedResult built = .ok result) :
    factory.contracts.Admits FACTORY_RESULT_SCHEMA result.modelDump := by
  rw [validatedResult_eq valid]
  simp only [validatedResult, except_bind_eq_ok] at valid
  obtain ⟨_, accepted, -⟩ := valid
  exact CanonicalContractCatalog.admits_of_validate accepted

/-- An agent draft conforms, and so does the definition in it. -/
theorem conforms_of_agentDraft
    (drafted : factory.agentDraft requirement capabilityId resolution digest = .ok draft) :
    ∃ document : JsonObject, AgentDraft.modelValidate document = .ok draft ∧
      draft.modelDump = .obj document ∧ factory.contracts.Admits AGENT_DRAFT_SCHEMA document ∧
      document.get? "agent_definition" = some (.obj draft.agentDefinition) ∧
      factory.contracts.Admits AGENT_DEFINITION_SCHEMA draft.agentDefinition := by
  have valid := modelValidate_of_agentDraft drafted
  simp only [agentDraft, except_bind_eq_ok] at drafted
  obtain ⟨definition, defined, payload, accepted, -⟩ := drafted
  cases CanonicalContractCatalog.eq_of_validate defined
  have same := (AgentDraft.of_modelValidate ⟨rfl, rfl, rfl⟩ rfl valid).2.2.2
  rw [same]
  exact ⟨_, valid, modelDump_of_draftPayload valid,
    CanonicalContractCatalog.admits_of_validate accepted, rfl,
    CanonicalContractCatalog.admits_of_validate defined⟩

theorem conforms_of_create (created : factory.create requirement resolution = .ok result) :
    Conforms factory.contracts result := by
  simp only [create, except_bind_eq_ok] at created
  obtain ⟨accepted, valid, agentDraft, required, proposed⟩ := created
  have admitted := admits_of_validatedResult proposed
  rw [validatedResult_eq proposed] at admitted ⊢
  refine ⟨admitted, ?_, ?_⟩
  · intro draft proposes
    cases proposes
    cases CanonicalContractCatalog.eq_of_validate valid
    exact valid
  · intro draft proposes
    exact conforms_of_agentDraft ((requiredDraft_cases required).2 draft proposes)

theorem conforms_of_reuse (reused : factory.reuse requirement resolution = .ok result) :
    Conforms factory.contracts result := by
  have admitted := admits_of_validatedResult reused
  rw [validatedResult_eq reused] at admitted ⊢
  exact ⟨admitted, nofun, nofun⟩

/-- Whatever the factory returns conforms, and the request did. -/
theorem conforms_of_analyze (analyzed : factory.analyze request = .ok result) :
    factory.Accepts request ∧ Conforms factory.contracts result := by
  simp only [analyze, propose, except_bind_eq_ok] at analyzed
  obtain ⟨_, accepted, resolution, -, proposed⟩ := analyzed
  refine ⟨CanonicalContractCatalog.admits_of_validate accepted, ?_⟩
  split at proposed
  · exact conforms_of_reuse proposed
  · exact conforms_of_create proposed

end

end CapabilityFactory

/-! ## What the decider answers -/

/-- A decision is returned in a canonical form that conforms. -/
theorem ExternalResearchDecider.admits_of_result {decider : ExternalResearchDecider}
    {request : ResearchDecisionRequest} {decision : ResearchDecision}
    {kind : ResearchDecisionKind} {evidenceIds reasons : List String} {reason : String}
    {retrieval : Option BackendRetrievalProposal}
    (returned : decider.result request kind evidenceIds reason reasons retrieval = .ok decision) :
    decider.contracts.Admits RESEARCH_DECISION_SCHEMA decision.canonicalResearchDecision := by
  rw [canonical_of_result returned]
  unfold result at returned
  split at returned
  next valid => exact CanonicalContractCatalog.admits_of_validate valid
  · split at returned <;> cases returned

namespace Service

/-- What a route of the service answers with status 200: fixed information about the
service, or a conforming document for a conforming payload. -/
inductive Conforming (service : Service) : InternalRoute → Content → Prop
  | internalHealth : Conforming service .internalHealth health
  | systemInfo : Conforming service .systemInfo systemInfo
  | integrationDiagnostic (correlationId : String) :
    Conforming service .integrationDiagnostic (integrationDiagnostic correlationId)
  | analyzeFactory {path : String} {contracts : CanonicalContractCatalog}
    {request : FactoryAnalysisRequest} {result : FactoryAnalysisResult}
    (configured : path ∈ service.settings.alosContractsPath)
    (loaded : service.loadCatalog path = .ok contracts)
    (accepted : contracts.Admits FACTORY_REQUEST_SCHEMA request.modelDump)
    (conforms : CapabilityFactory.Conforms contracts result) :
    Conforming service (.analyzeFactory (.parsed (.ok request))) (.factory result)
  | decideResearchSource {path : String} {contracts : CanonicalContractCatalog}
    {payload document : JsonObject} (configured : path ∈ service.settings.alosContractsPath)
    (loaded : service.loadCatalog path = .ok contracts)
    (accepted : contracts.Admits RESEARCH_ANALYSIS_REQUEST_SCHEMA payload)
    (conforms : contracts.Admits RESEARCH_DECISION_SCHEMA document) :
    Conforming service (.decideResearchSource (.parsed (.ok payload))) (.json document)

section

variable {service : Service} {route : InternalRoute} {correlationId : String}
  {content : Content} {t : ReadTrace}

theorem conforming_of_analyzeFactory {request : FactoryAnalysisRequest}
    (answered : service.analyzeFactory request correlationId = .ok content) :
    Conforming service (.analyzeFactory (.parsed (.ok request))) content := by
  unfold analyzeFactory at answered
  split at answered
  · cases answered
  simp only [except_bind_eq_ok, asBoundary_eq_ok_iff, raised_eq_ok_iff,
    contractsPath_eq_ok_iff] at answered
  obtain ⟨path, configured, contracts, loaded, result, analyzed, returned⟩ := answered
  cases returned
  obtain ⟨accepted, conforms⟩ := CapabilityFactory.conforms_of_analyze analyzed
  exact .analyzeFactory configured loaded accepted conforms

theorem conforming_of_decideResearchSource {payload : JsonObject}
    (answered : service.decideResearchSource payload correlationId = .ok content) :
    Conforming service (.decideResearchSource (.parsed (.ok payload))) content := by
  simp only [decideResearchSource, except_bind_eq_ok, handled_eq_ok_iff, contractsPath_eq_ok_iff,
    decideResearch_eq_ok_iff] at answered
  obtain ⟨path, configured, contracts, context, arguments, request, decision, loaded, accepted, -,
    -, -, built, chosen, rfl⟩ := answered
  have fills := fills_of_decisionRequest built
  refine .decideResearchSource configured loaded accepted ?_
  rw [ExternalResearchDecider.decide_of_noEvidence fills.evidence fills.informationComplete]
    at chosen
  dsimp only at chosen
  split at chosen <;> exact ExternalResearchDecider.admits_of_result chosen

theorem conforming_of_returns (returns : Returns service route t content) :
    Conforming service route content := by
  cases returns with
  | internalHealth => exact .internalHealth
  | systemInfo => exact .systemInfo
  | integrationDiagnostic id => exact .integrationDiagnostic id
  | analyzeFactory answered => exact conforming_of_analyzeFactory answered
  | decideResearchSource answered => exact conforming_of_decideResearchSource answered

/-- No failure has the status of a success. -/
theorem statusCode_ne_of_handled {exc : ServiceException} {response : Response}
    (answered : Handled exc) (run : Dialogue.Runs (handleException exc) t (.ok response)) :
    response.statusCode ≠ 200 := by
  obtain ⟨respond, answers, code, statusCode, retryable, message, details, known, same⟩ := answered
  obtain ⟨reply, rfl, replied⟩ := runs_answered answers run
  have fails : ∀ failure ∈ FAILURES, failure.2.1 ≠ 200 := by decide
  cases reply with
  | error e => cases replied
  | ok correlationId =>
    cases replied
    rw [same]
    exact fails _ known

end

/-- Every response with status 200 conforms, and so does the payload it answers: nothing
else reaches or leaves the factory and the decider in a request that succeeds. -/
theorem respond_conforms (service : Service) (authorization : Option String)
    (route : InternalRoute) (t : ReadTrace) (response : Response)
    (run : Dialogue.Runs (service.respond (.internal authorization route)) t (.ok response))
    (succeeded : response.statusCode = 200) : Conforming service route response.content := by
  obtain ⟨t₁, t₂, outcome, rfl, first, rest⟩ := Dialogue.Runs.bind_iff.mp run
  rcases runs_endpoint first with
    ⟨content, rfl⟩ | ⟨exc, rfl, answered⟩ | ⟨rfl, -⟩ | ⟨e, rfl, -⟩
  · cases (Dialogue.Runs.done_iff.mp rest).2
    exact conforming_of_returns (returns_of_endpoint first)
  · exact absurd succeeded (statusCode_ne_of_handled answered rest)
  · cases (Dialogue.Runs.done_iff.mp rest).2
    cases succeeded
  · cases (Dialogue.Runs.done_iff.mp rest).2

/-! ## Contracts that reject a decision -/

/-- A field that the contracts require of a document, for each schema. -/
def requiredFields : Dict String :=
  [(RESEARCH_ANALYSIS_REQUEST_SCHEMA, "question"), (RESEARCH_DECISION_SCHEMA, "decision"),
    (FACTORY_REQUEST_SCHEMA, "requirement"), (CAPABILITY_DRAFT_SCHEMA, "lifecycle_state"),
    (AGENT_DEFINITION_SCHEMA, "execution_budget"), (AGENT_DRAFT_SCHEMA, "agent_definition"),
    (FACTORY_RESULT_SCHEMA, "handoff")]

/-- What such a contract finds in a document; no decision may go without a retrieval. -/
def requiringError (schemaId key : String) (document : JsonObject) : Option (String × String) :=
  if document.get? key = none then some ("$", "'" ++ key ++ "' is a required property")
  else if schemaId = RESEARCH_DECISION_SCHEMA ∧ document.get? "retrieval" = some .null then
    some ("retrieval", "None is not of type 'object'")
  else none

def requiringCatalog : CanonicalContractCatalog where
  documents schemaId := (requiredFields.get? schemaId).map (requiringError schemaId)

/-- A service with these contracts. -/
def requiringService : Service :=
  { acceptingService with
    platform := CapabilityFactory.regressionFactory.platform
    loadCatalog := fun _ => .ok requiringCatalog }

/-- The run of a request on a route, with the correlation id of its payload. -/
def requiringRun (correlationId : String) (route : InternalRoute) :
    ReadTrace × Except PyException Response :=
  Dialogue.converse (fun _ => answering correlationId) []
    (requiringService.respond (.internal (some "Bearer test-only-token") route))

def researchMode (sourceMode : String) : InternalRoute :=
  .decideResearchSource (.parsed (.ok (researchPayload sourceMode)))

/-- The request of the regression test, which leads to drafts. -/
def documentsRequest : FactoryAnalysisRequest :=
  CapabilityFactory.regressionRequest ["admin.all", "sources.read"]
    [CapabilityFactory.archiveItem, CapabilityFactory.documentItem]

def documentsRoute : InternalRoute := .analyzeFactory (.parsed (.ok documentsRequest))

/-- The factory of that service. -/
def requiringFactory : CapabilityFactory where
  platform := requiringService.platform
  contracts := requiringCatalog
  resolver := requiringService.resolver

/-- It drafts an agent. -/
theorem analyze_documentsRequest :
    (requiringFactory.analyze documentsRequest).toOption.map
      (fun result => result.agentDraft.isSome) = some true := by
  have accepted : requiringFactory.Accepts documentsRequest := by rfl
  rw [CapabilityFactory.analyze_eq_propose accepted, CapabilityFactory.propose]
  have resolved := CapabilityFactory.resolve_documents
    (CapabilityFactory.understand_regressionRequest ["admin.all", "sources.read"]
      [CapabilityFactory.archiveItem, CapabilityFactory.documentItem])
  have same : requiringFactory.resolver = CapabilityFactory.regressionFactory.resolver := rfl
  have listed : documentsRequest.capabilityCatalog =
      [CapabilityFactory.archiveItem, CapabilityFactory.documentItem] := rfl
  rw [same, listed, documentsRequest, resolved]
  decide +kernel

theorem raised_ok_bind {α β : Type} {a : α} {next : α → Except ServiceException β} :
    (raised (.ok a) >>= next) = next a := rfl

/-- The service answers with what the factory returns. -/
theorem requiringRun_documentsRoute {result : FactoryAnalysisResult}
    (analyzed : requiringFactory.analyze documentsRequest = .ok result) :
    (requiringRun "corr_least_privilege_001" documentsRoute).2 =
      .ok { content := .factory result } := by
  have run : Dialogue.Runs
      (requiringService.respond (.internal (some "Bearer test-only-token") documentsRoute))
      (requiringRun "corr_least_privilege_001" documentsRoute).1
      (requiringRun "corr_least_privilege_001" documentsRoute).2 := Dialogue.converse_runs _ [] _
  have parses : documentsRoute.Parses := rfl
  have admitted : requiringService.settings.Admits (some "Bearer test-only-token") := by
    unfold Settings.Admits
    rw [if_neg (by decide)]
    exact ⟨all_ascii_iff.mp rfl, by decide⟩
  obtain ⟨t₁, t₂, outcome, split, first, rest⟩ := Dialogue.Runs.bind_iff.mp run
  rw [endpoint_of_admits parses admitted] at first
  obtain ⟨reply, rfl, rfl⟩ := runs_withCorrelationId_iff.mp first
  have replied : reply = .ok "corr_least_privilege_001" := by
    have asked : ⟨AppCall.currentCorrelationId, reply⟩ ∈
        (requiringRun "corr_least_privilege_001" documentsRoute).1 := by
      rw [split]
      exact List.mem_cons_self
    obtain ⟨-, answers⟩ := Dialogue.reply_of_mem_converse asked
    exact answers
  subst replied
  have answered : requiringService.analyzeFactory documentsRequest "corr_least_privilege_001" =
      .ok (.factory result) := by
    have same : ¬ documentsRequest.requirement.executionContext.correlationId ≠
        "corr_least_privilege_001" := not_not.mpr rfl
    unfold analyzeFactory
    rw [if_neg same]
    simp only [except_bind_eq_ok, asBoundary_eq_ok_iff, raised_eq_ok_iff,
      contractsPath_eq_ok_iff]
    refine ⟨_, rfl, requiringCatalog, rfl, result, ?_, rfl⟩
    rw [← analyzed, requiringFactory]
  rw [raised_ok_bind, answered] at rest
  exact (Dialogue.Runs.done_iff.mp rest).2

/-- The agent draft in a content. -/
def Content.agentDraft? : Content → Option AgentDraft
  | .json _ => none
  | .factory result => result.agentDraft

/-- The decision with a retrieval is answered, the one without is a failure, and the
factory answers with a draft that conforms. -/
theorem respond_conforms_external :
    (∃ response, (requiringRun "corr_genesis_research_external_001"
        (researchMode "EXTERNAL")).2 = .ok response ∧
      Conforming requiringService (researchMode "EXTERNAL") response.content) ∧
    (requiringRun "corr_genesis_research_external_001"
      (researchMode "INTERNAL")).2.toOption.map Response.statusCode = some 422 ∧
    ∃ response, (requiringRun "corr_least_privilege_001" documentsRoute).2 = .ok response ∧
      (Content.agentDraft? response.content).isSome = true ∧
      Conforming requiringService documentsRoute response.content := by
  have conforming {correlationId : String} {route : InternalRoute} {response : Response}
      (answered : (requiringRun correlationId route).2 = .ok response)
      (succeeded : response.statusCode = 200) :
      Conforming requiringService route response.content := by
    have run : Dialogue.Runs
        (requiringService.respond (.internal (some "Bearer test-only-token") route))
        (requiringRun correlationId route).1 (requiringRun correlationId route).2 :=
      Dialogue.converse_runs _ [] _
    rw [answered] at run
    exact respond_conforms _ _ _ _ response run succeeded
  have external : (requiringRun "corr_genesis_research_external_001"
      (researchMode "EXTERNAL")).2.toOption.map Response.statusCode = some 200 := by
    decide +kernel
  refine ⟨?_, by decide +kernel, ?_⟩
  · obtain ⟨response, answered, succeeded⟩ := exists_ok_of_map external
    exact ⟨response, answered, conforming answered succeeded⟩
  · obtain ⟨result, analyzed, drafted⟩ := exists_ok_of_map analyze_documentsRequest
    have answered := requiringRun_documentsRoute analyzed
    exact ⟨_, answered, drafted, conforming answered rfl⟩

end Service

end Genesis

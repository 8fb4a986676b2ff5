import Mathlib.Algebra.Order.Monoid.Unbundled.WithTop
import Genesis.Context.Models

/-!
# The choice of a research source

`ExternalResearchDecider.decide` prefers internal evidence, then memory, then a
retrieval that the Backend governs.  `decision_eq_external_iff` lists what a
decision for external research takes, which is less likely the less a request
authorizes, and `decide_never_escalates` is both halves: every decision is within
its request, and a narrower request never leads to a wider decision.
-/

namespace Genesis

open Py

/-! ## Domains -/

inductive ResearchDomain : Type
  | technology
  | propertyBusiness
  | management
  | propertyMarket
  deriving DecidableEq

def ResearchDomain.value : ResearchDomain → String
  | .technology => "TECHNOLOGY"
  | .propertyBusiness => "PROPERTY_BUSINESS"
  | .management => "MANAGEMENT"
  | .propertyMarket => "PROPERTY_MARKET"

def SHARED_RESEARCH_ENGINE_ID : String := "genesis.research.engine.v1"

structure ResearchDomainProfile where
  domain : ResearchDomain
  displayName : String
  purpose : String
  scopeBoundary : List String
  expectedEvidence : List String
  allowedFindings : List String
  allowedRecommendations : List String
  engineId : String := SHARED_RESEARCH_ENGINE_ID
  wellFormed : 1 ≤ displayName.length ∧ 1 ≤ purpose.length ∧ scopeBoundary ≠ [] ∧
    expectedEvidence ≠ [] ∧ allowedFindings ≠ [] ∧ allowedRecommendations ≠ [] := by decide

/-- `domain_profile`, which reads `DOMAIN_TAXONOMY`. -/
def domainProfile : ResearchDomain → ResearchDomainProfile
  | .technology =>
    { domain := .technology
      displayName := "Teknologi"
      purpose := "Evaluate technologies, models, frameworks, tools, and architecture options."
      scopeBoundary :=
        ["Technical fitness, security, interoperability, cost, and maintainability.",
          "No automatic ModelGateway, infrastructure, or production configuration change."]
      expectedEvidence :=
        ["Versioned vendor or project documentation.",
          "Reproducible benchmark, evaluation, or compatibility evidence.",
          "Security, operational, and cost constraints."]
      allowedFindings := ["Capability gap.", "Compatibility or security risk.", "Trade-off."]
      allowedRecommendations :=
        ["Evaluation or proof-of-concept proposal.",
          "Governed adoption, upgrade, or rejection recommendation."] }
  | .propertyBusiness =>
    { domain := .propertyBusiness
      displayName := "Model Bisnis Properti"
      purpose := "Evaluate property business models, packages, pricing, and unit economics."
      scopeBoundary :=
        ["Commercial assumptions, scenarios, value proposition, revenue, and cost model.",
          "No pricing, contract, budget, or commercial decision becomes authoritative."]
      expectedEvidence :=
        ["Traceable financial and operating assumptions.",
          "Comparable market or internal performance evidence.",
          "Scenario sensitivity and limitations."]
      allowedFindings :=
        ["Business-model opportunity.", "Unit-economics risk.", "Assumption gap."]
      allowedRecommendations :=
        ["Scenario or experiment proposal.",
          "Pricing or package recommendation requiring domain review."] }
  | .management =>
    { domain := .management
      displayName := "Manajemen Perusahaan"
      purpose := "Evaluate company processes, governance, SOPs, organization, and KPIs."
      scopeBoundary :=
        ["Process, control, accountability, capacity, and management benchmark.",
          "No automatic policy, role, KPI, permission, or organizational change."]
      expectedEvidence :=
        ["Approved internal policy, SOP, and performance evidence.",
          "Applicable governance or management benchmark.",
          "Stakeholder and implementation constraints."]
      allowedFindings := ["Process gap.", "Control or governance risk.", "KPI ambiguity."]
      allowedRecommendations :=
        ["Draft SOP, control, or KPI improvement.",
          "Human-reviewed operating-model recommendation."] }
  | .propertyMarket =>
    { domain := .propertyMarket
      displayName := "Properti"
      purpose :=
        "Evaluate property markets, regions, competitors, regulation, and social trends."
      scopeBoundary :=
        ["Market, asset, location, competitor, demand, regulation, and trend analysis.",
          "No acquisition, sale, investment, legal, or regulatory decision is executed."]
      expectedEvidence :=
        ["Fresh, cited market or transaction evidence.",
          "Approved regulatory or official source where applicable.",
          "Region, time period, method, reliability, and limitations."]
      allowedFindings := ["Market signal.", "Property risk.", "Regulatory or evidence gap."]
      allowedRecommendations :=
        ["Further due-diligence proposal.",
          "Human-reviewed market or property strategy recommendation."] }

/-! ## Requests -/

inductive SourceReliability : Type
  | unverified
  | low
  | medium
  | high
  deriving DecidableEq

inductive FreshnessStatus : Type
  | current
  | stale
  | unknown
  deriving DecidableEq

inductive ResearchChannel : Type
  | internalSource
  | memory
  deriving DecidableEq

inductive ResearchRisk : Type
  | low
  | medium
  | high
  | critical
  deriving DecidableEq

structure EvidenceCandidate where
  evidenceId : String
  channel : ResearchChannel
  freshness : FreshnessStatus
  reliability : SourceReliability
  available : Bool := true
  scopeRefs : List String
  dataClassification : DataClassification
  wellFormed : IdLength evidenceId ∧ scopeRefs ≠ [] := by decide

/-- A cost: a float that is not negative.  An infinite one is `⊤`. -/
abbrev Cost : Type := WithTop ℚ

/-- A Backend-governed retrieval proposal. -/
structure ExternalResearchBoundary where
  enabled : Bool := false
  toolId : String := "research.external.retrieve"
  permissionRef : String := "research.external.read"
  estimatedCost : Cost := 0
  wellFormed : IdLength toolId ∧ IdLength permissionRef ∧ 0 ≤ estimatedCost := by decide

structure ResearchDecisionRequest where
  correlationId : String
  domain : ResearchDomain
  question : String
  risk : ResearchRisk
  dataClassification : DataClassification
  authorizedScopeRefs : List String
  authorizedPermissionRefs : List String := []
  allowedToolIds : List String := []
  evidence : List EvidenceCandidate := []
  informationComplete : Bool := true
  external : ExternalResearchBoundary := {}
  maximumExternalCost : Cost := 0
  wellFormed : IdLength correlationId ∧ 1 ≤ question.length ∧ authorizedScopeRefs ≠ [] ∧
    0 ≤ maximumExternalCost := by decide

/-! ## Decisions -/

inductive ResearchDecisionKind : Type
  | useInternalSource
  | useMemory
  | requestExternalResearch
  | insufficientEvidence
  | needsInformation
  deriving DecidableEq

def ResearchDecisionKind.value : ResearchDecisionKind → String
  | .useInternalSource => "USE_INTERNAL_SOURCE"
  | .useMemory => "USE_MEMORY"
  | .requestExternalResearch => "REQUEST_EXTERNAL_RESEARCH"
  | .insufficientEvidence => "INSUFFICIENT_EVIDENCE"
  | .needsInformation => "NEEDS_INFORMATION"

/-- A retrieval by the `BACKEND_TOOL_EXECUTOR`, without any authority of its own. -/
structure BackendRetrievalProposal where
  toolId : String
  deriving DecidableEq

/-- `model_dump(mode="json")`. -/
def BackendRetrievalProposal.modelDump (proposal : BackendRetrievalProposal) : Json :=
  .obj [("boundary", .str "BACKEND_TOOL_EXECUTOR"), ("tool_id", .str proposal.toolId),
    ("instruction_authority", .bool false), ("permission_expansion", .bool false),
    ("scope_expansion", .bool false)]

/-- A decision; its `external_content_trust` is `UNTRUSTED`. -/
structure ResearchDecision where
  correlationId : String
  decision : ResearchDecisionKind
  domainProfile : ResearchDomainProfile
  selectedEvidenceIds : List String
  reasons : List String
  authorizedScopeRefs : List String
  authorizedPermissionRefs : List String
  allowedToolIds : List String
  retrieval : Option BackendRetrievalProposal := none
  canonicalResearchDecision : JsonObject
  reasons_nonempty : reasons ≠ []

structure ResearchDecisionFailure where
  code : String
  message : String
  correlationId : String
  deriving DecidableEq

/-- What the decider raises: its own failure, or any other exception. -/
inductive ResearchDecisionException : Type
  | failure (failure : ResearchDecisionFailure)
  | python (exc : PyException)
  deriving DecidableEq

def RESEARCH_DECISION_SCHEMA : String :=
  "https://schemas.alos.dev/v1/research/research-decision.schema.json"

structure ExternalResearchDecider where
  contracts : CanonicalContractCatalog

namespace ExternalResearchDecider

/-- One turn of `_validate_evidence_scope`. -/
def validateEvidence (request : ResearchDecisionRequest) (item : EvidenceCandidate) :
    Except ResearchDecisionException Unit :=
  if excess item.scopeRefs request.authorizedScopeRefs ≠ [] then
    .error (.failure
      { code := "RESEARCH_EVIDENCE_SCOPE_DENIED"
        message := "Evidence is outside the Backend-authorized research scope."
        correlationId := request.correlationId })
  else if request.dataClassification.rank < item.dataClassification.rank then
    .error (.failure
      { code := "RESEARCH_EVIDENCE_CLASSIFICATION_DENIED"
        message := "Evidence classification exceeds the authorized research context."
        correlationId := request.correlationId })
  else .ok ()

/-- `_validate_evidence_scope`. -/
def validateEvidenceScope (request : ResearchDecisionRequest) :
    Except ResearchDecisionException Unit :=
  forM request.evidence (validateEvidence request)

/-- `_external_denial`. -/
def externalDenial (request : ResearchDecisionRequest) : Option String :=
  if request.external.enabled = false then
    some "External research is disabled by the Backend boundary."
  else if request.dataClassification = .restricted then
    some "Restricted context cannot be sent to external retrieval."
  else if request.external.toolId ∉ request.allowedToolIds then
    some "The external retrieval tool is not in the Backend allowlist."
  else if request.external.permissionRef ∉ request.authorizedPermissionRefs then
    some "The actor lacks the Backend-authorized external research permission."
  else if request.maximumExternalCost < request.external.estimatedCost then
    some "External retrieval exceeds the authorized cost budget."
  else none

/-- The canonical form of a decision. -/
def canonical (request : ResearchDecisionRequest) (decision : ResearchDecisionKind)
    (evidenceIds reasons : List String) (retrieval : Option BackendRetrievalProposal) :
    JsonObject :=
  [("correlation_id", .str request.correlationId), ("decision", .str decision.value),
    ("domain", .str request.domain.value), ("selected_evidence_ids", strTuple evidenceIds),
    ("reasons", strTuple reasons),
    ("retrieval", (retrieval.map BackendRetrievalProposal.modelDump).getD .null),
    ("external_content_trust", .str "UNTRUSTED")]

/-- `_result`; the first of the reasons is given apart. -/
def result (decider : ExternalResearchDecider) (request : ResearchDecisionRequest)
    (decision : ResearchDecisionKind) (evidenceIds : List String) (reason : String)
    (reasons : List String) (retrieval : Option BackendRetrievalProposal) :
    Except ResearchDecisionException ResearchDecision :=
  match decider.contracts.validate RESEARCH_DECISION_SCHEMA
      (canonical request decision evidenceIds (reason :: reasons) retrieval) with
  | .ok validated => .ok
      { correlationId := request.correlationId
        decision
        domainProfile := domainProfile request.domain
        selectedEvidenceIds := evidenceIds
        reasons := reason :: reasons
        authorizedScopeRefs := request.authorizedScopeRefs
        authorizedPermissionRefs := request.authorizedPermissionRefs
        allowedToolIds := request.allowedToolIds
        retrieval
        canonicalResearchDecision := validated
        reasons_nonempty := List.cons_ne_nil reason reasons }
  | .error exc =>
    if exc.isValueError then
      .error (.failure
        { code := "RESEARCH_DECISION_CONTRACT_INVALID"
          message := "Research decision does not satisfy the canonical contract."
          correlationId := request.correlationId })
    else .error (.python exc)

/-- The evidence a decision can rest on. -/
def current (request : ResearchDecisionRequest) : List EvidenceCandidate :=
  request.evidence.filter fun item =>
    item.available && item.freshness = .current &&
      item.reliability ∉ [SourceReliability.unverified, .low]

/-- The evidence of one channel that a decision can rest on. -/
def currentOf (request : ResearchDecisionRequest) (channel : ResearchChannel) :
    List EvidenceCandidate :=
  (current request).filter fun item => item.channel = channel

/-- The reason that lists the evidence that is out of date. -/
def staleReason (request : ResearchDecisionRequest) : List String :=
  let stale := ((request.evidence.filter fun item => item.freshness ≠ .current).map
    EvidenceCandidate.evidenceId).insertionSort (· ≤ ·)
  if stale = [] then [] else ["Stale or unknown evidence was excluded: " ++ join ", " stale]

/-- What is decided once the evidence is within the request. -/
def choose (decider : ExternalResearchDecider) (request : ResearchDecisionRequest) :
    Except ResearchDecisionException ResearchDecision :=
  if request.informationComplete = false then
    decider.result request .needsInformation []
      "The task is missing information required to define the evidence need." [] none
  else if currentOf request .internalSource ≠ [] then
    decider.result request .useInternalSource
      ((currentOf request .internalSource).map EvidenceCandidate.evidenceId)
      "Current authorized internal evidence satisfies the evidence need." [] none
  else if currentOf request .memory ≠ [] ∧ request.risk ∈ [ResearchRisk.low, .medium] then
    decider.result request .useMemory
      ((currentOf request .memory).map EvidenceCandidate.evidenceId)
      "Current authorized memory satisfies the bounded evidence need." [] none
  else
    let reason := "No current authorized internal evidence or sufficient memory is available."
    match externalDenial request with
    | none =>
      decider.result request .requestExternalResearch [] reason
        (staleReason request ++
          ["External evidence retrieval is required and authorized via Backend."])
        (some ⟨request.external.toolId⟩)
    | some denial =>
      decider.result request .insufficientEvidence [] reason (staleReason request ++ [denial]) none

/-- `decide`. -/
def decide (decider : ExternalResearchDecider) (request : ResearchDecisionRequest) :
    Except ResearchDecisionException ResearchDecision := do
  validateEvidenceScope request
  decider.choose request

/-! ## What a decision rests on -/

/-- Evidence of the channel that is available, current, and of reliability medium or high. -/
structure Usable (channel : ResearchChannel) (item : EvidenceCandidate) : Prop where
  available : item.available = true
  freshness : item.freshness = .current
  reliability : item.reliability = .medium ∨ item.reliability = .high
  channel : item.channel = channel

instance decidableUsable (channel : ResearchChannel) (item : EvidenceCandidate) :
    Decidable (Usable channel item) :=
  decidable_of_iff (item.available = true ∧ item.freshness = .current ∧
      (item.reliability = .medium ∨ item.reliability = .high) ∧ item.channel = channel)
    ⟨fun ⟨available, freshness, reliability, channel⟩ =>
        ⟨available, freshness, reliability, channel⟩,
      fun usable => ⟨usable.available, usable.freshness, usable.reliability, usable.channel⟩⟩

/-- The evidence is within the scopes and the classification of the request. -/
structure Authorized (request : ResearchDecisionRequest) (item : EvidenceCandidate) : Prop where
  scopeRefs : item.scopeRefs ⊆ request.authorizedScopeRefs
  classification : item.dataClassification.rank ≤ request.dataClassification.rank

/-- Everything an external research takes. -/
structure Permits (request : ResearchDecisionRequest) : Prop where
  informationComplete : request.informationComplete = true
  noInternal : ∀ item ∈ request.evidence, ¬ Usable .internalSource item
  noMemory : (∃ item ∈ request.evidence, Usable .memory item) →
    request.risk = .high ∨ request.risk = .critical
  enabled : request.external.enabled = true
  unrestricted : request.dataClassification ≠ .restricted
  tool : request.external.toolId ∈ request.allowedToolIds
  permission : request.external.permissionRef ∈ request.authorizedPermissionRefs
  cost : request.external.estimatedCost ≤ request.maximumExternalCost

/-- The decision is within its request. -/
structure WithinRequest (request : ResearchDecisionRequest) (decision : ResearchDecision) :
    Prop where
  internalSource : decision.decision = .useInternalSource → decision.selectedEvidenceIds =
    (request.evidence.filter fun item => Usable .internalSource item).map
      EvidenceCandidate.evidenceId
  memory : decision.decision = .useMemory → decision.selectedEvidenceIds =
    (request.evidence.filter fun item => Usable .memory item).map EvidenceCandidate.evidenceId
  nothingElse : decision.decision ≠ .useInternalSource → decision.decision ≠ .useMemory →
    decision.selectedEvidenceIds = []
  evidence : ∀ item ∈ request.evidence, Authorized request item
  retrieval : decision.retrieval.isSome = true ↔ decision.decision = .requestExternalResearch
  external : decision.decision = .requestExternalResearch → Permits request

/-- The second request differs from the first by fewer tools and permissions, a
lower cap on the cost, external research switched off, or more evidence. -/
structure Narrows (request narrowed : ResearchDecisionRequest) : Prop where
  correlationId : narrowed.correlationId = request.correlationId
  domain : narrowed.domain = request.domain
  question : narrowed.question = request.question
  risk : narrowed.risk = request.risk
  dataClassification : narrowed.dataClassification = request.dataClassification
  authorizedScopeRefs : narrowed.authorizedScopeRefs = request.authorizedScopeRefs
  informationComplete : narrowed.informationComplete = request.informationComplete
  toolId : narrowed.external.toolId = request.external.toolId
  permissionRef : narrowed.external.permissionRef = request.external.permissionRef
  estimatedCost : narrowed.external.estimatedCost = request.external.estimatedCost
  tools : narrowed.allowedToolIds ⊆ request.allowedToolIds
  permissions : narrowed.authorizedPermissionRefs ⊆ request.authorizedPermissionRefs
  maximumExternalCost : narrowed.maximumExternalCost ≤ request.maximumExternalCost
  enabled : narrowed.external.enabled = true → request.external.enabled = true
  evidence : request.evidence ⊆ narrowed.evidence

section

variable {decider : ExternalResearchDecider} {request narrowed : ResearchDecisionRequest}
  {decision : ResearchDecision} {item : EvidenceCandidate} {channel : ResearchChannel}

theorem validateEvidence_eq_ok_iff :
    validateEvidence request item = .ok () ↔ Authorized request item := by
  unfold validateEvidence
  split
  · next outside =>
    exact ⟨nofun, fun authorized => absurd (excess_eq_nil_iff.mpr authorized.scopeRefs) outside⟩
  next within =>
  split
  · next above =>
    exact ⟨nofun, fun authorized => absurd authorized.classification (not_le.mpr above)⟩
  · next below =>
    exact ⟨fun _ => ⟨excess_eq_nil_iff.mp (not_not.mp within), not_lt.mp below⟩, fun _ => rfl⟩

theorem validateEvidenceScope_eq_ok_iff :
    validateEvidenceScope request = .ok () ↔
      ∀ item ∈ request.evidence, Authorized request item := by
  simp only [validateEvidenceScope, forM_eq_ok_iff, validateEvidence_eq_ok_iff]

theorem currentOf_eq :
    currentOf request channel = request.evidence.filter fun item => Usable channel item := by
  unfold currentOf current
  rw [List.filter_filter]
  refine List.filter_congr fun item _ => ?_
  have reliable : item.reliability ∉ [SourceReliability.unverified, .low] ↔
      item.reliability = .medium ∨ item.reliability = .high := by
    cases item.reliability <;> simp
  rw [Bool.eq_iff_iff, Bool.and_eq_true, Bool.and_eq_true, Bool.and_eq_true, decide_eq_true_eq,
    decide_eq_true_eq, decide_eq_true_eq, decide_eq_true_eq, reliable]
  refine ⟨?_, ?_⟩
  · intro h
    rcases h with ⟨onChannel, ⟨available, freshness⟩, reliability⟩
    exact ⟨available, freshness, reliability, onChannel⟩
  · intro usable
    exact ⟨usable.channel, ⟨usable.available, usable.freshness⟩, usable.reliability⟩

theorem currentOf_eq_nil_iff :
    currentOf request channel = [] ↔ ∀ item ∈ request.evidence, ¬ Usable channel item := by
  rw [currentOf_eq, List.filter_eq_nil_iff]
  simp only [decide_eq_true_eq]

/-- Nothing denies an external research that is enabled, allowed, permitted and affordable. -/
theorem externalDenial_eq_none_iff :
    externalDenial request = none ↔ request.external.enabled = true ∧
      request.dataClassification ≠ .restricted ∧
      request.external.toolId ∈ request.allowedToolIds ∧
      request.external.permissionRef ∈ request.authorizedPermissionRefs ∧
      request.external.estimatedCost ≤ request.maximumExternalCost := by
  unfold externalDenial
  split
  · next disabled => simp [disabled]
  next enabled =>
  split
  · next restricted => simp [restricted]
  next unrestricted =>
  split
  · next outside => simp [outside]
  next tool =>
  split
  · next outside => simp [outside]
  next permission =>
  split
  · next above => simp [not_le.mpr above]
  · next below =>
    refine ⟨fun _ => ?_, fun _ => rfl⟩
    exact ⟨Bool.eq_true_of_not_eq_false enabled, unrestricted, not_not.mp tool,
      not_not.mp permission, not_lt.mp below⟩

/-- What a decision that was returned says of the kind, the ids and the retrieval
it was made for. -/
theorem result_eq_ok {kind : ResearchDecisionKind} {evidenceIds reasons : List String}
    {reason : String} {retrieval : Option BackendRetrievalProposal}
    (returned : decider.result request kind evidenceIds reason reasons retrieval = .ok decision) :
    decision.decision = kind ∧ decision.selectedEvidenceIds = evidenceIds ∧
      decision.retrieval = retrieval := by
  unfold result at returned
  split at returned
  · cases returned
    exact ⟨rfl, rfl, rfl⟩
  · split at returned <;> cases returned

theorem permits_iff :
    Permits request ↔ request.informationComplete = true ∧
      currentOf request .internalSource = [] ∧
      ¬ (currentOf request .memory ≠ [] ∧ request.risk ∈ [ResearchRisk.low, .medium]) ∧
      externalDenial request = none := by
  have risky : request.risk ∉ [ResearchRisk.low, .medium] ↔
      request.risk = .high ∨ request.risk = .critical := by
    cases request.risk <;> simp
  have memory : currentOf request .memory ≠ [] ↔ ∃ item ∈ request.evidence,
      Usable .memory item := by
    rw [ne_eq, currentOf_eq_nil_iff]
    simp only [not_forall, not_not, exists_prop]
  rw [currentOf_eq_nil_iff, externalDenial_eq_none_iff, not_and, memory, risky]
  refine ⟨?_, ?_⟩
  · intro permits
    exact ⟨permits.informationComplete, permits.noInternal, permits.noMemory, permits.enabled,
      permits.unrestricted, permits.tool, permits.permission, permits.cost⟩
  · intro h
    rcases h with ⟨complete, internal, noMemory, enabled, unrestricted, tool, permission, cost⟩
    exact ⟨complete, internal, noMemory, enabled, unrestricted, tool, permission, cost⟩

/-- The five ways to decide: each kind with the evidence ids and the retrieval it comes with. -/
inductive Chosen (request : ResearchDecisionRequest) :
    ResearchDecisionKind → List String → Option BackendRetrievalProposal → Prop
  | needsInformation (denied : ¬ Permits request) : Chosen request .needsInformation [] none
  | internalSource (denied : ¬ Permits request) : Chosen request .useInternalSource
      ((request.evidence.filter fun item => Usable .internalSource item).map
        EvidenceCandidate.evidenceId) none
  | memory (denied : ¬ Permits request) : Chosen request .useMemory
      ((request.evidence.filter fun item => Usable .memory item).map
        EvidenceCandidate.evidenceId) none
  | external (permits : Permits request) :
      Chosen request .requestExternalResearch [] (some ⟨request.external.toolId⟩)
  | insufficient (denied : ¬ Permits request) : Chosen request .insufficientEvidence [] none

theorem chosen_of_choose (returned : decider.choose request = .ok decision) :
    Chosen request decision.decision decision.selectedEvidenceIds decision.retrieval := by
  unfold choose at returned
  split at returned
  · next incomplete =>
    obtain ⟨kind, ids, retrieval⟩ := result_eq_ok returned
    rw [kind, ids, retrieval]
    refine .needsInformation fun permits => ?_
    rw [permits.informationComplete] at incomplete
    cases incomplete
  next complete =>
  split at returned
  · next internal =>
    obtain ⟨kind, ids, retrieval⟩ := result_eq_ok returned
    rw [kind, ids, retrieval, currentOf_eq]
    exact .internalSource fun permits => internal (permits_iff.mp permits).2.1
  next noInternal =>
  split at returned
  · next memory =>
    obtain ⟨kind, ids, retrieval⟩ := result_eq_ok returned
    rw [kind, ids, retrieval, currentOf_eq]
    exact .memory fun permits => (permits_iff.mp permits).2.2.1 memory
  next noMemory =>
  dsimp only at returned
  split at returned
  · next allowed =>
    obtain ⟨kind, ids, retrieval⟩ := result_eq_ok returned
    rw [kind, ids, retrieval]
    have isComplete := Bool.eq_true_of_not_eq_false complete
    exact .external (permits_iff.mpr ⟨isComplete, not_not.mp noInternal, noMemory, allowed⟩)
  · next denied =>
    obtain ⟨kind, ids, retrieval⟩ := result_eq_ok returned
    rw [kind, ids, retrieval]
    refine .insufficient fun permits => ?_
    rw [(permits_iff.mp permits).2.2.2] at denied
    cases denied

theorem decide_eq_ok (returned : decider.decide request = .ok decision) :
    (∀ item ∈ request.evidence, Authorized request item) ∧
      decider.choose request = .ok decision := by
  unfold decide at returned
  rw [check_bind_eq_ok, validateEvidenceScope_eq_ok_iff] at returned
  exact returned

theorem Chosen.kind_eq_external_iff {kind : ResearchDecisionKind} {ids : List String}
    {retrieval : Option BackendRetrievalProposal} (chosen : Chosen request kind ids retrieval) :
    kind = .requestExternalResearch ↔ Permits request := by
  cases chosen with
  | external permits => exact ⟨fun _ => permits, fun _ => rfl⟩
  | needsInformation denied => exact ⟨nofun, fun permits => absurd permits denied⟩
  | internalSource denied => exact ⟨nofun, fun permits => absurd permits denied⟩
  | memory denied => exact ⟨nofun, fun permits => absurd permits denied⟩
  | insufficient denied => exact ⟨nofun, fun permits => absurd permits denied⟩

/-- External research is decided exactly when everything it takes is there. -/
theorem decision_eq_external_iff (returned : decider.decide request = .ok decision) :
    decision.decision = .requestExternalResearch ↔ Permits request :=
  (chosen_of_choose (decide_eq_ok returned).2).kind_eq_external_iff

theorem withinRequest_of_decide (returned : decider.decide request = .ok decision) :
    WithinRequest request decision := by
  obtain ⟨authorized, returned⟩ := decide_eq_ok returned
  have chosen := chosen_of_choose returned
  generalize kind_eq : decision.decision = kind at chosen
  generalize ids_eq : decision.selectedEvidenceIds = ids at chosen
  generalize retrieval_eq : decision.retrieval = retrieval at chosen
  refine
    { internalSource := ?_
      memory := ?_
      nothingElse := ?_
      evidence := authorized
      retrieval := ?_
      external := fun external => chosen.kind_eq_external_iff.mp (kind_eq ▸ external) } <;>
    rw [kind_eq]
  · intro internal
    cases chosen <;> cases internal
    exact ids_eq
  · intro memory
    cases chosen <;> cases memory
    exact ids_eq
  · intro notInternal notMemory
    rw [ids_eq]
    cases chosen with
    | internalSource => exact absurd rfl notInternal
    | memory => exact absurd rfl notMemory
    | needsInformation => rfl
    | external => rfl
    | insufficient => rfl
  · rw [retrieval_eq]
    cases chosen <;> simp

/-- What a narrower request permits, the wider one does. -/
theorem Permits.of_narrows (permits : Permits narrowed) (narrows : Narrows request narrowed) :
    Permits request := by
  refine
    { informationComplete := narrows.informationComplete ▸ permits.informationComplete
      noInternal := fun item member => permits.noInternal item (narrows.evidence member)
      noMemory := ?_
      enabled := narrows.enabled permits.enabled
      unrestricted := narrows.dataClassification ▸ permits.unrestricted
      tool := narrows.tools (narrows.toolId ▸ permits.tool)
      permission := narrows.permissions (narrows.permissionRef ▸ permits.permission)
      cost := ?_ }
  · intro usable
    obtain ⟨item, member, onMemory⟩ := usable
    rw [← narrows.risk]
    exact permits.noMemory ⟨item, narrows.evidence member, onMemory⟩
  · rw [← narrows.estimatedCost]
    exact permits.cost.trans narrows.maximumExternalCost

end

/-- Every decision is within its request; and when a request narrows another and
external research is decided for the narrower one, it is decided for the wider one. -/
theorem decide_never_escalates (decider : ExternalResearchDecider) :
    (∀ request decision, decider.decide request = .ok decision →
      WithinRequest request decision) ∧
      ∀ request narrowed decision decision', Narrows request narrowed →
        decider.decide request = .ok decision → decider.decide narrowed = .ok decision' →
          decision'.decision = .requestExternalResearch →
            decision.decision = .requestExternalResearch := by
  refine ⟨fun _ _ => withinRequest_of_decide, ?_⟩
  intro request narrowed decision decision' narrows returned returned' external
  have permits := (decision_eq_external_iff returned').mp external
  exact (decision_eq_external_iff returned).mpr (permits.of_narrows narrows)

/-! ## A request of the tests -/

/-- A decider on schemas that accept every decision. -/
def acceptingDecider : ExternalResearchDecider where
  contracts := ⟨fun _ => some fun _ => none⟩

/-- An outdated page of the source. -/
def stalePage : EvidenceCandidate where
  evidenceId := "evidence_stale_001"
  channel := .internalSource
  freshness := .stale
  reliability := .high
  scopeRefs := ["scope.project.genesis"]
  dataClassification := .internal

/-- A current memory that nobody verified. -/
def unverifiedMemory : EvidenceCandidate :=
  { stalePage with
    evidenceId := "evidence_memory_001"
    channel := .memory
    freshness := .current
    reliability := .unverified
    wellFormed := by decide }

/-- A current page of the source. -/
def currentPage : EvidenceCandidate :=
  { stalePage with
    evidenceId := "evidence_current_001"
    freshness := .current
    wellFormed := by decide }

/-- A request with these tools and this evidence, and this cap on the cost of a retrieval
that costs 1. -/
def technologyRequest (tools : List String) (evidence : List EvidenceCandidate) (cap : ℚ)
    (positive : 0 ≤ (cap : Cost)) : ResearchDecisionRequest where
  correlationId := "corr_research_decision_001"
  domain := .technology
  question := "Which supported architecture is appropriate?"
  risk := .medium
  dataClassification := .internal
  authorizedScopeRefs := ["scope.project.genesis"]
  authorizedPermissionRefs := ["research.external.read"]
  allowedToolIds := tools
  evidence := evidence
  external :=
    { enabled := true
      estimatedCost := ((1 : ℚ) : Cost)
      wellFormed := by decide +kernel }
  maximumExternalCost := cap
  wellFormed := ⟨by decide, by decide, by decide, positive⟩

def wideRequest : ResearchDecisionRequest :=
  technologyRequest ["source.search_context", "research.external.retrieve"] [stalePage] 2
    (by decide +kernel)

/-- A tool less, a lower cap, and a memory more. -/
def narrowRequest : ResearchDecisionRequest :=
  technologyRequest ["research.external.retrieve"] [unverifiedMemory, stalePage] 1
    (by decide +kernel)

/-- The same with a page that answers. -/
def answeredRequest : ResearchDecisionRequest :=
  technologyRequest ["research.external.retrieve"] [currentPage, unverifiedMemory, stalePage] 1
    (by decide +kernel)

theorem narrows_narrowRequest : Narrows wideRequest narrowRequest :=
  ⟨rfl, rfl, rfl, rfl, rfl, rfl, rfl, rfl, rfl, rfl, List.subset_cons_self _ _, fun _ => id,
    (by decide +kernel : ((1 : ℚ) : Cost) ≤ ((2 : ℚ) : Cost)), id, List.subset_cons_self _ _⟩

theorem narrows_answeredRequest : Narrows narrowRequest answeredRequest :=
  ⟨rfl, rfl, rfl, rfl, rfl, rfl, rfl, rfl, rfl, rfl, fun _ => id, fun _ => id, le_rfl, id,
    List.subset_cons_self _ _⟩

/-- External research is decided for the narrower of the first two requests, so for the wider
one; with a page that answers it is no longer, and the page is selected. -/
theorem decide_never_escalates_technology :
    Narrows wideRequest narrowRequest ∧ Narrows narrowRequest answeredRequest ∧
      (∃ decision, acceptingDecider.decide wideRequest = .ok decision ∧
        decision.decision = .requestExternalResearch ∧ WithinRequest wideRequest decision) ∧
      ∃ decision, acceptingDecider.decide answeredRequest = .ok decision ∧
        decision.selectedEvidenceIds = ["evidence_current_001"] ∧
        WithinRequest answeredRequest decision := by
  obtain ⟨within, narrowing⟩ := decide_never_escalates acceptingDecider
  have capped : (acceptingDecider.decide narrowRequest).toOption.map ResearchDecision.decision =
      some .requestExternalResearch := by
    decide +kernel
  have returns : (acceptingDecider.decide wideRequest).toOption.map ResearchDecision.retrieval =
      some (some ⟨"research.external.retrieve"⟩) := by
    decide +kernel
  have selects : (acceptingDecider.decide answeredRequest).toOption.map
      ResearchDecision.selectedEvidenceIds = some ["evidence_current_001"] := by
    decide +kernel
  obtain ⟨decision', returned', external⟩ := exists_ok_of_map capped
  obtain ⟨decision, returned, -⟩ := exists_ok_of_map returns
  obtain ⟨answer, answered, selected⟩ := exists_ok_of_map selects
  exact ⟨narrows_narrowRequest, narrows_answeredRequest,
    ⟨decision, returned, narrowing _ _ _ _ narrows_narrowRequest returned returned' external,
      within _ _ returned⟩, answer, answered, selected, within _ _ answered⟩

end ExternalResearchDecider

end Genesis

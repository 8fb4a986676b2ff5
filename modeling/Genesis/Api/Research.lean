import Genesis.Api.Routes

/-!
# The research route

`decide_research_source` never passes on evidence, so that every decision it
answers with is external research or insufficient evidence, and the first exactly
when the execution context of the payload authorizes it
(`decideResearchSource_answers`).
-/

namespace Genesis

open Py

/-! ## Exceptions of a route -/

section

variable {α : Type} {platform : Platform}

@[simp] theorem raised_eq_ok_iff {x : Except PyException α} {a : α} :
    raised x = .ok a ↔ x = .ok a := by
  cases x with
  | error exc => exact ⟨nofun, nofun⟩
  | ok b => simp [raised, Except.mapError]

theorem raised_eq_error_iff {x : Except PyException α} {exc : ServiceException} :
    raised x = .error exc ↔ ∃ e, x = .error e ∧ exc = .python e := by
  cases x with
  | error e =>
    refine ⟨?_, ?_⟩
    · intro same
      cases same
      exact ⟨e, rfl, rfl⟩
    · rintro ⟨_, same, rfl⟩
      cases same
      rfl
  | ok b => exact ⟨nofun, nofun⟩

theorem asBoundary_eq_ok_iff {code : String} {x : Except ServiceException α} {a : α} :
    asBoundary platform code x = .ok a ↔ x = .ok a := by
  unfold asBoundary
  split
  · split <;> exact ⟨nofun, nofun⟩
  · rfl

theorem Service.handled_eq_ok_iff {x : Except ServiceException α} {a : α} :
    Service.handled platform x = .ok a ↔ x = .ok a := by
  unfold Service.handled
  split
  · exact ⟨nofun, nofun⟩
  · exact asBoundary_eq_ok_iff

end

/-! ## A decision without evidence -/

namespace ExternalResearchDecider

variable {decider : ExternalResearchDecider} {request : ResearchDecisionRequest}
  {decision : ResearchDecision}

/-- A decision is returned with its canonical form. -/
theorem canonical_of_result {kind : ResearchDecisionKind} {evidenceIds reasons : List String}
    {reason : String} {retrieval : Option BackendRetrievalProposal}
    (returned : decider.result request kind evidenceIds reason reasons retrieval = .ok decision) :
    decision.canonicalResearchDecision =
      canonical request kind evidenceIds (reason :: reasons) retrieval := by
  unfold result at returned
  split at returned
  next validated valid =>
    cases returned
    exact CanonicalContractCatalog.eq_of_validate valid
  · split at returned <;> cases returned

/-- Complete information without evidence leaves two decisions. -/
theorem decide_of_noEvidence (none : request.evidence = [])
    (complete : request.informationComplete = true) :
    decider.decide request =
      let reason := "No current authorized internal evidence or sufficient memory is available."
      match externalDenial request with
      | .none =>
        decider.result request .requestExternalResearch [] reason
          ["External evidence retrieval is required and authorized via Backend."]
          (some ⟨request.external.toolId⟩)
      | some denial => decider.result request .insufficientEvidence [] reason [denial] .none := by
  have current (channel : ResearchChannel) : currentOf request channel = [] := by
    rw [currentOf_eq, none]
    rfl
  have stale : staleReason request = [] := by
    rw [staleReason, none]
    rfl
  have checked : validateEvidenceScope request = .ok () := by
    rw [validateEvidenceScope, none]
    rfl
  unfold decide choose
  rw [checked, complete, current, current, stale]
  rfl

end ExternalResearchDecider

/-! ## Reading a payload -/

namespace Service

/-- The names under a key of the execution context include this one. -/
def Lists (platform : Platform) (context : JsonObject) (key name : String) : Prop :=
  ∃ value ∈ context.get? key, ∃ elements ∈ value.iterate?, name ∈ elements.map platform.str

/-- The payload asks for external research, and its execution context allows it. -/
structure AuthorizesExternal (platform : Platform) (payload context : JsonObject) : Prop where
  requested : payload.get? "source_mode" = some (.str "EXTERNAL")
  unrestricted : context.get? "data_classification" ≠ some (.str "RESTRICTED")
  tool : Lists platform context "allowed_tool_ids" "research.external.retrieve"
  permission : Lists platform context "permission_refs" "research.external.read"

section

variable {service : Service} {platform : Platform} {payload context : JsonObject}
  {path correlationId : String} {content : Content} {arguments : ResearchArguments}
  {request : ResearchDecisionRequest}

theorem strElements_eq_ok_iff {value : Json} {names : List String} :
    strElements platform value = .ok names ↔
      ∃ elements, value.iterate? = some elements ∧ elements.map platform.str = names := by
  unfold strElements
  cases value.iterate? with
  | none => exact ⟨nofun, nofun⟩
  | some elements => simp

/-- Names that are read under a key are the ones it lists; an absent key lists none. -/
theorem mem_strElements_iff {key name : String} {names : List String}
    (read : strElements platform ((context.get? key).getD (.arr [])) = .ok names) :
    name ∈ names ↔ Lists platform context key name := by
  obtain ⟨elements, iterated, rfl⟩ := strElements_eq_ok_iff.mp read
  unfold Lists
  cases found : context.get? key with
  | none =>
    rw [found] at iterated
    cases iterated
    simp
  | some value =>
    rw [found, Option.getD_some] at iterated
    simp [iterated]

/-- The arguments are what stands in the payload. -/
structure Reads (platform : Platform) (payload context : JsonObject) (correlationId : String)
    (arguments : ResearchArguments) : Prop where
  correlationId : arguments.correlationId = correlationId
  domain : payload.get? "domain" = some arguments.domain
  dataClassification : context.get? "data_classification" = some arguments.dataClassification
  requested : arguments.externalRequested = true ↔
    payload.get? "source_mode" = some (.str "EXTERNAL")
  permissions : ∀ name, name ∈ arguments.permissions ↔
    Lists platform context "permission_refs" name
  tools : ∀ name, name ∈ arguments.tools ↔ Lists platform context "allowed_tool_ids" name

theorem reads_of_readArguments
    (read : readArguments platform payload context correlationId = .ok arguments) :
    Reads platform payload context correlationId arguments := by
  simp only [readArguments, except_bind_eq_ok, item_eq_ok_iff] at read
  obtain ⟨permissions, listedPermissions, tools, listedTools, _, _, scopes, _, cost, _,
    sourceMode, mode, domain, domainFound, question, _, classification, classified, same⟩ := read
  cases same
  refine ⟨rfl, domainFound, classified, ?_, fun _ => mem_strElements_iff listedPermissions,
    fun _ => mem_strElements_iff listedTools⟩
  rw [mode, decide_eq_true_eq, Option.some_inj]

theorem value_of_researchDomain? {value : Json} {domain : ResearchDomain}
    (parsed : researchDomain? value = some domain) : value = .str domain.value := by
  unfold researchDomain? at parsed
  split at parsed
  next s =>
    have found := List.find?_some parsed
    rw [of_decide_eq_true found]
  · cases parsed

/-- The request of a decision is filled in with the arguments; it has no evidence. -/
structure Fills (arguments : ResearchArguments) (request : ResearchDecisionRequest) : Prop where
  correlationId : request.correlationId = arguments.correlationId
  domain : arguments.domain = .str request.domain.value
  dataClassification : arguments.dataClassification = .str request.dataClassification.value
  evidence : request.evidence = []
  informationComplete : request.informationComplete = true
  permissions : request.authorizedPermissionRefs = arguments.permissions
  tools : request.allowedToolIds = arguments.tools
  enabled : request.external.enabled = arguments.externalRequested
  toolId : request.external.toolId = "research.external.retrieve"
  permissionRef : request.external.permissionRef = "research.external.read"
  cost : request.external.estimatedCost = 0

theorem fills_of_decisionRequest (built : decisionRequest arguments = .ok request) :
    Fills arguments request := by
  unfold decisionRequest at built
  split at built
  next domain classification parsed classified =>
    obtain ⟨_, rfl⟩ := construct_eq_ok_iff.mp built
    exact ⟨rfl, value_of_researchDomain? parsed, classification?_eq_some_iff.mp classified, rfl,
      rfl, rfl, rfl, rfl, rfl, rfl, rfl⟩
  · cases built

/-- Nothing denies the retrieval exactly when the payload authorizes it. -/
theorem externalDenial_eq_none_iff_authorizes
    (reads : Reads platform payload context correlationId arguments)
    (fills : Fills arguments request) :
    ExternalResearchDecider.externalDenial request = none ↔
      AuthorizesExternal platform payload context := by
  have affordable : request.external.estimatedCost ≤ request.maximumExternalCost := by
    rw [fills.cost]
    exact request.wellFormed.2.2.2
  have unrestricted : context.get? "data_classification" ≠ some (.str "RESTRICTED") ↔
      request.dataClassification ≠ .restricted := by
    rw [reads.dataClassification, fills.dataClassification, ne_eq, ne_eq, Option.some_inj,
      Json.str.injEq, not_iff_not]
    cases request.dataClassification <;> decide
  rw [ExternalResearchDecider.externalDenial_eq_none_iff, fills.enabled, reads.requested,
    ← unrestricted, fills.toolId, fills.tools, reads.tools, fills.permissionRef,
    fills.permissions, reads.permissions]
  refine ⟨?_, ?_⟩
  · rintro ⟨requested, notRestricted, tool, permission, -⟩
    exact ⟨requested, notRestricted, tool, permission⟩
  · intro authorizes
    exact ⟨authorizes.requested, authorizes.unrestricted, authorizes.tool, authorizes.permission,
      affordable⟩

/-- An answer of the `try` has passed every step of it. -/
theorem decideResearch_eq_ok_iff :
    service.decideResearch path payload correlationId = .ok content ↔
      ∃ contracts, ∃ context : JsonObject, ∃ arguments request decision,
        service.loadCatalog path = .ok contracts ∧
        contracts.validate RESEARCH_ANALYSIS_REQUEST_SCHEMA payload = .ok payload ∧
        payload.get? "execution_context" = some (.obj context) ∧
        context.get? "correlation_id" = some (.str correlationId) ∧
        readArguments service.platform payload context correlationId = .ok arguments ∧
        decisionRequest arguments = .ok request ∧
        ExternalResearchDecider.decide ⟨contracts⟩ request = .ok decision ∧
        content = .json decision.canonicalResearchDecision := by
  unfold decideResearch
  simp only [except_bind_eq_ok, raised_eq_ok_iff, item_eq_ok_iff]
  refine ⟨?_, ?_⟩
  · rintro ⟨contracts, loaded, validated, valid, value, found, rest⟩
    cases CanonicalContractCatalog.eq_of_validate valid
    split at rest
    · cases rest
    next context isDict =>
    rw [Json.dict?_eq_some_iff] at isDict
    subst isDict
    simp only [except_bind_eq_ok, raised_eq_ok_iff, item_eq_ok_iff] at rest
    obtain ⟨correlation, correlated, rest⟩ := rest
    split at rest
    · cases rest
    next same =>
    rw [not_not] at same
    subst same
    simp only [except_bind_eq_ok, raised_eq_ok_iff] at rest
    obtain ⟨arguments, read, request, built, document, decided, returned⟩ := rest
    unfold decideCanonical at decided
    split at decided
    next decision chosen =>
      cases decided
      exact ⟨contracts, context, arguments, request, decision, loaded, valid, found, correlated,
        read, built, chosen, (Except.ok.inj returned).symm⟩
    · cases decided
    · cases decided
  · rintro ⟨contracts, context, arguments, request, decision, loaded, valid, found, correlated,
      read, built, chosen, rfl⟩
    refine ⟨contracts, loaded, payload, valid, _, found, ?_⟩
    simp only [Json.dict?, except_bind_eq_ok, raised_eq_ok_iff, item_eq_ok_iff]
    refine ⟨_, correlated, ?_⟩
    rw [if_neg (not_not_intro rfl)]
    simp only [except_bind_eq_ok, raised_eq_ok_iff]
    refine ⟨arguments, read, request, built, _, ?_, rfl⟩
    rw [decideCanonical, chosen]

/-- A decision of the route: the document it answers with, and when it is which. -/
structure Answers (platform : Platform) (payload : JsonObject) (correlationId : String)
    (document : JsonObject) : Prop where
  identified : document.get? "correlation_id" = some (.str correlationId)
  domain : document.get? "domain" = payload.get? "domain"
  evidence : document.get? "selected_evidence_ids" = some (.arr [])
  untrusted : document.get? "external_content_trust" = some (.str "UNTRUSTED")
  decision : ∃ context, payload.get? "execution_context" = some (.obj context) ∧
    Dict.get? context "correlation_id" = some (.str correlationId) ∧
    ((AuthorizesExternal platform payload context ∧
      document.get? "decision" = some (.str "REQUEST_EXTERNAL_RESEARCH") ∧
      document.get? "retrieval" =
        some (BackendRetrievalProposal.modelDump ⟨"research.external.retrieve"⟩)) ∨
    (¬ AuthorizesExternal platform payload context ∧
      document.get? "decision" = some (.str "INSUFFICIENT_EVIDENCE") ∧
      document.get? "retrieval" = some .null))

end

/-- Whatever the research route answers with, it is a decision for the payload: the
retrieval that the Backend governs is proposed exactly when the payload asks for
external research and its execution context allows it. -/
theorem decideResearchSource_answers (service : Service) (payload : JsonObject)
    (correlationId : String) (content : Content)
    (answered : service.decideResearchSource payload correlationId = .ok content) :
    ∃ document, content = .json document ∧
      Answers service.platform payload correlationId document := by
  simp only [decideResearchSource, except_bind_eq_ok, handled_eq_ok_iff,
    decideResearch_eq_ok_iff] at answered
  obtain ⟨path, -, contracts, context, arguments, request, decision, -, -, found, correlated, read,
    built, chosen, rfl⟩ := answered
  have reads := reads_of_readArguments read
  have fills := fills_of_decisionRequest built
  have authorizes := externalDenial_eq_none_iff_authorizes reads fills
  have sameId : request.correlationId = correlationId :=
    fills.correlationId.trans reads.correlationId
  have sameDomain : payload.get? "domain" = some (.str request.domain.value) := by
    rw [reads.domain, fills.domain]
  rw [ExternalResearchDecider.decide_of_noEvidence fills.evidence fills.informationComplete]
    at chosen
  refine ⟨_, rfl, ?_⟩
  dsimp only at chosen
  split at chosen
  next allowed =>
    rw [ExternalResearchDecider.canonical_of_result chosen]
    refine ⟨?_, sameDomain.symm, rfl, rfl, context, found, correlated, .inl ?_⟩
    · rw [← sameId]
      rfl
    · refine ⟨authorizes.mp allowed, rfl, ?_⟩
      rw [← fills.toolId]
      rfl
  next denial denied =>
    rw [ExternalResearchDecider.canonical_of_result chosen]
    refine ⟨?_, sameDomain.symm, rfl, rfl, context, found, correlated, .inr ?_⟩
    · rw [← sameId]
      rfl
    · refine ⟨fun allowed => ?_, rfl, rfl⟩
      rw [authorizes.mpr allowed] at denied
      cases denied

/-! ## A request of the tests -/

/-- A service whose contracts accept every document. -/
def acceptingService : Service where
  platform := .sample
  settings :=
    { appEnv := .test
      alosInternalToken := "test-only-token"
      alosContractsPath := some "alos-contracts" }
  resolver := ⟨.ascii⟩
  loadCatalog _ := .ok ⟨fun _ => some fun _ => none⟩

/-- A payload that asks for research in this mode. -/
def researchPayload (sourceMode : String) : JsonObject :=
  [("question", .str "Apa teknologi yang relevan untuk otomasi operasional?"),
    ("source_mode", .str sourceMode), ("domain", .str "TECHNOLOGY"),
    ("execution_context", .obj
      [("permission_refs", strTuple ["research.request", "research.external.read"]),
        ("allowed_tool_ids", strTuple ["research.external.retrieve"]),
        ("scope_refs", strTuple ["research.technology", "scope.sources.external_read"]),
        ("data_classification", .str "INTERNAL"),
        ("correlation_id", .str "corr_genesis_research_external_001"),
        ("execution_budget", .obj [("max_cost", .int 0), ("max_tool_calls", .int 1),
          ("timeout_seconds", .int 30)])])]

theorem decideResearchSource_answers_external :
    ∃ document, acceptingService.decideResearchSource (researchPayload "EXTERNAL")
        "corr_genesis_research_external_001" = .ok (.json document) ∧
      document.get? "decision" = some (.str "REQUEST_EXTERNAL_RESEARCH") ∧
      Answers .sample (researchPayload "EXTERNAL") "corr_genesis_research_external_001"
        document := by
  have decision : (acceptingService.decideResearchSource (researchPayload "EXTERNAL")
      "corr_genesis_research_external_001").toOption.map
        (fun content => match content with
          | .json document => document.get? "decision"
          | .factory _ => none) = some (some (.str "REQUEST_EXTERNAL_RESEARCH")) := by
    decide +kernel
  obtain ⟨content, answered, shown⟩ := exists_ok_of_map decision
  obtain ⟨document, rfl, answers⟩ := decideResearchSource_answers _ _ _ content answered
  exact ⟨document, answered, shown, answers⟩

end Service

end Genesis

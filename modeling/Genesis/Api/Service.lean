import Genesis.Api.Research
import Genesis.Capabilities.Privilege
import Genesis.Context.FailClosed

/-!
# What the service answers

Whoever lacks the token of the service and sends a body that can be parsed gets an
answer that says nothing about the route, the payload or the contracts
(`respond_gate`).  Everybody else gets one of a few structured answers;
`respond_answers` lists the ways in which an exception can leave the application
instead.
-/

namespace Genesis

open Py

/-! ## The token -/

/-- The header lets a request through: nothing is asked for in development, and
otherwise exactly the bearer token. -/
def Settings.Admits (settings : Settings) (authorization : Option String) : Prop :=
  if settings.alosInternalToken = "" then settings.appEnv ∈ [AppEnv.development, .test]
  else IsAscii settings.alosInternalToken ∧
    authorization = some ("Bearer " ++ settings.alosInternalToken)

/-- The comparison of the header with the token raises. -/
def Settings.Incomparable (settings : Settings) (authorization : Option String) : Prop :=
  settings.alosInternalToken ≠ "" ∧ ∃ header ∈ authorization,
    ¬ (IsAscii header ∧ IsAscii settings.alosInternalToken)

section

variable {settings : Settings} {authorization : Option String}

theorem all_ascii_iff {text : String} :
    (text.toList.all fun c => c.toNat < 128) = true ↔ IsAscii text := by
  rw [List.all_eq_true]
  simp only [decide_eq_true_eq]
  rfl

theorem isAscii_bearer {token : String} : IsAscii ("Bearer " ++ token) ↔ IsAscii token := by
  have fixed : IsAscii "Bearer " := all_ascii_iff.mp rfl
  unfold IsAscii at fixed ⊢
  rw [String.toList_append]
  simp only [List.mem_append]
  refine ⟨fun ascii c member => ascii c (.inr member), fun ascii c member => ?_⟩
  rcases member with inFixed | inToken
  · exact fixed c inFixed
  · exact ascii c inToken

theorem compareDigest_of_isAscii {a b : String} (ascii : IsAscii a ∧ IsAscii b) :
    compareDigest a b = .ok (a = b) := by
  unfold compareDigest
  rw [if_pos (Bool.and_eq_true_iff.mpr ⟨all_ascii_iff.mpr ascii.1, all_ascii_iff.mpr ascii.2⟩)]

theorem compareDigest_of_not_isAscii {a b : String} (outside : ¬ (IsAscii a ∧ IsAscii b)) :
    compareDigest a b = .error .typeError := by
  unfold compareDigest
  refine if_neg fun both => outside ?_
  rw [Bool.and_eq_true_iff, all_ascii_iff, all_ascii_iff] at both
  exact both

/-- A check that refuses does so with one of three exceptions. -/
inductive Refusal (settings : Settings) (authorization : Option String) : ServiceException → Prop
  | notConfigured (absent : settings.alosInternalToken = "") :
    Refusal settings authorization (.internalAuthError
      { code := "INTERNAL_AUTH_NOT_CONFIGURED"
        message := "GENESIS internal service authentication is not configured."
        statusCode := 503 })
  | denied (configured : settings.alosInternalToken ≠ "")
    (comparable : ¬ settings.Incomparable authorization) :
    Refusal settings authorization (.internalAuthError
      { code := "INTERNAL_AUTH_DENIED"
        message := "GENESIS internal service authentication failed."
        statusCode := 401 })
  | incomparable (raises : settings.Incomparable authorization) :
    Refusal settings authorization (.python .typeError)

variable (settings authorization) in
/-- The token check lets a request through, or refuses it. -/
theorem verifyServiceToken_cases :
    (settings.Admits authorization ∧ verifyServiceToken settings authorization = .ok ()) ∨
      (¬ settings.Admits authorization ∧ ∃ exc,
        verifyServiceToken settings authorization = .error exc ∧
          Refusal settings authorization exc) := by
  unfold verifyServiceToken Settings.Admits
  by_cases absent : settings.alosInternalToken = ""
  · rw [if_pos absent, if_pos absent]
    by_cases development : settings.appEnv ∈ [AppEnv.development, .test]
    · exact .inl ⟨development, if_pos development⟩
    · exact .inr ⟨development, _, if_neg development, .notConfigured absent⟩
  rw [if_neg absent, if_neg absent]
  cases authorization with
  | none =>
    refine .inr ⟨fun admits => ?_, _, rfl, .denied absent ?_⟩
    · cases admits.2
    · rintro ⟨-, _, given, -⟩
      cases given
  | some header =>
    by_cases ascii : IsAscii header ∧ IsAscii settings.alosInternalToken
    · have compared : compareDigest header ("Bearer " ++ settings.alosInternalToken) =
          .ok (header = "Bearer " ++ settings.alosInternalToken) :=
        compareDigest_of_isAscii ⟨ascii.1, isAscii_bearer.mpr ascii.2⟩
      dsimp only
      rw [compared]
      by_cases same : header = "Bearer " ++ settings.alosInternalToken
      · exact .inl ⟨⟨ascii.2, by rw [same]⟩, if_pos (decide_eq_true same)⟩
      · refine .inr ⟨fun admits => same (Option.some.inj admits.2), _,
          if_neg fun equal => same (of_decide_eq_true equal), .denied absent ?_⟩
        rintro ⟨-, other, given, outside⟩
        cases given
        exact outside ascii
    · have compared : compareDigest header ("Bearer " ++ settings.alosInternalToken) =
          .error .typeError :=
        compareDigest_of_not_isAscii fun both => ascii ⟨both.1, isAscii_bearer.mp both.2⟩
      dsimp only
      rw [compared]
      refine .inr ⟨fun admits => ascii ?_, _, rfl, .incomparable ⟨absent, header, rfl, ascii⟩⟩
      rw [Option.some.inj admits.2]
      exact ⟨isAscii_bearer.mpr admits.1, admits.1⟩

end

/-! ## Bodies -/

/-- What the framework raises for a body that cannot be read. -/
def unreadableBody : ServiceException :=
  .httpException 400 "There was an error parsing the body"

/-- The framework can parse the body of the request, if it has one. -/
def InternalRoute.Parses (route : InternalRoute) : Prop := route.parse = .ok ()

/-- The body of the request cannot be read. -/
def Route.Unreadable : Route → Prop
  | .internal _ (.analyzeFactory .unreadable) | .internal _ (.decideResearchSource .unreadable) =>
    True
  | _ => False

theorem Body.eq_parsed {α : Type} {body : Body α}
    (parses : (body.parse.map fun _ => ()) = .ok ()) : ∃ validated, body = .parsed validated := by
  cases body with
  | jsonInvalid | unreadable => cases parses
  | parsed validated => exact ⟨validated, rfl⟩

/-- A request has a body that can be parsed, one that is no JSON, or one that cannot be read. -/
theorem InternalRoute.parse_cases (authorization : Option String) (route : InternalRoute) :
    route.Parses ∨ (∃ errors, route.parse = .error (.requestValidationError errors)) ∨
      (Route.internal authorization route).Unreadable ∧
        route.parse = .error unreadableBody := by
  cases route with
  | internalHealth | systemInfo | integrationDiagnostic => exact .inl rfl
  | analyzeFactory body | decideResearchSource body =>
    cases body with
    | jsonInvalid position => exact .inr (.inl ⟨_, rfl⟩)
    | unreadable => exact .inr (.inr ⟨trivial, rfl⟩)
    | parsed validated => exact .inl rfl

/-! ## What the routes raise -/

section

variable {factory : CapabilityFactory} {raw : JsonObject}

theorem AgentDraft.literalField_raisesOnly {model key literal : String} :
    RaisesOnly IsValueError (literalField model raw key literal) := by
  unfold literalField
  split
  · exact .ok ()
  · split
    · exact .ok ()
    · exact RaisesOnly.error_iff.mpr rfl

theorem AgentDraft.modelValidate_raisesOnly : RaisesOnly IsValueError (modelValidate raw) := by
  unfold modelValidate
  refine forbidExtra_raisesOnly.bind fun _ _ => ?_
  iterate 8 refine strField_raisesOnly.bind fun _ _ => ?_
  refine literalField_raisesOnly.bind fun _ _ => ?_
  iterate 4 refine strTupleField_raisesOnly.bind fun _ _ => ?_
  refine strField_raisesOnly.bind fun _ _ => ?_
  iterate 2 refine strTupleField_raisesOnly.bind fun _ _ => ?_
  refine literalField_raisesOnly.bind fun _ _ => ?_
  split
  · exact construct_raisesOnly rfl
  · exact RaisesOnly.error_iff.mpr rfl

theorem CapabilityFactory.requiredDraft_raisesOnly {requirement : Requirement}
    {capabilityId digest : String} {resolution : CapabilityResolution} :
    RaisesOnly IsValueError
      (factory.requiredDraft requirement capabilityId resolution digest) := by
  unfold requiredDraft
  split
  · refine RaisesOnly.map ?_
    unfold agentDraft
    refine CanonicalContractCatalog.validate_raisesOnly.bind fun _ _ => ?_
    refine CanonicalContractCatalog.validate_raisesOnly.bind fun _ _ => ?_
    exact AgentDraft.modelValidate_raisesOnly
  · exact .ok _

theorem CapabilityFactory.validatedResult_raisesOnly {result : FactoryAnalysisResult} :
    RaisesOnly IsValueError (factory.validatedResult result) :=
  CanonicalContractCatalog.validate_raisesOnly.bind fun _ _ => .ok _

/-- The factory raises nothing but value errors. -/
theorem CapabilityFactory.analyze_raisesOnly {request : FactoryAnalysisRequest} :
    RaisesOnly IsValueError (factory.analyze request) := by
  unfold analyze propose
  refine CanonicalContractCatalog.validate_raisesOnly.bind fun _ _ => ?_
  unfold CapabilityResolver.resolve CapabilityResolution.ofFields
  refine RaisesOnly.bind (construct_raisesOnly rfl) fun _ _ => ?_
  split
  · exact validatedResult_raisesOnly
  · refine CanonicalContractCatalog.validate_raisesOnly.bind fun _ _ => ?_
    exact requiredDraft_raisesOnly.bind fun _ _ => validatedResult_raisesOnly

/-- A result of the factory has the correlation id of its request. -/
theorem CapabilityFactory.correlationId_of_analyze {request : FactoryAnalysisRequest}
    {result : FactoryAnalysisResult} (analyzed : factory.analyze request = .ok result) :
    result.correlationId = request.requirement.executionContext.correlationId := by
  simp only [analyze, propose, except_bind_eq_ok] at analyzed
  obtain ⟨_, -, resolution, -, proposed⟩ := analyzed
  split at proposed
  · rw [validatedResult_eq proposed]
    rfl
  · obtain ⟨_, _, _, -, rfl⟩ := exists_of_create proposed
    rfl

end

namespace Service

/-- The values an execution context has for the research route. -/
structure ShapedContext (context : JsonObject) : Prop where
  correlationId : (context.get? "correlation_id").isSome = true
  dataClassification : (context.get? "data_classification").isSome = true
  permissionRefs : ∀ value ∈ context.get? "permission_refs", value.iterate?.isSome = true
  allowedToolIds : ∀ value ∈ context.get? "allowed_tool_ids", value.iterate?.isSome = true
  scopeRefs : ∃ value ∈ context.get? "scope_refs", value.iterate?.isSome = true
  maximumCost : ∀ budget : JsonObject, context.get? "execution_budget" = some (.obj budget) →
    ∀ cost ∈ budget.get? "max_cost", cost ≠ .null ∧ cost.dict? = none ∧
      (∀ items, cost ≠ .arr items) ∧ ∀ n, cost = .int n → (floatOfInt? n).isSome = true

/-- The payload has every value the research route reads, of a type it can read. -/
structure Shaped (payload : JsonObject) : Prop where
  executionContext : (payload.get? "execution_context").isSome = true
  sourceMode : (payload.get? "source_mode").isSome = true
  domain : (payload.get? "domain").isSome = true
  question : (payload.get? "question").isSome = true
  context : ∀ context, payload.get? "execution_context" = some (.obj context) →
    ShapedContext context

/-- The failures of the service: their codes, statuses, and whether the request may be
tried again. -/
def FAILURES : List (String × ℕ × Bool) :=
  [("INTERNAL_AUTH_NOT_CONFIGURED", 503, false), ("INTERNAL_AUTH_DENIED", 401, false),
    ("REQUEST_VALIDATION_FAILED", 422, false), ("CORRELATION_ID_MISMATCH", 422, false),
    ("CONTRACT_CATALOG_NOT_CONFIGURED", 503, true), ("FACTORY_CONTRACT_INVALID", 422, false),
    ("RESEARCH_CONTRACT_INVALID", 422, false),
    ("RESEARCH_DECISION_CONTRACT_INVALID", 422, false)]

/-- The catalog at the configured path cannot be loaded, for no reason of its values. -/
def LoadFails (service : Service) (exc : PyException) : Prop :=
  ¬ IsValueError exc ∧ ∃ path ∈ service.settings.alosContractsPath,
    service.loadCatalog path = .error exc

/-- The contracts of the service accept the payload of a research request. -/
def AcceptsResearch (service : Service) (payload : JsonObject) : Prop :=
  ∃ path ∈ service.settings.alosContractsPath, ∃ contracts,
    service.loadCatalog path = .ok contracts ∧
      contracts.validate RESEARCH_ANALYSIS_REQUEST_SCHEMA payload = .ok payload

/-- An exception some handler of the application has an answer for. -/
def Handled (exc : ServiceException) : Prop :=
  ∃ respond, handleException exc = answer respond ∧ ∃ code statusCode retryable message details,
    (code, statusCode, retryable) ∈ FAILURES ∧ ∀ correlationId, respond correlationId =
      { statusCode
        content := errorDocument code message details correlationId retryable }

section

variable {service : Service} {platform : Platform} {payload context : JsonObject}
  {correlationId : String}

theorem handled_boundary {code message : String} {statusCode : ℕ}
    (known : (code, statusCode, decide (500 ≤ statusCode)) ∈ FAILURES) :
    Handled (.internalBoundaryError { code, message, statusCode }) :=
  ⟨_, rfl, code, statusCode, _, message, none, known, fun _ => rfl⟩

/-! ### Reading the payload of a research request -/

theorem item_raisesOnly_of_isSome {d : JsonObject} {key : String}
    (present : (d.get? key).isSome = true) : RaisesOnly IsValueError (item d key) := by
  obtain ⟨value, found⟩ := Option.isSome_iff_exists.mp present
  rw [item_eq_ok_iff.mpr found]
  exact .ok value

theorem strElements_raisesOnly {value : Json} (iterable : value.iterate?.isSome = true) :
    RaisesOnly IsValueError (strElements platform value) := by
  obtain ⟨items, iterated⟩ := Option.isSome_iff_exists.mp iterable
  rw [strElements, iterated]
  exact .ok _

/-- A list that may be absent is read without an exception. -/
theorem optionalElements_raisesOnly {key : String}
    (iterable : ∀ value ∈ context.get? key, value.iterate?.isSome = true) :
    RaisesOnly IsValueError
      (strElements platform ((context.get? key).getD (.arr []))) := by
  refine strElements_raisesOnly ?_
  cases found : context.get? key with
  | none => rfl
  | some value => exact iterable value found

theorem maximumCost_raisesOnly (shaped : ShapedContext context) :
    RaisesOnly IsValueError (maximumCost platform context) := by
  unfold maximumCost
  split
  next budget given =>
    cases found : Dict.get? budget "max_cost" with
    | none =>
      have free : toFloat platform (.int 0) = .ok 0 := by
        rw [toFloat, floatOfInt?_of_lt (by decide), Int.cast_zero]
      rw [Option.getD_none, free]
      exact .ok 0
    | some cost =>
      have present : context.get? "execution_budget" = some (.obj budget) := by
        cases got : context.get? "execution_budget" with
        | none =>
          rw [got] at given
          cases given
          cases found
        | some value =>
          rw [got] at given
          exact congrArg some given
      obtain ⟨notNull, notDict, notList, convertible⟩ :=
        shaped.maximumCost budget present cost found
      rw [Option.getD_some]
      unfold toFloat
      split
      next n =>
        obtain ⟨q, converted⟩ := Option.isSome_iff_exists.mp (convertible n rfl)
        rw [converted]
        exact .ok q
      · exact .ok _
      · exact .ok _
      · split
        · exact .ok _
        · exact RaisesOnly.error_iff.mpr rfl
      next notInt notBool notFloat notStr =>
        cases cost with
        | null => exact absurd rfl notNull
        | bool b => exact absurd rfl (notBool b)
        | int n => exact absurd rfl (notInt n)
        | float q => exact absurd rfl (notFloat q)
        | str text => exact absurd rfl (notStr text)
        | arr items => exact absurd rfl (notList items)
        | obj fields => cases notDict
  · exact .ok _

theorem readArguments_raisesOnly (shaped : Shaped payload) (shapedContext : ShapedContext context) :
    RaisesOnly IsValueError (readArguments platform payload context correlationId) := by
  unfold readArguments
  refine (optionalElements_raisesOnly shapedContext.permissionRefs).bind fun _ _ => ?_
  refine (optionalElements_raisesOnly shapedContext.allowedToolIds).bind fun _ _ => ?_
  obtain ⟨value, found, iterable⟩ := shapedContext.scopeRefs
  rw [item_eq_ok_iff.mpr found]
  refine (strElements_raisesOnly iterable).bind fun _ _ => ?_
  refine (maximumCost_raisesOnly shapedContext).bind fun _ _ => ?_
  refine (item_raisesOnly_of_isSome shaped.sourceMode).bind fun _ _ => ?_
  refine (item_raisesOnly_of_isSome shaped.domain).bind fun _ _ => ?_
  refine (item_raisesOnly_of_isSome shaped.question).bind fun _ _ => ?_
  exact (item_raisesOnly_of_isSome shapedContext.dataClassification).bind fun _ _ => .ok _

theorem decisionRequest_raisesOnly {arguments : ResearchArguments} :
    RaisesOnly IsValueError (decisionRequest arguments) := by
  unfold decisionRequest
  split
  · exact construct_raisesOnly rfl
  · exact RaisesOnly.error_iff.mpr rfl

/-! ### What becomes of an exception -/

/-- An exception of a route is handled, or is Python's own for this reason. -/
abbrev HandledOr (reason : PyException → Prop) (exc : ServiceException) : Prop :=
  Handled exc ∨ ∃ e, exc = .python e ∧ reason e

theorem raised_raisesOnly {α : Type} {reason : PyException → Prop} {x : Except PyException α}
    (only : RaisesOnly reason x) : RaisesOnly (HandledOr reason) (raised x) := by
  intro exc same
  obtain ⟨e, raises, rfl⟩ := raised_eq_error_iff.mp same
  exact .inr ⟨e, rfl, only e raises⟩

/-- Value errors become a boundary error; what else is raised stays. -/
theorem asBoundary_raisesOnly {α : Type} {reason : PyException → Prop} {code : String}
    (known : (code, 422, false) ∈ FAILURES) {x : Except ServiceException α}
    (only : RaisesOnly (HandledOr fun exc => IsValueError exc ∨ reason exc) x) :
    RaisesOnly (HandledOr reason) (asBoundary platform code x) := by
  unfold asBoundary
  split
  next exc =>
    split
    · exact RaisesOnly.error_iff.mpr (.inl (handled_boundary known))
    next unlike =>
      rcases only _ rfl with isHandled | ⟨e, same, kind | holds⟩
      · exact RaisesOnly.error_iff.mpr (.inl isHandled)
      · cases same
        exact absurd kind unlike
      · exact RaisesOnly.error_iff.mpr (.inr ⟨e, same, holds⟩)
  next notPython =>
    intro exc same
    rcases only exc same with isHandled | ⟨e, rfl, -⟩
    · exact .inl isHandled
    · exact absurd same (notPython e)

/-- The handlers of the research route answer the failure of a decision as well. -/
theorem handled_raisesOnly {α : Type} {reason : PyException → Prop}
    {x : Except ServiceException α}
    (only : RaisesOnly (fun exc => HandledOr (fun exc => IsValueError exc ∨ reason exc) exc ∨
      ∃ failure, exc = .researchDecisionFailure failure ∧
        failure.code = "RESEARCH_DECISION_CONTRACT_INVALID") x) :
    RaisesOnly (HandledOr reason) (Service.handled platform x) := by
  unfold Service.handled
  split
  next failure =>
    rcases only _ rfl with (⟨_, unanswered, -⟩ | ⟨_, same, -⟩) | ⟨_, same, code⟩
    · cases unanswered
    · cases same
    · cases same
      rw [code]
      exact RaisesOnly.error_iff.mpr (.inl (handled_boundary (by decide)))
  next notFailure =>
    refine asBoundary_raisesOnly (by decide) fun exc same => ?_
    rcases only exc same with caught | ⟨failure, rfl, -⟩
    · exact caught
    · exact absurd same (notFailure failure)

theorem contractsPath_raisesOnly {purpose : String} :
    RaisesOnly Handled (service.contractsPath purpose) := by
  unfold contractsPath
  split
  · exact RaisesOnly.error_iff.mpr (handled_boundary (by decide))
  · exact .ok _

theorem contractsPath_eq_ok_iff {purpose path : String} :
    service.contractsPath purpose = .ok path ↔ path ∈ service.settings.alosContractsPath := by
  unfold contractsPath
  cases service.settings.alosContractsPath with
  | none => exact ⟨nofun, nofun⟩
  | some configured => simp

theorem handled_correlationMismatch {α : Type} :
    RaisesOnly Handled (correlationMismatch : Except ServiceException α) :=
  RaisesOnly.error_iff.mpr (handled_boundary (by decide))

theorem loadCatalog_raisesOnly {path : String} (set : path ∈ service.settings.alosContractsPath) :
    RaisesOnly (fun exc => IsValueError exc ∨ service.LoadFails exc)
      (service.loadCatalog path) := by
  intro exc fails
  by_cases kind : IsValueError exc
  · exact .inl kind
  · exact .inr ⟨kind, path, set, fails⟩

theorem analyzeFactory_raisesOnly {request : FactoryAnalysisRequest} :
    RaisesOnly (HandledOr service.LoadFails) (service.analyzeFactory request correlationId) := by
  unfold analyzeFactory
  split
  · exact handled_correlationMismatch.mono fun _ => .inl
  · refine (contractsPath_raisesOnly.mono fun _ => .inl).bind fun path configured => ?_
    have set := contractsPath_eq_ok_iff.mp configured
    refine asBoundary_raisesOnly (by decide) ?_
    refine (raised_raisesOnly (loadCatalog_raisesOnly set)).bind fun _ _ => ?_
    refine (raised_raisesOnly ?_).bind fun _ _ => .ok _
    exact CapabilityFactory.analyze_raisesOnly.mono fun _ => .inl

/-- Without evidence a decision fails for its contract alone. -/
theorem decideCanonical_raisesOnly {contracts : CanonicalContractCatalog}
    {request : ResearchDecisionRequest} (none : request.evidence = [])
    (complete : request.informationComplete = true) :
    RaisesOnly (fun exc => ∃ failure, exc = .researchDecisionFailure failure ∧
      failure.code = "RESEARCH_DECISION_CONTRACT_INVALID")
      (decideCanonical contracts request) := by
  have result (kind : ResearchDecisionKind) (reason : String) (reasons : List String)
      (retrieval : Option BackendRetrievalProposal) :
      RaisesOnly (fun exc => ∃ failure, exc = ResearchDecisionException.failure failure ∧
        failure.code = "RESEARCH_DECISION_CONTRACT_INVALID")
        (ExternalResearchDecider.result ⟨contracts⟩ request kind [] reason reasons retrieval) := by
    unfold ExternalResearchDecider.result
    split
    · exact .ok _
    next exc invalid =>
      rw [if_pos (CanonicalContractCatalog.validate_raisesOnly exc invalid)]
      exact RaisesOnly.error_iff.mpr ⟨_, rfl, rfl⟩
  have decided : RaisesOnly (fun exc => ∃ failure, exc = ResearchDecisionException.failure failure ∧
      failure.code = "RESEARCH_DECISION_CONTRACT_INVALID")
      (ExternalResearchDecider.decide ⟨contracts⟩ request) := by
    rw [ExternalResearchDecider.decide_of_noEvidence none complete]
    dsimp only
    split
    · exact result _ _ _ _
    · exact result _ _ _ _
  unfold decideCanonical
  split
  · exact .ok _
  next failure failed =>
    obtain ⟨_, same, code⟩ := decided _ failed
    cases same
    exact RaisesOnly.error_iff.mpr ⟨_, rfl, code⟩
  next exc failed =>
    obtain ⟨_, same, -⟩ := decided _ failed
    cases same

/-- What the `try` of the research route raises. -/
abbrev Reason (service : Service) (payload : JsonObject) (exc : ServiceException) : Prop :=
  HandledOr (fun exc => IsValueError exc ∨ service.LoadFails exc ∨
    service.AcceptsResearch payload ∧ ¬ Shaped payload) exc ∨
  ∃ failure, exc = .researchDecisionFailure failure ∧
    failure.code = "RESEARCH_DECISION_CONTRACT_INVALID"

theorem raised_reason {α : Type} {x : Except PyException α}
    (only : ¬ (service.AcceptsResearch payload ∧ ¬ Shaped payload) → RaisesOnly IsValueError x) :
    RaisesOnly (Reason service payload) (raised x) := by
  intro exc same
  obtain ⟨e, raises, rfl⟩ := raised_eq_error_iff.mp same
  by_cases misshaped : service.AcceptsResearch payload ∧ ¬ Shaped payload
  · exact .inl (.inr ⟨e, rfl, .inr (.inr misshaped)⟩)
  · exact .inl (.inr ⟨e, rfl, .inl (only misshaped e raises)⟩)

/-- Once the contracts accept the payload, a value that is missing is reason enough. -/
theorem raised_reason_of_accepts {α : Type} {x : Except PyException α}
    (accepts : service.AcceptsResearch payload)
    (only : Shaped payload → RaisesOnly IsValueError x) :
    RaisesOnly (Reason service payload) (raised x) :=
  raised_reason fun shaped => only (not_not.mp fun misshaped => shaped ⟨accepts, misshaped⟩)

/-- The research route leaves an exception unanswered when its contracts cannot be
loaded, or when they accept a payload without a value it reads. -/
theorem decideResearchSource_raisesOnly :
    RaisesOnly (HandledOr fun exc => service.LoadFails exc ∨
      service.AcceptsResearch payload ∧ ¬ Shaped payload)
      (service.decideResearchSource payload correlationId) := by
  unfold decideResearchSource
  refine (contractsPath_raisesOnly.mono fun _ => .inl).bind fun path configured => ?_
  have set := contractsPath_eq_ok_iff.mp configured
  refine handled_raisesOnly ?_
  have loading : RaisesOnly (Reason service payload) (raised (service.loadCatalog path)) :=
    (raised_raisesOnly (loadCatalog_raisesOnly set)).mono fun _ loads => by
      rcases loads with isHandled | ⟨e, rfl, kind | fails⟩
      · exact .inl (.inl isHandled)
      · exact .inl (.inr ⟨e, rfl, .inl kind⟩)
      · exact .inl (.inr ⟨e, rfl, .inr (.inl fails)⟩)
  unfold decideResearch
  refine loading.bind fun contracts loaded => ?_
  refine RaisesOnly.bind (raised_reason fun _ => ?_) fun validated valid => ?_
  · exact CanonicalContractCatalog.validate_raisesOnly
  rw [raised_eq_ok_iff] at loaded valid
  cases CanonicalContractCatalog.eq_of_validate valid
  have accepts : service.AcceptsResearch payload := ⟨path, set, contracts, loaded, valid⟩
  refine RaisesOnly.bind (raised_reason_of_accepts accepts fun shaped => ?_) fun value found => ?_
  · exact item_raisesOnly_of_isSome shaped.executionContext
  rw [raised_eq_ok_iff, item_eq_ok_iff] at found
  split
  · exact RaisesOnly.error_iff.mpr (.inl (.inr ⟨_, rfl, .inl rfl⟩))
  next context isDict =>
  rw [Json.dict?_eq_some_iff] at isDict
  subst isDict
  refine RaisesOnly.bind (raised_reason_of_accepts accepts fun shaped => ?_)
    fun correlation _ => ?_
  · exact item_raisesOnly_of_isSome (shaped.context context found).correlationId
  split
  · exact handled_correlationMismatch.mono fun _ isHandled => .inl (.inl isHandled)
  refine RaisesOnly.bind (raised_reason_of_accepts accepts fun shaped => ?_) fun arguments _ => ?_
  · exact readArguments_raisesOnly shaped (shaped.context context found)
  refine RaisesOnly.bind (raised_reason fun _ => decisionRequest_raisesOnly)
    fun request built => ?_
  have fills := fills_of_decisionRequest (raised_eq_ok_iff.mp built)
  refine RaisesOnly.bind ?_ fun _ _ => .ok _
  exact (decideCanonical_raisesOnly fills.evidence fills.informationComplete).mono fun _ => .inr

end

/-! ## Runs -/

/-- The events of a request, each of them a reading of its correlation id. -/
abbrev ReadTrace : Type :=
  List (Dialogue.Event AppCall fun call => Except PyException call.Reply)

/-- The ways an exception leaves the application instead of a response. -/
inductive Escapes (service : Service) : Route → ReadTrace → PyException → Prop
  | unread {route : Route} {t : ReadTrace} {exc : PyException}
    (raises : ⟨.currentCorrelationId, .error exc⟩ ∈ t) : Escapes service route t exc
  | incomparable {authorization : Option String} {route : InternalRoute} {t : ReadTrace}
    (parses : route.Parses) (raises : service.settings.Incomparable authorization) :
    Escapes service (.internal authorization route) t .typeError
  | factoryCatalog {authorization : Option String} {request : FactoryAnalysisRequest}
    {t : ReadTrace} {exc : PyException} (admitted : service.settings.Admits authorization)
    (fails : service.LoadFails exc) :
    Escapes service (.internal authorization (.analyzeFactory (.parsed (.ok request)))) t exc
  | researchCatalog {authorization : Option String} {payload : JsonObject} {t : ReadTrace}
    {exc : PyException} (admitted : service.settings.Admits authorization)
    (fails : service.LoadFails exc) :
    Escapes service (.internal authorization (.decideResearchSource (.parsed (.ok payload)))) t exc
  | misshaped {authorization : Option String} {payload : JsonObject} {t : ReadTrace}
    {exc : PyException} (admitted : service.settings.Admits authorization)
    (accepts : service.AcceptsResearch payload) (misshaped : ¬ Shaped payload) :
    Escapes service (.internal authorization (.decideResearchSource (.parsed (.ok payload)))) t exc

/-- The answer of the framework to a body that cannot be read. -/
def unreadableResponse : Response where
  statusCode := 400
  content := .json [("detail", .str "There was an error parsing the body")]

/-- A response with status 200, one of the failures with a correlation id that was read, or
the answer to a body that cannot be read. -/
inductive Structured (route : Route) (t : ReadTrace) : Response → Prop
  | success (content : Content) : Structured route t { content }
  | failure {correlationId code message : String} {statusCode : ℕ} {retryable : Bool}
    {details : Option Json} (known : (code, statusCode, retryable) ∈ FAILURES)
    (read : ⟨.currentCorrelationId, .ok correlationId⟩ ∈ t) :
    Structured route t
      { statusCode
        content := errorDocument code message details correlationId retryable }
  | unreadable (body : route.Unreadable) : Structured route t unreadableResponse

section

variable {service : Service} {route : Route} {t : ReadTrace}

/-- A body that cannot be parsed ends a request before anything else is looked at. -/
theorem endpoint_of_unparsed {authorization : Option String} {route : InternalRoute}
    {exc : ServiceException} (unparsed : route.parse = .error exc) :
    service.endpoint (.internal authorization route) = .done (.error exc) := by
  unfold endpoint
  dsimp only
  rw [unparsed]
  rfl

theorem endpoint_of_parses {authorization : Option String} {route : InternalRoute}
    (parses : route.Parses) :
    service.endpoint (.internal authorization route) =
      match verifyServiceToken service.settings authorization with
      | .error exc => .done (.error exc)
      | .ok () => service.dispatch route := by
  unfold InternalRoute.Parses at parses
  unfold endpoint
  dsimp only
  rw [parses]
  rfl

theorem endpoint_of_admits {authorization : Option String} {route : InternalRoute}
    (parses : route.Parses) (admitted : service.settings.Admits authorization) :
    service.endpoint (.internal authorization route) = service.dispatch route := by
  rcases verifyServiceToken_cases service.settings authorization with ⟨-, verified⟩ | ⟨unlisted, -⟩
  · rw [endpoint_of_parses parses, verified]
  · exact absurd admitted unlisted

/-- A refusal is the same for every service with these settings, and for every route. -/
theorem endpoint_of_not_admits {settings : Settings} {authorization : Option String}
    (unlisted : ¬ settings.Admits authorization) :
    ∃ exc, (∀ service : Service, service.settings = settings → ∀ route : InternalRoute,
        route.Parses → service.endpoint (.internal authorization route) = .done (.error exc)) ∧
      Refusal settings authorization exc := by
  rcases verifyServiceToken_cases settings authorization with
    ⟨admitted, -⟩ | ⟨-, exc, refused, refusal⟩
  · exact absurd admitted unlisted
  · refine ⟨exc, fun service same route parses => ?_, refusal⟩
    subst same
    rw [endpoint_of_parses parses, refused]

theorem runs_withCorrelationId_iff {α : Type} {next : String → Except ServiceException α}
    {outcome : Except ServiceException α} :
    Dialogue.Runs (withCorrelationId next) t outcome ↔
      ∃ reply, t = [⟨.currentCorrelationId, reply⟩] ∧ outcome = raised reply >>= next :=
  Dialogue.Runs.reply_iff

theorem runs_answered {exc : ServiceException} {respond : String → Response}
    {r : Except PyException Response} (answers : handleException exc = answer respond)
    (run : Dialogue.Runs (handleException exc) t r) :
    ∃ reply, t = [⟨.currentCorrelationId, reply⟩] ∧ r = reply.map respond := by
  rw [answers] at run
  exact Dialogue.Runs.reply_iff.mp run

/-- An exception with a handler is answered, unless the handler cannot read its
correlation id. -/
theorem runs_handleException {exc : ServiceException} {r : Except PyException Response}
    (answered : Handled exc) (run : Dialogue.Runs (handleException exc) t r) :
    (∃ e, r = .error e ∧ ⟨.currentCorrelationId, .error e⟩ ∈ t) ∨
      ∃ response, r = .ok response ∧ Structured route t response := by
  obtain ⟨respond, answers, code, statusCode, retryable, message, details, known, same⟩ := answered
  obtain ⟨reply, rfl, rfl⟩ := runs_answered answers run
  cases reply with
  | error e => exact .inl ⟨e, rfl, List.mem_cons_self⟩
  | ok correlationId =>
    refine .inr ⟨_, rfl, ?_⟩
    rw [same]
    exact .failure known List.mem_cons_self

/-- How a route ends that reads the correlation id first. -/
theorem runs_withCorrelationId_cases {α : Type} {reason : PyException → Prop}
    {next : String → Except ServiceException α} {outcome : Except ServiceException α}
    (only : ∀ correlationId, RaisesOnly (HandledOr reason) (next correlationId))
    (run : Dialogue.Runs (withCorrelationId next) t outcome) :
    (∃ a, outcome = .ok a) ∨ (∃ exc, outcome = .error exc ∧ Handled exc) ∨
      ∃ e, outcome = .error (.python e) ∧
        (⟨.currentCorrelationId, .error e⟩ ∈ t ∨ reason e) := by
  obtain ⟨reply, rfl, rfl⟩ := runs_withCorrelationId_iff.mp run
  cases reply with
  | error e => exact .inr (.inr ⟨e, rfl, .inl List.mem_cons_self⟩)
  | ok correlationId =>
    have same : (raised (.ok correlationId) >>= next) = next correlationId := rfl
    rw [same]
    cases outcome : next correlationId with
    | ok a => exact .inl ⟨a, rfl⟩
    | error exc =>
      rcases only correlationId exc outcome with answered | ⟨e, rfl, holds⟩
      · exact .inr (.inl ⟨exc, rfl, answered⟩)
      · exact .inr (.inr ⟨e, rfl, .inr holds⟩)

/-- The response to a request without the token. -/
def refusedResponse (settings : Settings) (correlationId : String) : Response :=
  if settings.alosInternalToken = "" then
    { statusCode := 503
      content := errorDocument "INTERNAL_AUTH_NOT_CONFIGURED"
        "GENESIS internal service authentication is not configured." none correlationId false }
  else
    { statusCode := 401
      content := errorDocument "INTERNAL_AUTH_DENIED"
        "GENESIS internal service authentication failed." none correlationId false }

theorem handled_refusal {code message : String} {statusCode : ℕ}
    (known : (code, statusCode, false) ∈ FAILURES) :
    Handled (.internalAuthError { code, message, statusCode }) :=
  ⟨_, rfl, code, statusCode, false, message, none, known, fun _ => rfl⟩

theorem handled_requestValidation {errors : List ValidationDetail} :
    Handled (.requestValidationError errors) :=
  ⟨_, rfl, _, _, _, _, _, by decide, fun _ => rfl⟩

theorem Structured.mono {u : ReadTrace} {response : Response}
    (structured : Structured route t response) (within : t ⊆ u) : Structured route u response := by
  cases structured with
  | success content => exact .success content
  | failure known read => exact .failure known (within read)
  | unreadable body => exact .unreadable body

/-- How an admitted request ends before the exception handlers. -/
theorem runs_dispatch {authorization : Option String} {route : InternalRoute}
    {outcome : Except ServiceException Content}
    (parses : route.Parses) (admitted : service.settings.Admits authorization)
    (run : Dialogue.Runs (service.dispatch route) t outcome) :
    (∃ content, outcome = .ok content) ∨ (∃ exc, outcome = .error exc ∧ Handled exc) ∨
      ∃ e, outcome = .error (.python e) ∧
        ∀ u, Escapes service (.internal authorization route) (t ++ u) e := by
  cases route with
  | internalHealth => exact .inl ⟨_, (Dialogue.Runs.done_iff.mp run).2⟩
  | systemInfo => exact .inl ⟨_, (Dialogue.Runs.done_iff.mp run).2⟩
  | integrationDiagnostic =>
    have only : ∀ correlationId, RaisesOnly (HandledOr fun _ => False)
        (.ok (integrationDiagnostic correlationId)) := fun _ => .ok _
    rcases runs_withCorrelationId_cases only run with returned | answered | ⟨e, rfl, unread | no⟩
    · exact .inl returned
    · exact .inr (.inl answered)
    · exact .inr (.inr ⟨e, rfl, fun u => .unread (List.mem_append_left u unread)⟩)
    · exact no.elim
  | analyzeFactory body =>
    obtain ⟨validated, rfl⟩ := Body.eq_parsed parses
    cases validated with
    | error errors =>
      obtain ⟨-, rfl⟩ := Dialogue.Runs.done_iff.mp run
      exact .inr (.inl ⟨_, rfl, handled_requestValidation⟩)
    | ok request =>
      rcases runs_withCorrelationId_cases (fun _ => analyzeFactory_raisesOnly) run with
        returned | answered | ⟨e, rfl, unread | fails⟩
      · exact .inl returned
      · exact .inr (.inl answered)
      · exact .inr (.inr ⟨e, rfl, fun u => .unread (List.mem_append_left u unread)⟩)
      · exact .inr (.inr ⟨e, rfl, fun _ => .factoryCatalog admitted fails⟩)
  | decideResearchSource body =>
    obtain ⟨validated, rfl⟩ := Body.eq_parsed parses
    cases validated with
    | error errors =>
      obtain ⟨-, rfl⟩ := Dialogue.Runs.done_iff.mp run
      exact .inr (.inl ⟨_, rfl, handled_requestValidation⟩)
    | ok payload =>
      rcases runs_withCorrelationId_cases (fun _ => decideResearchSource_raisesOnly) run with
        returned | answered | ⟨e, rfl, unread | fails | ⟨accepts, misshaped⟩⟩
      · exact .inl returned
      · exact .inr (.inl answered)
      · exact .inr (.inr ⟨e, rfl, fun u => .unread (List.mem_append_left u unread)⟩)
      · exact .inr (.inr ⟨e, rfl, fun _ => .researchCatalog admitted fails⟩)
      · exact .inr (.inr ⟨e, rfl, fun _ => .misshaped admitted accepts misshaped⟩)

/-- How a route ends before the exception handlers. -/
theorem runs_endpoint {outcome : Except ServiceException Content}
    (run : Dialogue.Runs (service.endpoint route) t outcome) :
    (∃ content, outcome = .ok content) ∨ (∃ exc, outcome = .error exc ∧ Handled exc) ∨
      (outcome = .error unreadableBody ∧ route.Unreadable) ∨
      ∃ e, outcome = .error (.python e) ∧ ∀ u, Escapes service route (t ++ u) e := by
  cases route with
  | health => exact .inl ⟨_, (Dialogue.Runs.done_iff.mp run).2⟩
  | ready => exact .inl ⟨_, (Dialogue.Runs.done_iff.mp run).2⟩
  | internal authorization route =>
    rcases route.parse_cases authorization with parses | ⟨errors, invalid⟩ | ⟨body, unreadable⟩
    · by_cases admitted : service.settings.Admits authorization
      · rw [endpoint_of_admits parses admitted] at run
        rcases runs_dispatch parses admitted run with returned | answered | escapes
        · exact .inl returned
        · exact .inr (.inl answered)
        · exact .inr (.inr (.inr escapes))
      · obtain ⟨exc, refused, refusal⟩ := endpoint_of_not_admits admitted
        rw [refused service rfl route parses] at run
        obtain ⟨-, rfl⟩ := Dialogue.Runs.done_iff.mp run
        cases refusal with
        | notConfigured => exact .inr (.inl ⟨_, rfl, handled_refusal (by decide)⟩)
        | denied => exact .inr (.inl ⟨_, rfl, handled_refusal (by decide)⟩)
        | incomparable raises =>
          exact .inr (.inr (.inr ⟨_, rfl, fun _ => .incomparable parses raises⟩))
    · rw [endpoint_of_unparsed invalid] at run
      obtain ⟨-, rfl⟩ := Dialogue.Runs.done_iff.mp run
      exact .inr (.inl ⟨_, rfl, handled_requestValidation⟩)
    · rw [endpoint_of_unparsed unreadable] at run
      obtain ⟨-, rfl⟩ := Dialogue.Runs.done_iff.mp run
      exact .inr (.inr (.inl ⟨rfl, body⟩))

/-- What a route returns: fixed information, or what it makes of its payload under the
correlation id that it read. -/
inductive Returns (service : Service) : InternalRoute → ReadTrace → Content → Prop
  | internalHealth : Returns service .internalHealth [] health
  | systemInfo : Returns service .systemInfo [] systemInfo
  | integrationDiagnostic (correlationId : String) :
    Returns service .integrationDiagnostic [⟨.currentCorrelationId, .ok correlationId⟩]
      (integrationDiagnostic correlationId)
  | analyzeFactory {request : FactoryAnalysisRequest} {correlationId : String} {content : Content}
    (answered : service.analyzeFactory request correlationId = .ok content) :
    Returns service (.analyzeFactory (.parsed (.ok request)))
      [⟨.currentCorrelationId, .ok correlationId⟩] content
  | decideResearchSource {payload : JsonObject} {correlationId : String} {content : Content}
    (answered : service.decideResearchSource payload correlationId = .ok content) :
    Returns service (.decideResearchSource (.parsed (.ok payload)))
      [⟨.currentCorrelationId, .ok correlationId⟩] content

theorem exists_of_withCorrelationId {content : Content}
    {next : String → Except ServiceException Content}
    (run : Dialogue.Runs (withCorrelationId next) t (.ok content)) :
    ∃ correlationId, t = [⟨.currentCorrelationId, .ok correlationId⟩] ∧
      next correlationId = .ok content := by
  obtain ⟨reply, rfl, returned⟩ := runs_withCorrelationId_iff.mp run
  cases reply with
  | error exc => cases returned
  | ok correlationId => exact ⟨correlationId, rfl, returned.symm⟩

theorem returns_of_dispatch {route : InternalRoute} {content : Content} (parses : route.Parses)
    (run : Dialogue.Runs (service.dispatch route) t (.ok content)) :
    Returns service route t content := by
  cases route with
  | internalHealth =>
    obtain ⟨rfl, same⟩ := Dialogue.Runs.done_iff.mp run
    cases same
    exact .internalHealth
  | systemInfo =>
    obtain ⟨rfl, same⟩ := Dialogue.Runs.done_iff.mp run
    cases same
    exact .systemInfo
  | integrationDiagnostic =>
    obtain ⟨correlationId, rfl, returned⟩ := exists_of_withCorrelationId run
    cases returned
    exact .integrationDiagnostic correlationId
  | analyzeFactory body =>
    obtain ⟨validated, rfl⟩ := Body.eq_parsed parses
    cases validated with
    | error errors => cases (Dialogue.Runs.done_iff.mp run).2
    | ok request =>
      obtain ⟨correlationId, rfl, answered⟩ := exists_of_withCorrelationId run
      exact .analyzeFactory answered
  | decideResearchSource body =>
    obtain ⟨validated, rfl⟩ := Body.eq_parsed parses
    cases validated with
    | error errors => cases (Dialogue.Runs.done_iff.mp run).2
    | ok payload =>
      obtain ⟨correlationId, rfl, answered⟩ := exists_of_withCorrelationId run
      exact .decideResearchSource answered

/-- A content is returned to an admitted request whose body was parsed. -/
theorem returns_of_endpoint {authorization : Option String} {route : InternalRoute}
    {content : Content}
    (run : Dialogue.Runs (service.endpoint (.internal authorization route)) t (.ok content)) :
    Returns service route t content := by
  cases parsed : route.parse with
  | error exc =>
    rw [endpoint_of_unparsed parsed] at run
    cases (Dialogue.Runs.done_iff.mp run).2
  | ok _ =>
    by_cases admitted : service.settings.Admits authorization
    · rw [endpoint_of_admits parsed admitted] at run
      exact returns_of_dispatch parsed run
    · obtain ⟨exc, refused, -⟩ := endpoint_of_not_admits admitted
      rw [refused service rfl route parsed] at run
      cases (Dialogue.Runs.done_iff.mp run).2

/-- The answer to a refused request. -/
theorem runs_refused {settings : Settings} {authorization : Option String}
    {exc : ServiceException} {r : Except PyException Response}
    (refusal : Refusal settings authorization exc)
    (run : Dialogue.Runs (handleException exc) t r) :
    (settings.Incomparable authorization ∧ t = [] ∧ r = .error .typeError) ∨
      (¬ settings.Incomparable authorization ∧
        ∃ reply, t = [⟨.currentCorrelationId, reply⟩] ∧
          r = reply.map (refusedResponse settings)) := by
  cases refusal with
  | notConfigured absent =>
    have same : refusedResponse settings = fun correlationId =>
        { statusCode := 503
          content := errorDocument "INTERNAL_AUTH_NOT_CONFIGURED"
            "GENESIS internal service authentication is not configured." none correlationId
            false } :=
      funext fun _ => if_pos absent
    rw [same]
    exact .inr ⟨fun raises => raises.1 absent, runs_answered rfl run⟩
  | denied configured comparable =>
    have same : refusedResponse settings = fun correlationId =>
        { statusCode := 401
          content := errorDocument "INTERNAL_AUTH_DENIED"
            "GENESIS internal service authentication failed." none correlationId false } :=
      funext fun _ => if_neg configured
    rw [same]
    exact .inr ⟨comparable, runs_answered rfl run⟩
  | incomparable raises =>
    obtain ⟨rfl, rfl⟩ := Dialogue.Runs.done_iff.mp run
    exact .inl ⟨raises, rfl, rfl⟩

end

/-- The service without its token, as it runs in development. -/
def unguarded (service : Service) : Service :=
  { service with settings :=
      { service.settings with
        appEnv := .development
        alosInternalToken := "" } }

/-- An admitted request is answered as if there were no token, and whoever is not
admitted learns nothing but that from the answer, which is the same for every
route, payload, catalog and resolver, as long as the body can be parsed.  A body that
cannot be parsed is answered before the token, the route or the service is looked at. -/
theorem respond_gate (service : Service) (authorization : Option String) :
    (service.settings.Admits authorization → ∀ route,
      service.respond (.internal authorization route) =
        service.unguarded.respond (.internal none route)) ∧
      (¬ service.settings.Admits authorization →
        (∀ other : Service, other.settings = service.settings → ∀ route otherRoute,
          route.Parses → otherRoute.Parses →
            other.respond (.internal authorization otherRoute) =
              service.respond (.internal authorization route)) ∧
        ∀ route t r, route.Parses →
          Dialogue.Runs (service.respond (.internal authorization route)) t r →
            (service.settings.Incomparable authorization ∧ t = [] ∧ r = .error .typeError) ∨
              (¬ service.settings.Incomparable authorization ∧
                ∃ reply, t = [⟨.currentCorrelationId, reply⟩] ∧
                  r = reply.map (refusedResponse service.settings))) ∧
      ∀ route exc, route.parse = .error exc →
        service.respond (.internal authorization route) = handleException exc := by
  refine ⟨?_, ?_, ?_⟩
  · intro admitted route
    have opened : service.unguarded.settings.Admits none := by
      unfold Settings.Admits
      rw [if_pos (show service.unguarded.settings.alosInternalToken = "" from rfl)]
      exact List.mem_cons_self
    unfold respond
    cases parsed : route.parse with
    | error exc => rw [endpoint_of_unparsed parsed, endpoint_of_unparsed parsed]
    | ok _ =>
      rw [endpoint_of_admits parsed admitted, endpoint_of_admits parsed opened]
      cases route <;> rfl
  · intro unlisted
    obtain ⟨exc, refused, refusal⟩ := endpoint_of_not_admits unlisted
    have same (other : Service) (sameSettings : other.settings = service.settings)
        (route : InternalRoute) (parses : route.Parses) :
        other.respond (.internal authorization route) = handleException exc := by
      rw [respond, refused other sameSettings route parses]
      rfl
    refine ⟨?_, ?_⟩
    · intro other sameSettings route otherRoute parses otherParses
      rw [same other sameSettings otherRoute otherParses, same service rfl route parses]
    · intro route t r parses run
      rw [same service rfl route parses] at run
      exact runs_refused refusal run
  · intro route exc unparsed
    rw [respond, endpoint_of_unparsed unparsed]
    rfl

/-- A request is answered with a document of its own, with one of the failures, or, if its
body cannot be read, by the framework, unless an exception leaves the application for one
of five reasons. -/
theorem respond_answers (service : Service) (route : Route) (t : ReadTrace)
    (r : Except PyException Response) (run : Dialogue.Runs (service.respond route) t r) :
    (∃ exc, r = .error exc ∧ Escapes service route t exc) ∨
      ∃ response, r = .ok response ∧ Structured route t response := by
  obtain ⟨t₁, t₂, outcome, rfl, first, rest⟩ := Dialogue.Runs.bind_iff.mp run
  rcases runs_endpoint first with
    ⟨content, rfl⟩ | ⟨exc, rfl, answered⟩ | ⟨rfl, body⟩ | ⟨e, rfl, escapes⟩
  · obtain ⟨rfl, rfl⟩ := Dialogue.Runs.done_iff.mp rest
    exact .inr ⟨_, rfl, .success content⟩
  · rcases runs_handleException answered rest with ⟨e, rfl, unread⟩ | ⟨response, rfl, structured⟩
    · exact .inl ⟨e, rfl, .unread (List.mem_append_right t₁ unread)⟩
    · exact .inr ⟨response, rfl, structured.mono fun _ => List.mem_append_right t₁⟩
  · obtain ⟨rfl, rfl⟩ := Dialogue.Runs.done_iff.mp rest
    exact .inr ⟨_, rfl, .unreadable body⟩
  · obtain ⟨-, rfl⟩ := Dialogue.Runs.done_iff.mp rest
    exact .inl ⟨e, rfl, escapes t₂⟩

/-! ## A request of the tests -/

/-- A middleware that always has this correlation id, and a server that takes every message. -/
def answering (correlationId : String) : (call : AppCall) → Except PyException call.Reply
  | .currentCorrelationId => .ok correlationId
  | .receive => .ok { type := "http.request" }
  | .send _ => .ok ()

def mismatchRoute : Route :=
  .internal (some "Bearer test-only-token")
    (.decideResearchSource (.parsed (.ok (researchPayload "EXTERNAL"))))

/-- The run of a request whose correlation id is not the one of its payload. -/
def mismatchRun : ReadTrace × Except PyException Response :=
  Dialogue.converse (fun _ => answering "corr_header_research_001") []
    (acceptingService.respond mismatchRoute)

theorem respond_answers_mismatch :
    mismatchRun.2.toOption.map Response.statusCode = some 422 ∧
      ∃ response, mismatchRun.2 = .ok response ∧
        Structured mismatchRoute mismatchRun.1 response := by
  have status : mismatchRun.2.toOption.map Response.statusCode = some 422 := by decide +kernel
  refine ⟨status, ?_⟩
  obtain ⟨answer, returned, -⟩ := exists_ok_of_map status
  rcases respond_answers _ _ _ _ (Dialogue.converse_runs _ [] _) with
    ⟨exc, raises, -⟩ | ⟨response, answered, structured⟩
  · cases returned.symm.trans raises
  · exact ⟨response, answered, structured⟩

end Service

end Genesis

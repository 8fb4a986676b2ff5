import Genesis.Capabilities.Factory
import Genesis.ModelGateway
import Genesis.Observability.Correlation
import Genesis.Research.Decision

/-!
# The internal HTTP service

The routes of the service, the check of its token, and the handlers that turn
exceptions into responses.  A request has its `Authorization` header and, on the
two routes with a payload, a body: the framework parses the body before it runs the
check of the token, and validates what it parsed afterwards.

`respond` is one request from its route to its response.  It awaits nothing but
`current_correlation_id`, which the route and the handler of an exception read
separately; `createApp` sends the response to the middleware.
-/

namespace Genesis

open Py

def RESEARCH_ANALYSIS_REQUEST_SCHEMA : String :=
  "https://schemas.alos.dev/v1/research/research-analysis-request.schema.json"

/-! ## Settings -/

inductive AppEnv : Type
  | development
  | test
  | staging
  | production
  deriving DecidableEq

/-- The settings the service reads. -/
structure Settings where
  appEnv : AppEnv := .development
  alosBackendBaseUrl : String := "http://localhost:8000"
  alosInternalToken : String := ""
  alosContractsPath : Option String := none

/-! ## Exceptions -/

/-- `InternalAuthError` and `InternalBoundaryError` have these fields. -/
structure ServiceError where
  code : String
  message : String
  statusCode : ℕ
  deriving DecidableEq

/-- A part of the `loc` of a validation error. -/
inductive LocPart : Type
  | key (name : String)
  | index (i : ℕ)
  deriving DecidableEq

def LocPart.str : LocPart → String
  | .key name => name
  | .index i => toString i

/-- One of `exc.errors()`. -/
structure ValidationDetail where
  loc : List LocPart
  msg : String
  type : String
  deriving DecidableEq

/-- What a route raises, or the framework for it. -/
inductive ServiceException : Type
  | internalAuthError (error : ServiceError)
  | internalBoundaryError (error : ServiceError)
  | requestValidationError (errors : List ValidationDetail)
  | httpException (statusCode : ℕ) (detail : String)
  | researchDecisionFailure (failure : ResearchDecisionFailure)
  | python (exc : PyException)
  deriving DecidableEq

def boundary {α : Type} (code message : String) (statusCode : ℕ) : Except ServiceException α :=
  .error (.internalBoundaryError { code, message, statusCode })

/-- An exception of Python's own, or of a library. -/
def raised {α : Type} (x : Except PyException α) : Except ServiceException α :=
  x.mapError .python

/-- `except (ContractValidationError, ValueError) as exc: raise InternalBoundaryError(…)`. -/
def asBoundary (platform : Platform) (code : String) {α : Type} :
    Except ServiceException α → Except ServiceException α
  | .error (.python exc) =>
    if exc.isValueError then boundary code (platform.strOfException exc) 422
    else .error (.python exc)
  | outcome => outcome

/-! ## The token of the service -/

/-- `secrets.compare_digest`, which refuses text outside ASCII. -/
def compareDigest (a b : String) : Except PyException Bool :=
  if (a.toList.all fun c => c.toNat < 128) && b.toList.all fun c => c.toNat < 128 then
    .ok (a = b)
  else .error .typeError

/-- `verify_service_token`. -/
def verifyServiceToken (settings : Settings) (authorization : Option String) :
    Except ServiceException Unit :=
  let denied : ServiceException := .internalAuthError
    { code := "INTERNAL_AUTH_DENIED"
      message := "GENESIS internal service authentication failed."
      statusCode := 401 }
  if settings.alosInternalToken = "" then
    if settings.appEnv ∈ [AppEnv.development, .test] then .ok ()
    else .error (.internalAuthError
      { code := "INTERNAL_AUTH_NOT_CONFIGURED"
        message := "GENESIS internal service authentication is not configured."
        statusCode := 503 })
  else
    match authorization with
    | none => .error denied
    | some header => do
      let same ← raised (compareDigest header ("Bearer " ++ settings.alosInternalToken))
      if same then .ok () else .error denied

/-! ## Requests and responses -/

/-- What the framework makes of a body: `json.loads` raises `JSONDecodeError` at a
position, reading or parsing it fails in any other way, or it is parsed and found to be
the payload, or to be wrong. -/
inductive Body (α : Type) : Type
  | jsonInvalid (position : ℕ)
  | unreadable
  | parsed (validated : Except (List ValidationDetail) α)

/-- What is left of a body that could be parsed. -/
def Body.parse {α : Type} :
    Body α → Except ServiceException (Except (List ValidationDetail) α)
  | .jsonInvalid position => .error (.requestValidationError
      [{ loc := [.key "body", .index position], msg := "JSON decode error",
         type := "json_invalid" }])
  | .unreadable => .error (.httpException 400 "There was an error parsing the body")
  | .parsed validated => .ok validated

/-- The routes that ask for the token of the service. -/
inductive InternalRoute : Type
  | internalHealth
  | systemInfo
  | integrationDiagnostic
  | analyzeFactory (body : Body FactoryAnalysisRequest)
  | decideResearchSource (body : Body JsonObject)

/-- Only the two routes with a payload have a body to parse. -/
def InternalRoute.parse : InternalRoute → Except ServiceException Unit
  | .analyzeFactory body => body.parse.map fun _ => ()
  | .decideResearchSource body => body.parse.map fun _ => ()
  | _ => .ok ()

inductive Route : Type
  | health
  | ready
  | internal (authorization : Option String) (route : InternalRoute)

/-- The content of a response: a JSON document, or a result the framework renders. -/
inductive Content : Type
  | json (document : JsonObject)
  | factory (result : FactoryAnalysisResult)
  deriving DecidableEq

structure Response where
  statusCode : ℕ := 200
  content : Content
  deriving DecidableEq

/-- What a request depends on besides itself; `loadCatalog` is `CanonicalContractCatalog`
of the files at a path. -/
structure Service where
  platform : Platform
  settings : Settings
  resolver : CapabilityResolver
  loadCatalog : String → Except PyException CanonicalContractCatalog

namespace Service

/-! ## Routes -/

/-- `health` and `internal_health`. -/
def health : Content := .json [("status", .str "ok")]

def ready (service : Service) : Content :=
  .json [("status", .str "ready"), ("provider_required", .bool false),
    ("backend_configured", .bool (service.settings.alosBackendBaseUrl ≠ ""))]

def systemInfo : Content :=
  .json [("service", .str "genesis-ai"), ("version", .str "0.1.0"),
    ("role", .str "AI_CONTROL_PLANE"), ("authoritative_business_state", .bool false)]

def integrationDiagnostic (correlationId : String) : Content :=
  .json [("service", .str "genesis-ai"), ("status", .str "reachable"),
    ("role", .str "AI_CONTROL_PLANE"), ("authoritative_business_state", .bool false),
    ("provider_required", .bool false), ("correlation_id", .str correlationId)]

def correlationMismatch {α : Type} : Except ServiceException α :=
  boundary "CORRELATION_ID_MISMATCH" "Payload correlation_id must match X-Correlation-ID." 422

/-- `settings.ALOS_CONTRACTS_PATH`, which contract validation needs. -/
def contractsPath (service : Service) (purpose : String) : Except ServiceException String :=
  match service.settings.alosContractsPath with
  | none =>
    boundary "CONTRACT_CATALOG_NOT_CONFIGURED"
      ("ALOS_CONTRACTS_PATH is required for " ++ purpose ++ " contract validation.") 503
  | some path => .ok path

/-- `analyze_factory`. -/
def analyzeFactory (service : Service) (payload : FactoryAnalysisRequest)
    (correlationId : String) : Except ServiceException Content :=
  if payload.requirement.executionContext.correlationId ≠ correlationId then correlationMismatch
  else do
    let path ← service.contractsPath "factory"
    asBoundary service.platform "FACTORY_CONTRACT_INVALID" (do
      let contracts ← raised (service.loadCatalog path)
      let factory : CapabilityFactory :=
        { platform := service.platform, contracts, resolver := service.resolver }
      let result ← raised (factory.analyze payload)
      pure (.factory result))

/-! ### The decision about a research source -/

/-- `tuple(str(item) for item in value)`. -/
def strElements (platform : Platform) (value : Json) : Except PyException (List String) :=
  match value.iterate? with
  | none => .error .typeError
  | some items => .ok (items.map platform.str)

/-- `float(value)`. -/
def toFloat (platform : Platform) : Json → Except PyException ℚ
  | .int n =>
    match floatOfInt? n with
    | some q => .ok q
    | none => .error (.other "OverflowError")
  | .bool b => .ok (if b then 1 else 0)
  | .float q => .ok q
  | .str s =>
    match platform.floatOfStr s with
    | some q => .ok q
    | none => .error (.valueError ("could not convert string to float: " ++ s))
  | _ => .error .typeError

/-- The cost limit of the budget in an execution context; without one it is zero. -/
def maximumCost (platform : Platform) (context : JsonObject) : Except PyException ℚ :=
  match (context.get? "execution_budget").getD (.obj []) with
  | .obj budget => toFloat platform ((Dict.get? budget "max_cost").getD (.int 0))
  | _ => .ok 0

def researchDomain? : Json → Option ResearchDomain
  | .str s =>
    [ResearchDomain.technology, .propertyBusiness, .management, .propertyMarket].find?
      fun domain => domain.value = s
  | _ => none

/-- The values the route reads from a validated payload. -/
structure ResearchArguments where
  correlationId : String
  domain : Json
  question : String
  dataClassification : Json
  scopes : List String
  permissions : List String
  tools : List String
  externalRequested : Bool
  maximumCost : ℚ
  deriving DecidableEq

/-- Everything the route reads once the correlation ids agree. -/
def readArguments (platform : Platform) (validated context : JsonObject)
    (correlationId : String) : Except PyException ResearchArguments := do
  let permissions ← strElements platform ((context.get? "permission_refs").getD (.arr []))
  let tools ← strElements platform ((context.get? "allowed_tool_ids").getD (.arr []))
  let scopeRefs ← item context "scope_refs"
  let scopes ← strElements platform scopeRefs
  let maximumCost ← maximumCost platform context
  let sourceMode ← item validated "source_mode"
  let domain ← item validated "domain"
  let question ← item validated "question"
  let dataClassification ← item context "data_classification"
  pure
    { correlationId, domain, question := platform.str question, dataClassification, scopes
      permissions, tools, externalRequested := sourceMode = .str "EXTERNAL", maximumCost }

/-- `ResearchDecisionRequest(...)`, as the route fills it in. -/
def decisionRequest (arguments : ResearchArguments) : Except PyException ResearchDecisionRequest :=
  match researchDomain? arguments.domain, classification? arguments.dataClassification with
  | some domain, some dataClassification =>
    construct "ResearchDecisionRequest" fun wellFormed : IdLength arguments.correlationId ∧
        1 ≤ arguments.question.length ∧ arguments.scopes ≠ [] ∧
          0 ≤ (arguments.maximumCost : Cost) =>
      { correlationId := arguments.correlationId
        domain
        question := arguments.question
        risk := .medium
        dataClassification
        authorizedScopeRefs := arguments.scopes
        authorizedPermissionRefs := arguments.permissions
        allowedToolIds := arguments.tools
        informationComplete := true
        external := { enabled := arguments.externalRequested }
        maximumExternalCost := arguments.maximumCost
        wellFormed }
  | _, _ => .error (.validationError "ResearchDecisionRequest")

/-- `ExternalResearchDecider(...).decide(request).as_canonical()`. -/
def decideCanonical (contracts : CanonicalContractCatalog) (request : ResearchDecisionRequest) :
    Except ServiceException JsonObject :=
  match ExternalResearchDecider.decide ⟨contracts⟩ request with
  | .ok decision => .ok decision.canonicalResearchDecision
  | .error (.failure failure) => .error (.researchDecisionFailure failure)
  | .error (.python exc) => .error (.python exc)

/-- The body of the `try` of `decide_research_source`. -/
def decideResearch (service : Service) (path : String) (payload : JsonObject)
    (correlationId : String) : Except ServiceException Content := do
  let contracts ← raised (service.loadCatalog path)
  let validated ← raised (contracts.validate RESEARCH_ANALYSIS_REQUEST_SCHEMA payload)
  let value ← raised (item validated "execution_context")
  match value.dict? with
  | none => .error (.python (.valueError "execution_context must be an object"))
  | some context => do
    let correlation ← raised (item context "correlation_id")
    if correlation ≠ .str correlationId then correlationMismatch
    else do
      let arguments ← raised (readArguments service.platform validated context correlationId)
      let request ← raised (decisionRequest arguments)
      let decision ← decideCanonical contracts request
      pure (.json decision)

/-- The exception handlers of `decide_research_source`. -/
def handled (platform : Platform) {α : Type} :
    Except ServiceException α → Except ServiceException α
  | .error (.researchDecisionFailure failure) => boundary failure.code failure.message 422
  | outcome => asBoundary platform "RESEARCH_CONTRACT_INVALID" outcome

/-- `decide_research_source`. -/
def decideResearchSource (service : Service) (payload : JsonObject) (correlationId : String) :
    Except ServiceException Content := do
  let path ← service.contractsPath "research"
  handled service.platform (service.decideResearch path payload correlationId)

/-! ## From a request to its response -/

/-- A program of the service. -/
abbrev AppM (α : Type) : Type := Dialogue AppCall (fun call => Except PyException call.Reply) α

/-- Read the correlation id, and go on with it. -/
def withCorrelationId {α : Type} (next : String → Except ServiceException α) :
    AppM (Except ServiceException α) :=
  (Dialogue.question AppCall.currentCorrelationId).bind fun reply =>
    .done (raised reply >>= next)

/-- The payload of a body; a body that was found wrong has none. -/
def received {α : Type} (body : Body α) : Except ServiceException α :=
  body.parse >>= fun validated => validated.mapError .requestValidationError

/-- What a route does once the token is checked. -/
def dispatch (service : Service) : InternalRoute → AppM (Except ServiceException Content)
  | .internalHealth => .done (.ok health)
  | .systemInfo => .done (.ok systemInfo)
  | .integrationDiagnostic => withCorrelationId fun correlationId =>
      .ok (integrationDiagnostic correlationId)
  | .analyzeFactory body =>
    match received body with
    | .error exc => .done (.error exc)
    | .ok payload => withCorrelationId (service.analyzeFactory payload)
  | .decideResearchSource body =>
    match received body with
    | .error exc => .done (.error exc)
    | .ok payload => withCorrelationId (service.decideResearchSource payload)

/-- A request up to its content: a body that cannot be parsed ends it before the check of
the token, and one that was found wrong after it. -/
def endpoint (service : Service) : Route → AppM (Except ServiceException Content)
  | .health => .done (.ok health)
  | .ready => .done (.ok service.ready)
  | .internal authorization route =>
    match route.parse >>= fun _ => verifyServiceToken service.settings authorization with
    | .error exc => .done (.error exc)
    | .ok () => service.dispatch route

/-- The document of an error; a validation error has details. -/
def errorDocument (code message : String) (details : Option Json) (correlationId : String)
    (retryable : Bool) : Content :=
  .json ([("code", .str code), ("message", .str message)] ++
    details.toList.map (fun value => ("details", value)) ++
    [("correlation_id", .str correlationId), ("retryable", .bool retryable)])

def ValidationDetail.document (detail : ValidationDetail) : Json :=
  .obj [("path", .str (join "." (detail.loc.map LocPart.str))), ("reason", .str detail.msg),
    ("type", .str detail.type)]

/-- Respond under the correlation id of the request. -/
def answer (response : String → Response) : AppM (Except PyException Response) :=
  (Dialogue.question AppCall.currentCorrelationId).bind fun reply => .done (reply.map response)

/-- The exception handlers of the application, and the one of the framework, which knows no
correlation id; an exception that none of them handles leaves the application. -/
def handleException : ServiceException → AppM (Except PyException Response)
  | .internalAuthError error => answer fun correlationId =>
      { statusCode := error.statusCode
        content := errorDocument error.code error.message none correlationId false }
  | .internalBoundaryError error => answer fun correlationId =>
      { statusCode := error.statusCode
        content := errorDocument error.code error.message none correlationId
          (500 ≤ error.statusCode) }
  | .requestValidationError errors => answer fun correlationId =>
      { statusCode := 422
        content := errorDocument "REQUEST_VALIDATION_FAILED"
          "Request does not satisfy the canonical service contract."
          (some (.obj [("errors", .arr (errors.map ValidationDetail.document))]))
          correlationId false }
  | .httpException statusCode detail =>
    .done (.ok { statusCode, content := .json [("detail", .str detail)] })
  | .researchDecisionFailure _ => .done (.error (.other "ResearchDecisionFailure"))
  | .python exc => .done (.error exc)

/-- A request from its route to its response, or to the exception that leaves the application. -/
def respond (service : Service) (route : Route) : AppM (Except PyException Response) :=
  (service.endpoint route).bind fun outcome =>
    match outcome with
    | .ok content => .done (.ok { content })
    | .error exc => handleException exc

/-- How the framework renders a content: the headers and the body of the response. -/
structure Rendering where
  headers : Content → List Header
  body : Content → Json

/-- The two messages of a response. -/
def messages (rendering : Rendering) (response : Response) : List Message :=
  [{ type := "http.response.start"
     headers := rendering.headers response.content
     fields := [("status", .int response.statusCode)] },
    { type := "http.response.body"
      fields := [("body", rendering.body response.content)] }]

/-- Send the messages one after another. -/
def sendAll : List Message → AppM (Except PyException Unit)
  | [] => .done (.ok ())
  | message :: rest => (Dialogue.question (AppCall.send message)).bind fun sent =>
      match sent with
      | .error exc => .done (.error exc)
      | .ok _ => sendAll rest

/-- The application `create_app` puts behind the middleware, for a request on this route. -/
def createApp (service : Service) (rendering : Rendering) (route : Route) : ASGIApp := fun _ =>
  (service.respond route).bind fun outcome =>
    match outcome with
    | .error exc => .done (.error exc)
    | .ok response => sendAll (messages rendering response)

end Service

end Genesis

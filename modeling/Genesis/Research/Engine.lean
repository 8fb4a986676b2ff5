import Genesis.ModelGateway
import Genesis.Research.Draft

/-!
# The research engine

`ResearchEngine.research` awaits the context provider, when the request carries
no bundle, and the model gateway.  Between the two, `prepare` checks the bundle
and builds the model request; after them, `conclude` turns the draft of the model
into a result.

`runs_research` inverts a run: it ends before the gateway is asked, or it asks
once, about a bundle that was `Acquired` and passed `prepare`.
-/

namespace Genesis

open Py Session

def RESEARCH_REQUEST_SCHEMA : String :=
  "https://schemas.alos.dev/v1/research/research-request.schema.json"

def RESEARCH_RESULT_SCHEMA : String :=
  "https://schemas.alos.dev/v1/research/research-result.schema.json"

/-! ## Ports -/

/-- The calls a `ResearchEngine` awaits. -/
inductive ResearchCall : Type
  | retrieve (runId query : String) (executionContext : JsonObject)
  | complete (request : ModelRequest)

abbrev ResearchCall.Reply : ResearchCall → Type
  | .retrieve _ _ _ => Json
  | .complete _ => ModelResponse

abbrev ResearchM (α : Type) : Type := Session Unit PyException ResearchCall ResearchCall.Reply α

abbrev ResearchEvent : Type :=
  Dialogue.Event ResearchCall fun call => Except PyException call.Reply

abbrev ResearchTrace : Type := List ResearchEvent

def ResearchEvent.retrieved? : ResearchEvent → Option Json
  | ⟨.retrieve _ _ _, .ok context⟩ => some context
  | _ => none

def ResearchEvent.completion? : ResearchEvent → Option ModelRequest
  | ⟨.complete request, _⟩ => some request
  | _ => none

/-- The contexts a provider returned. -/
def ResearchTrace.retrieved (t : ResearchTrace) : List Json := t.filterMap ResearchEvent.retrieved?

/-- The requests the gateway was asked to complete. -/
def ResearchTrace.completions (t : ResearchTrace) : List ModelRequest :=
  t.filterMap ResearchEvent.completion?

theorem ResearchTrace.retrieved_append_completion {t : ResearchTrace} {request : ModelRequest}
    {reply : Except PyException ModelResponse} :
    ResearchTrace.retrieved (t ++ [⟨.complete request, reply⟩]) = t.retrieved := by
  rw [retrieved, List.filterMap_append]
  exact List.append_nil _

/-! ## Prompt -/

/-- `_RESEARCH_PROMPT.render`. -/
def renderResearchPrompt (question contextBundle : String) : String :=
  "Analyze only the supplied ContextBundle. Return JSON with findings, recommendations, " ++
    "and limitations. Every finding must cite one or more evidence_ids from the bundle. " ++
    "Recommendations are backlog candidates only and never approvals or executable commands. " ++
    "Question: " ++ question ++ "\nContextBundle: " ++ contextBundle

structure ResearchEngine where
  platform : Platform
  contracts : CanonicalContractCatalog
  /-- Whether a context provider is configured. -/
  contextProvider : Bool
  /-- The clock when the result is built. -/
  completedAt : String

namespace ResearchEngine

/-! ## The bundle -/

/-- `_validate_context_identity`. -/
def validateContextIdentity (context executionContext : JsonObject) : Except PyException Unit :=
  let fields := ["tenant_id", "organization_id", "workspace_id", "actor_id", "correlation_id"]
  forM fields fun field => do
    let actual ← item context field
    let expected ← item executionContext field
    raiseUnless (actual.pyEq expected = true)
      (.researchOutputInvalid s!"ContextBundle {field} does not match execution context")

/-- A reference under the text of its id. -/
def evidencePair (platform : Platform) (ref : Json) : Except PyException (String × Json) := do
  let evidenceId ← subscript ref "evidence_id"
  pure (platform.str evidenceId, ref)

def evidencePairs (platform : Platform) (context : JsonObject) :
    Except PyException (List (String × Json)) :=
  match ((context.get? "evidence_refs").getD (.arr [])).iterate? with
  | none => .error .typeError
  | some refs => refs.mapM (evidencePair platform)

def evidenceById (platform : Platform) (context : JsonObject) : Except PyException (Dict Json) := do
  let pairs ← evidencePairs platform context
  pure (.ofPairs pairs)

/-! ## The model request -/

/-- The budget's own limit counts when it is an `int`. -/
def maxTokens (executionContext : JsonObject) : Int :=
  match ((executionContext.get? "execution_budget").bind Json.dict?).bind (·.get? "max_tokens") with
  | some (.int n) => min 2000 n
  | some (.bool b) => min 2000 (if b then 1 else 0)
  | _ => 2000

def modelRequest (platform : Platform) (request executionContext context : JsonObject) :
    Except PyException ModelRequest := do
  -- `toNat` sends what is below one to zero, and both violate the budget's minimum
  let maximum := (maxTokens executionContext).toNat
  let question ← item request "question"
  let prompt := renderResearchPrompt (platform.str question) (platform.dumps (.obj context))
  let runId ← item request "run_id"
  let correlationId ← item request "correlation_id"
  let dataClassification ← item executionContext "data_classification"
  let budget ← ExecutionBudget.ofFields { maxTokens := some maximum, maxSteps := some 1 }
  ModelRequest.ofFields dataClassification fun dataClassification =>
    { runId := platform.str runId
      correlationId := platform.str correlationId
      policyRef := "policy.evidence-bound-research.v1"
      purpose := "evidence-bound-research"
      dataClassification
      promptId := some "genesis.research.evidence-bound"
      promptVersion := some "1.0.0"
      messages := [[("role", .str "user"), ("content", .str prompt)]]
      requestedMaxTokens := maximum
      budget }

/-- Everything `research` does between the context and the model call. -/
def prepare (engine : ResearchEngine) (request executionContext : JsonObject) (context : Json) :
    Except PyException (ModelRequest × Dict Json) := do
  raiseUnless (context.dict?.isSome = true)
    (.researchOutputInvalid "context_bundle must be an object")
  let bundle ← asDict context
  let validatedContext ← engine.contracts.validate CONTEXT_BUNDLE_SCHEMA bundle
  validateContextIdentity validatedContext executionContext
  let evidence ← evidenceById engine.platform validatedContext
  raiseUnless (evidence ≠ [])
    (.researchOutputInvalid "Research requires at least one canonical evidence reference")
  let model ← modelRequest engine.platform request executionContext validatedContext
  pure (model, evidence)

/-! ## The result -/

/-- `_references`. -/
def references (evidenceIds : List String) (evidence : Dict Json) :
    Except PyException (List Json) := do
  let unknown := evidenceIds.filter fun evidenceId => (evidence.get? evidenceId).isNone
  let listed := join ", " (unknown.insertionSort (· ≤ ·))
  raiseUnless (unknown = [])
    (.researchOutputInvalid s!"Research draft cites unknown evidence: {listed}")
  evidenceIds.mapM (item evidence)

/-- `_finding`. -/
def finding (evidence : Dict Json) (draft : FindingDraft) : Except PyException JsonObject := do
  let refs ← references draft.evidenceIds evidence
  let optional (key : String) (value : Option String) : JsonObject :=
    value.toList.map fun text => (key, .str text)
  pure ([("finding_id", .str draft.findingId), ("finding_type", .str draft.findingType),
    ("statement", .str draft.statement), ("confidence", .float draft.confidence),
    ("output_state", .str "AI_INFERRED"), ("evidence_refs", .arr refs),
    ("limitations", strTuple draft.limitations)] ++
    optional "domain" draft.domain ++ optional "title" draft.title ++
    optional "severity" draft.severity)

/-- `_recommendation`. -/
def recommendation (evidence : Dict Json) (draft : RecommendationDraft) :
    Except PyException JsonObject := do
  let refs ← references draft.evidenceIds evidence
  pure [("recommendation_id", .str draft.recommendationId), ("summary", .str draft.summary),
    ("recommended_action", .str draft.recommendedAction),
    ("confidence", .float draft.confidence), ("author_type", .str "AI"),
    ("finding_ids", strTuple draft.findingIds), ("evidence_refs", .arr refs),
    ("limitations", strTuple draft.limitations),
    ("backlog_candidate", .bool draft.backlogCandidate)]

/-- `_identifier`. -/
def identifier (platform : Platform) (kind seed : String) : String :=
  let digest := String.ofList ((platform.sha256Hex seed).toList.take 24)
  s!"{kind}_{digest}"

/-- The document `research` returns. -/
def resultDocument (engine : ResearchEngine) (request executionContext : JsonObject)
    (findings recommendations : List JsonObject) (evidenceRefs : List Json)
    (limitations : List String) : Except PyException JsonObject := do
  let researchId ← item request "research_id"
  let runId ← item request "run_id"
  let tenantId ← item executionContext "tenant_id"
  let organizationId ← item executionContext "organization_id"
  let workspaceId ← item executionContext "workspace_id"
  let correlationId ← item request "correlation_id"
  let research := engine.platform.str researchId
  let correlation := engine.platform.str correlationId
  pure [("research_id", researchId), ("run_id", runId), ("tenant_id", tenantId),
    ("organization_id", organizationId), ("workspace_id", workspaceId),
    ("correlation_id", correlationId), ("output_state", .str "NEEDS_REVIEW"),
    ("findings", .arr (findings.map Json.obj)),
    ("recommendations", .arr (recommendations.map Json.obj)),
    ("evidence_bundle", .obj
      [("bundle_id", .str (identifier engine.platform "bundle" s!"{research}:{correlation}")),
        ("tenant_id", tenantId), ("organization_id", organizationId),
        ("workspace_id", workspaceId), ("run_id", runId), ("correlation_id", correlationId),
        ("evidence_refs", .arr evidenceRefs)]),
    ("limitations", strTuple limitations), ("completed_at", .str engine.completedAt)]

/-- The draft in a response. -/
def parseDraft (platform : Platform) (response : ModelResponse) :
    Except PyException ResearchDraft :=
  match ResearchDraft.modelValidateJson platform response.content with
  | .error (.validationError _) =>
    .error (.researchOutputInvalid "ModelGateway returned an invalid research draft")
  | parsed => parsed

/-- Everything `research` does with the response of the model. -/
def conclude (engine : ResearchEngine) (request executionContext : JsonObject)
    (evidence : Dict Json) (response : ModelResponse) : Except PyException JsonObject := do
  let draft ← parseDraft engine.platform response
  let findings ← draft.findings.mapM (finding evidence)
  let recommendations ← draft.recommendations.mapM (recommendation evidence)
  let result ← engine.resultDocument request executionContext findings recommendations
    evidence.values draft.limitations
  engine.contracts.validate RESEARCH_RESULT_SCHEMA result

/-! ## The run -/

/-- The execution context of a request. -/
def executionContext (request : JsonObject) : Except PyException JsonObject := do
  let value ← item request "execution_context"
  raiseUnless (value.dict?.isSome = true) .assertionError
  asDict value

/-- Ask the provider, if there is one. -/
def retrieve (engine : ResearchEngine) (request executionContext : JsonObject) : ResearchM Json :=
  if engine.contextProvider then do
    let runId ← compute (item request "run_id")
    let question ← compute (item request "question")
    await (ResearchCall.retrieve (engine.platform.str runId) (engine.platform.str question)
      executionContext)
  else
    compute (.error (.researchOutputInvalid
      "ResearchRequest requires context_bundle or a Backend context provider"))

/-- The context of the request, or the one the provider retrieves. -/
def acquire (engine : ResearchEngine) (request executionContext : JsonObject) : ResearchM Json :=
  match request.get? "context_bundle" with
  | none | some .null => engine.retrieve request executionContext
  | some context => compute (.ok context)

/-- `research`. -/
def research (engine : ResearchEngine) (payload : JsonObject) : ResearchM JsonObject := do
  let request ← compute (engine.contracts.validate RESEARCH_REQUEST_SCHEMA payload)
  let executionContext ← compute (executionContext request)
  let context ← engine.acquire request executionContext
  let prepared ← compute (engine.prepare request executionContext context)
  let response ← await (ResearchCall.complete prepared.1)
  compute (engine.conclude request executionContext prepared.2 response)

/-! ## Inversion -/

section

variable {engine : ResearchEngine} {payload executionContext bundle : JsonObject}
  {t : ResearchTrace} {context : Json} {model : ModelRequest} {evidence : Dict Json}

/-- The request brings no context: the field is absent or `null`. -/
def NoContext (payload : JsonObject) : Prop :=
  payload.get? "context_bundle" = none ∨ payload.get? "context_bundle" = some .null

/-- The context a run works on, and the calls it took to get it. -/
inductive Acquired (engine : ResearchEngine) (payload executionContext : JsonObject) :
    ResearchTrace → Json → Prop
  | inline {context : Json} :
    payload.get? "context_bundle" = some context → context ≠ .null →
    Acquired engine payload executionContext [] context
  | retrieved {runId question context : Json} :
    NoContext payload → engine.contextProvider = true →
    payload.get? "run_id" = some runId → payload.get? "question" = some question →
    Acquired engine payload executionContext
      [⟨.retrieve (engine.platform.str runId) (engine.platform.str question) executionContext,
        .ok context⟩] context

theorem Acquired.completions_eq_nil
    (acquired : Acquired engine payload executionContext t context) : t.completions = [] := by
  cases acquired <;> rfl

theorem runs_retrieve {r : Except PyException Json} (absent : NoContext payload)
    (run : Runs (engine.retrieve payload executionContext) () t r ()) :
    t.completions = [] ∧ ((∃ e, r = .error e) ∨
      ∃ context, r = .ok context ∧ Acquired engine payload executionContext t context) := by
  unfold retrieve at run
  split at run
  · next provider =>
    rcases runs_compute_bind.mp run with ⟨e, -, rfl, rfl, -⟩ | ⟨runId, hasRun, asking⟩
    · exact ⟨rfl, .inl ⟨e, rfl⟩⟩
    rcases runs_compute_bind.mp asking with ⟨e, -, rfl, rfl, -⟩ | ⟨question, asked, awaiting⟩
    · exact ⟨rfl, .inl ⟨e, rfl⟩⟩
    obtain ⟨rfl, -⟩ := runs_await.mp awaiting
    rw [item_eq_ok_iff] at hasRun asked
    refine ⟨rfl, ?_⟩
    cases r with
    | error e => exact .inl ⟨e, rfl⟩
    | ok context => exact .inr ⟨context, rfl, .retrieved absent provider hasRun asked⟩
  · obtain ⟨rfl, rfl, -⟩ := runs_compute.mp run
    exact ⟨rfl, .inl ⟨_, rfl⟩⟩

/-- Acquiring a context asks the gateway for nothing, and ends in an exception or
with the context. -/
theorem runs_acquire {r : Except PyException Json}
    (run : Runs (engine.acquire payload executionContext) () t r ()) :
    t.completions = [] ∧ ((∃ e, r = .error e) ∨
      ∃ context, r = .ok context ∧ Acquired engine payload executionContext t context) := by
  unfold acquire at run
  split at run
  · next absent => exact runs_retrieve (.inl absent) run
  · next null => exact runs_retrieve (.inr null) run
  · next context nonnull present =>
    obtain ⟨rfl, rfl, -⟩ := runs_compute.mp run
    exact ⟨rfl, .inr ⟨context, rfl, .inline present nonnull⟩⟩

theorem Acquired.runs (acquired : Acquired engine payload executionContext t context) :
    Runs (engine.acquire payload executionContext) () t (.ok context) () := by
  cases acquired with
  | inline present nonnull =>
    unfold acquire
    rw [present]
    cases context with
    | null => exact absurd rfl nonnull
    | _ => exact runs_compute.mpr ⟨rfl, rfl, rfl⟩
  | retrieved absent provider hasRun asked =>
    have branch : engine.acquire payload executionContext =
        engine.retrieve payload executionContext := by
      unfold acquire
      rcases absent with none | null
      · rw [none]
      · rw [null]
    rw [branch, retrieve, if_pos provider]
    refine runs_compute_bind.mpr (.inr ⟨_, item_eq_ok_iff.mpr hasRun, ?_⟩)
    refine runs_compute_bind.mpr (.inr ⟨_, item_eq_ok_iff.mpr asked, ?_⟩)
    exact runs_await.mpr ⟨rfl, rfl⟩

/-- After the calls `t` the engine asks the gateway for `model`, about `bundle`. -/
structure Prepared (engine : ResearchEngine) (payload : JsonObject) (t : ResearchTrace)
    (executionContext bundle : JsonObject) (model : ModelRequest) (evidence : Dict Json) :
    Prop where
  valid : engine.contracts.validate RESEARCH_REQUEST_SCHEMA payload = .ok payload
  context : ResearchEngine.executionContext payload = .ok executionContext
  acquired : Acquired engine payload executionContext t (.obj bundle)
  prepared : engine.prepare payload executionContext (.obj bundle) = .ok (model, evidence)

theorem dict_of_prepare {prepared : ModelRequest × Dict Json}
    (built : engine.prepare payload executionContext context = .ok prepared) :
    ∃ bundle, context = .obj bundle := by
  unfold prepare at built
  rw [check_bind_eq_ok, raiseUnless_eq_ok_iff] at built
  obtain ⟨bundle, dict⟩ := Option.isSome_iff_exists.mp built.1
  exact ⟨bundle, Json.dict?_eq_some_iff.mp dict⟩

/-- A run ends before the gateway is asked, or asks it once and concludes. -/
theorem runs_research {r : Except PyException JsonObject}
    (run : Runs (engine.research payload) () t r ()) :
    (t.completions = [] ∧ ∃ e, r = .error e) ∨
      ∃ before executionContext bundle model evidence reply,
        Prepared engine payload before executionContext bundle model evidence ∧
          t = before ++ [⟨.complete model, reply⟩] ∧
            r = reply.bind (engine.conclude payload executionContext evidence) := by
  rcases runs_compute_bind.mp run with ⟨e, -, rfl, rfl, -⟩ | ⟨request, valid, body⟩
  · exact .inl ⟨rfl, e, rfl⟩
  cases CanonicalContractCatalog.eq_of_validate valid
  rcases runs_compute_bind.mp body with ⟨e, -, rfl, rfl, -⟩ | ⟨executionContext, found, acquiring⟩
  · exact .inl ⟨rfl, e, rfl⟩
  rcases runs_bind.mp acquiring with ⟨e, rfl, head⟩ | ⟨context, s, t₁, t₂, rfl, head, acquired⟩
  · exact .inl ⟨(runs_acquire head).1, e, rfl⟩
  rcases runs_acquire head with ⟨silent, ⟨e, same⟩ | ⟨_, same, source⟩⟩
  · cases same
  cases same
  rcases runs_compute_bind.mp acquired with ⟨e, -, rfl, rfl, -⟩ |
    ⟨⟨model, evidence⟩, built, asking⟩
  · rw [List.append_nil]
    exact .inl ⟨silent, e, rfl⟩
  obtain ⟨bundle, rfl⟩ := dict_of_prepare built
  have prepared : Prepared engine payload t₁ executionContext bundle model evidence :=
    ⟨valid, found, source, built⟩
  rcases runs_await_bind.mp asking with ⟨e, rfl, rfl, -⟩ | ⟨response, t₃, rfl, ending⟩
  · exact .inr ⟨t₁, _, _, _, _, .error e, prepared, rfl, rfl⟩
  · obtain ⟨rfl, rfl, -⟩ := runs_compute.mp ending
    exact .inr ⟨t₁, _, _, _, _, .ok response, prepared, rfl, rfl⟩

/-- The one request of a run is the prepared one. -/
theorem Prepared.completions_eq {reply : Except PyException ModelResponse}
    (prepared : Prepared engine payload t executionContext bundle model evidence) :
    ResearchTrace.completions (t ++ [⟨.complete model, reply⟩]) = [model] := by
  rw [ResearchTrace.completions, List.filterMap_append]
  exact congrArg (· ++ [model]) prepared.acquired.completions_eq_nil

/-- The gateway is asked for nothing else: a bundle is acquired without it. -/
theorem Prepared.eq_of_mem {reply other : Except PyException ModelResponse} {asked : ModelRequest}
    (prepared : Prepared engine payload t executionContext bundle model evidence)
    (member : ⟨.complete asked, other⟩ ∈ t ++ [⟨.complete model, reply⟩]) :
    asked = model ∧ other = reply := by
  rcases List.mem_append.mp member with early | last
  · have completed : asked ∈ t.completions := List.mem_filterMap.mpr ⟨_, early, rfl⟩
    rw [prepared.acquired.completions_eq_nil] at completed
    cases completed
  · cases List.mem_singleton.mp last
    exact ⟨rfl, rfl⟩

/-- A run that returns has asked the gateway once and concluded from its response. -/
theorem runs_research_ok {result : JsonObject}
    (run : Runs (engine.research payload) () t (.ok result) ()) :
    ∃ before executionContext bundle model evidence response,
      Prepared engine payload before executionContext bundle model evidence ∧
        t = before ++ [⟨.complete model, .ok response⟩] ∧
          engine.conclude payload executionContext evidence response = .ok result := by
  rcases runs_research run with ⟨-, e, impossible⟩ |
    ⟨before, executionContext, bundle, model, evidence, reply, prepared, rfl, concluded⟩
  · cases impossible
  cases reply with
  | error e => cases concluded
  | ok response =>
    exact ⟨before, executionContext, bundle, model, evidence, response, prepared, rfl,
      concluded.symm⟩

theorem exists_completion {result : JsonObject}
    (run : Runs (engine.research payload) () t (.ok result) ()) :
    ∃ model, model ∈ t.completions := by
  obtain ⟨before, executionContext, bundle, model, evidence, response, prepared, rfl, -⟩ :=
    runs_research_ok run
  refine ⟨model, ?_⟩
  rw [prepared.completions_eq]
  exact List.mem_singleton_self _

/-- Whatever the gateway replies, the run goes on to its conclusion. -/
theorem Prepared.runs
    (prepared : Prepared engine payload t executionContext bundle model evidence)
    (reply : Except PyException ModelResponse) :
    Runs (engine.research payload) () (t ++ [⟨.complete model, reply⟩])
      (reply.bind (engine.conclude payload executionContext evidence)) () := by
  have asking : Runs (await (ResearchCall.complete model) >>= fun response =>
      compute (engine.conclude payload executionContext evidence response) : ResearchM JsonObject)
      () [⟨.complete model, reply⟩]
      (reply.bind (engine.conclude payload executionContext evidence)) () := by
    cases reply with
    | error e => exact runs_await_bind.mpr (.inl ⟨e, rfl, rfl, rfl⟩)
    | ok response =>
      exact runs_await_bind.mpr (.inr ⟨response, [], rfl, runs_compute.mpr ⟨rfl, rfl, rfl⟩⟩)
  refine runs_compute_bind.mpr (.inr ⟨_, prepared.valid, ?_⟩)
  refine runs_compute_bind.mpr (.inr ⟨_, prepared.context, ?_⟩)
  refine runs_bind.mpr (.inr ⟨_, (), t, _, rfl, prepared.acquired.runs, ?_⟩)
  exact runs_compute_bind.mpr (.inr ⟨_, prepared.prepared, asking⟩)

/-! ## What the checks establish -/

theorem executionContext_eq_ok (found : ResearchEngine.executionContext payload =
    .ok executionContext) : payload.get? "execution_context" = some (.obj executionContext) := by
  unfold ResearchEngine.executionContext at found
  simp only [↓check_bind_eq_ok, except_bind_eq_ok, item_eq_ok_iff, asDict_eq_ok_iff] at found
  rcases found with ⟨_, present, -, rfl⟩
  exact present

theorem prepare_eq_ok
    (built : engine.prepare payload executionContext (.obj bundle) = .ok (model, evidence)) :
    evidenceById engine.platform bundle = .ok evidence ∧ evidence ≠ [] ∧
      modelRequest engine.platform payload executionContext bundle = .ok model := by
  unfold prepare at built
  simp only [↓check_bind_eq_ok, except_bind_eq_ok, raiseUnless_eq_ok_iff,
    asDict_eq_ok_iff, Json.obj.injEq, exists_eq_left'] at built
  obtain ⟨-, context, valid, -, _, found, nonempty, _, asked, same⟩ := built
  cases CanonicalContractCatalog.eq_of_validate valid
  cases same
  exact ⟨found, nonempty, asked⟩

/-- The identity check compares five fields of the bundle with the execution context. -/
theorem validateContextIdentity_eq_ok_iff {context executionContext : JsonObject} :
    validateContextIdentity context executionContext = .ok () ↔
      ∀ field ∈ ["tenant_id", "organization_id", "workspace_id", "actor_id", "correlation_id"],
        ∃ actual, context.get? field = some actual ∧
          ∃ expected, executionContext.get? field = some expected ∧
            actual.pyEq expected = true := by
  simp only [validateContextIdentity, forM_eq_ok_iff, except_bind_eq_ok, item_eq_ok_iff,
    raiseUnless_eq_ok_iff]

theorem identity_of_prepare
    (built : engine.prepare payload executionContext (.obj bundle) = .ok (model, evidence)) :
    validateContextIdentity bundle executionContext = .ok () := by
  unfold prepare at built
  simp only [↓check_bind_eq_ok, except_bind_eq_ok, asDict_eq_ok_iff, Json.obj.injEq,
    exists_eq_left'] at built
  obtain ⟨-, context, valid, identity, -⟩ := built
  cases CanonicalContractCatalog.eq_of_validate valid
  exact identity

/-- A conclusion writes the items of the draft, one by one, into a document that the
schema of results accepts as it is. -/
theorem conclude_eq_ok {response : ModelResponse} {result : JsonObject}
    (concluded : engine.conclude payload executionContext evidence response = .ok result) :
    ∃ draft findings recommendations, parseDraft engine.platform response = .ok draft ∧
      List.Forall₂ (fun item document => finding evidence item = .ok document)
        draft.findings findings ∧
      List.Forall₂ (fun item document => recommendation evidence item = .ok document)
        draft.recommendations recommendations ∧
      engine.resultDocument payload executionContext findings recommendations evidence.values
        draft.limitations = .ok result := by
  simp only [conclude, except_bind_eq_ok, mapM_eq_ok_iff] at concluded
  obtain ⟨draft, parsed, findings, found, recommendations, recommended, document, built, valid⟩ :=
    concluded
  cases CanonicalContractCatalog.eq_of_validate valid
  exact ⟨draft, findings, recommendations, parsed, found, recommended, built⟩

/-- The prompt of the request is the question with this bundle. -/
def Renders (platform : Platform) (payload bundle : JsonObject) (model : ModelRequest) : Prop :=
  ∃ question, payload.get? "question" = some question ∧
    model.messages = [[("role", .str "user"), ("content", .str (renderResearchPrompt
      (platform.str question) (platform.dumps (.obj bundle))))]]

/-- The model request renders the bundle under the label of the execution context. -/
theorem modelRequest_eq_ok {platform : Platform}
    (built : modelRequest platform payload executionContext bundle = .ok model) :
    executionContext.get? "data_classification" = some (.str model.dataClassification.value) ∧
      model.budget.maxTokens = some model.requestedMaxTokens ∧
      Renders platform payload bundle model := by
  simp only [modelRequest, except_bind_eq_ok, item_eq_ok_iff, ExecutionBudget.ofFields_eq_ok_iff,
    ModelRequest.ofFields_eq_ok_iff] at built
  obtain ⟨question, asked, _, -, _, -, _, classified, budget, limits, c, rfl, fields⟩ := built
  have classification : model.dataClassification = c := by rw [fields]
  have maximum : model.budget.maxTokens = some model.requestedMaxTokens := by
    rw [fields]
    dsimp only
    rw [limits]
  rw [classification]
  refine ⟨classified, maximum, question, asked, ?_⟩
  rw [fields]

/-! ## The bundle of a run -/

/-- The bundle comes with the request or, when the request brings no context, from
the provider. -/
def Supplied (payload : JsonObject) (retrieved : List Json) (bundle : JsonObject) : Prop :=
  payload.get? "context_bundle" = some (.obj bundle) ∨
    NoContext payload ∧ .obj bundle ∈ retrieved

/-- A run works on the one bundle supplied to it. -/
theorem Acquired.supplied_iff {other : JsonObject}
    (acquired : Acquired engine payload executionContext t (.obj bundle)) :
    Supplied payload t.retrieved other ↔ other = bundle := by
  have absent_of (none : NoContext payload) (v : JsonObject) :
      payload.get? "context_bundle" ≠ some (.obj v) := by
    intro present
    rcases none with absent | null
    · cases absent.symm.trans present
    · cases null.symm.trans present
  cases acquired with
  | inline present =>
    refine ⟨?_, ?_⟩
    · intro supplied
      rcases supplied with given | ⟨none, -⟩
      · cases given.symm.trans present
        rfl
      · exact absurd present (absent_of none bundle)
    · intro same
      rw [same]
      exact .inl present
  | retrieved none =>
    refine ⟨?_, ?_⟩
    · intro supplied
      rcases supplied with given | ⟨-, member⟩
      · exact absurd given (absent_of none other)
      · cases List.mem_singleton.mp member
        rfl
    · intro same
      rw [same]
      exact .inr ⟨none, List.mem_singleton_self _⟩

/-- A run that asks the gateway works on the bundle it was prepared with. -/
theorem Prepared.supplied_iff {reply : Except PyException ModelResponse} {other : JsonObject}
    (prepared : Prepared engine payload t executionContext bundle model evidence) :
    Supplied payload (ResearchTrace.retrieved (t ++ [⟨.complete model, reply⟩])) other ↔
      other = bundle := by
  rw [ResearchTrace.retrieved_append_completion]
  exact prepared.acquired.supplied_iff

end

end ResearchEngine

end Genesis

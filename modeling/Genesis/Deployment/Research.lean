import Genesis.Deployment.Agent
import Genesis.Memory.Retrieval
import Genesis.Research.Disclosure

/-!
# What leaves a deployed research

Deployed, the research engine retrieves its context through the Backend and asks
its gateway.  What leaves is then at most one POST of the search tool and, after
it, at most one call of a provider; `research_conduct` says under what conditions,
and what the bundle in the prompt is.
-/

namespace Genesis

open Py Session

namespace BackendContextProvider

/-- The POST a retrieval makes. -/
def search (provider : BackendContextProvider) (platform : Platform) (args : RetrieveArguments)
    (correlation : String) : ToolPost :=
  provider.toolClient.post (toolRequest platform args correlation) correlation

variable {platform : Platform} {provider : BackendContextProvider} {args : RetrieveArguments}
  {t : List BackendToolClient.PostEvent} {r : Except PyException JsonObject}

/-- A retrieval makes no POST and raises, or its own POST, which may be made, and
returns only what it retrieved by it. -/
theorem searches_of_runs (run : Dialogue.Runs (retrieve platform provider args) t r) :
    (t = [] ∧ ∃ exc, r = .error exc) ∨ ∃ correlation reply,
      t = [⟨provider.search platform args correlation, reply⟩] ∧
        provider.toolClient.Postable (toolRequest platform args correlation) correlation ∧
        ∀ bundle, r = .ok bundle →
          Retrieved provider correlation ⟨provider.search platform args correlation, reply⟩
            bundle := by
  have whole := run
  unfold retrieve at run
  split at run
  · obtain ⟨rfl, rfl⟩ := Dialogue.Runs.done_iff.mp run
    exact .inl ⟨rfl, _, rfl⟩
  next correlation found =>
  obtain ⟨t₁, t₂, outcome, rfl, executed, ended⟩ := Dialogue.Runs.bind_iff.mp run
  obtain ⟨rfl, rfl⟩ := Dialogue.Runs.done_iff.mp ended
  rw [List.append_nil] at whole ⊢
  rcases BackendToolClient.runs_execute_iff.mp executed with
    ⟨exc, -, rfl, rfl⟩ | ⟨postable, reply, rfl, -⟩
  · exact .inl ⟨rfl, exc, rfl⟩
  refine .inr ⟨correlation, reply, rfl, postable, ?_⟩
  intro bundle returned
  rw [returned] at whole
  obtain ⟨other, event, same, posted, -, retrieved⟩ := retrieved_of_runs whole
  cases found.symm.trans same
  cases posted
  exact retrieved

end BackendContextProvider

structure ResearchDeployment where
  provider : BackendContextProvider
  gateway : GovernedModelGateway

/-- The provider of the context posts to the Backend, and the gateway asks a provider
of models. -/
def ResearchDeployment.serve (platform : Platform) (deployment : ResearchDeployment) :
    (call : ResearchCall) → Dialogue OutsideCall OutsideCall.Reply (Except PyException call.Reply)
  | .retrieve runId query executionContext =>
    ((BackendContextProvider.retrieve platform deployment.provider
      { runId, query, executionContext }).handle fun call =>
        .question (OutsideCall.post call)).bind fun reply => .done (reply.map Json.obj)
  | .complete request =>
    (deployment.gateway.complete request).handle fun call => .question (OutsideCall.invoke call)

namespace ResearchEngine

/-- `research`, in a deployment. -/
def researchOutside (engine : ResearchEngine) (deployment : ResearchDeployment)
    (payload : JsonObject) :
    Dialogue OutsideCall OutsideCall.Reply (Except PyException JsonObject × Unit) :=
  ((engine.research payload).run.run ()).handle (deployment.serve engine.platform)

section

variable (engine : ResearchEngine) (deployment : ResearchDeployment) (payload : JsonObject)

/-- The retrieval a research asks for: its run, its question and its execution context. -/
structure Asks (args : RetrieveArguments) : Prop where
  absent : NoContext payload
  configured : engine.contextProvider = true
  runId : ∃ value, payload.get? "run_id" = some value ∧ args.runId = engine.platform.str value
  query : ∃ value, payload.get? "question" = some value ∧ args.query = engine.platform.str value
  executionContext : payload.get? "execution_context" = some (.obj args.executionContext)
  size : args.limit = 12 ∧ args.maxCharacters = 12000

/-- The event is the POST of the search tool for this retrieval. -/
inductive Searches (args : RetrieveArguments) (correlation : String) : OutsideEvent → Prop
  | mk (asks : Asks engine payload args)
    (postable : deployment.provider.toolClient.Postable
      (BackendContextProvider.toolRequest engine.platform args correlation) correlation)
    (reply : HttpReply) :
    Searches args correlation ⟨.post (deployment.provider.search engine.platform args correlation),
      reply⟩

/-- Where the bundle comes from: the request brings it, or the one POST retrieves it. -/
inductive Sources (bundle : JsonObject) : OutsideTrace → Prop
  | inline (given : payload.get? "context_bundle" = some (.obj bundle)) : Sources bundle []
  | retrieved {args : RetrieveArguments} {correlation : String} {reply : HttpReply}
    (searches : Searches engine deployment payload args correlation
      ⟨.post (deployment.provider.search engine.platform args correlation), reply⟩)
    (retrieved : BackendContextProvider.Retrieved deployment.provider correlation
      ⟨deployment.provider.search engine.platform args correlation, reply⟩ bundle) :
    Sources bundle [⟨.post (deployment.provider.search engine.platform args correlation), reply⟩]

/-- The provider is asked about this bundle: it belongs to the execution context and
has evidence, and the request is within the label and the tokens of the context. -/
structure Consults (bundle : JsonObject) (call : ProviderCall) : Prop where
  admitted : deployment.gateway.selectRoute call.request = .ok call.routeId
  renders : Renders engine.platform payload bundle call.request
  declares : Declares payload call.request.dataClassification
  tokens : call.request.budget.maxTokens = some call.request.requestedMaxTokens
  schema : engine.contracts.validate CONTEXT_BUNDLE_SCHEMA bundle = .ok bundle
  identity : ∃ executionContext : JsonObject,
    payload.get? "execution_context" = some (.obj executionContext) ∧
      validateContextIdentity bundle executionContext = .ok ()
  evidence : ∃ evidence, evidenceById engine.platform bundle = .ok evidence ∧ evidence ≠ []

/-- What may leave a research: nothing, a POST that brings no bundle, or what the bundle
takes and a call of one provider about it. -/
inductive Conduct : OutsideTrace → Prop
  | idle : Conduct []
  | searching {args : RetrieveArguments} {correlation : String} {event : OutsideEvent}
    (searches : Searches engine deployment payload args correlation event) : Conduct [event]
  | consulting {bundle : JsonObject} {before : OutsideTrace} {call : ProviderCall}
    (sources : Sources engine deployment payload bundle before)
    (consults : Consults engine deployment payload bundle call)
    (reply : Except PyException ModelResponse) : Conduct (before ++ [⟨.invoke call, reply⟩])

end

section

variable {engine : ResearchEngine} {deployment : ResearchDeployment}
  {payload executionContext bundle : JsonObject} {t : ResearchTrace} {u : OutsideTrace}

/-- Acquiring a context calls nobody, or the provider of the context once. -/
theorem calls_of_acquire {r : Except PyException Json}
    (run : Runs (engine.acquire payload executionContext) () t r ()) :
    t = [] ∨ ∃ runId question reply, NoContext payload ∧ engine.contextProvider = true ∧
      payload.get? "run_id" = some runId ∧ payload.get? "question" = some question ∧
      t = [⟨.retrieve (engine.platform.str runId) (engine.platform.str question) executionContext,
        reply⟩] := by
  have retrieving (absent : NoContext payload)
      (run : Runs (engine.retrieve payload executionContext) () t r ()) :
      t = [] ∨ ∃ runId question reply, NoContext payload ∧ engine.contextProvider = true ∧
        payload.get? "run_id" = some runId ∧ payload.get? "question" = some question ∧
        t = [⟨.retrieve (engine.platform.str runId) (engine.platform.str question)
          executionContext, reply⟩] := by
    unfold retrieve at run
    split at run
    next configured =>
      rcases runs_compute_bind.mp run with ⟨_, -, silent, -⟩ | ⟨runId, hasRun, asking⟩
      · exact .inl silent
      rcases runs_compute_bind.mp asking with ⟨_, -, silent, -⟩ | ⟨question, asked, awaiting⟩
      · exact .inl silent
      rw [item_eq_ok_iff] at hasRun asked
      exact .inr ⟨runId, question, r, absent, configured, hasRun, asked,
        (runs_await.mp awaiting).1⟩
    · exact .inl (runs_compute.mp run).1
  unfold acquire at run
  split at run
  next absent => exact retrieving (.inl absent) run
  next null => exact retrieving (.inr null) run
  · exact .inl (runs_compute.mp run).1

/-- A research that does not ask the gateway has at most asked for a context. -/
theorem calls_of_research {r : Except PyException JsonObject}
    (run : Runs (engine.research payload) () t r ()) (unasked : t.completions = []) :
    t = [] ∨ ∃ executionContext runId question reply, NoContext payload ∧
      engine.contextProvider = true ∧
      ResearchEngine.executionContext payload = .ok executionContext ∧
      payload.get? "run_id" = some runId ∧ payload.get? "question" = some question ∧
      t = [⟨.retrieve (engine.platform.str runId) (engine.platform.str question) executionContext,
        reply⟩] := by
  rcases runs_compute_bind.mp run with ⟨_, -, silent, -⟩ | ⟨request, valid, body⟩
  · exact .inl silent
  cases CanonicalContractCatalog.eq_of_validate valid
  rcases runs_compute_bind.mp body with ⟨_, -, silent, -⟩ | ⟨executionContext, found, acquiring⟩
  · exact .inl silent
  have only {t' : ResearchTrace} {r' : Except PyException Json}
      (run : Runs (engine.acquire payload executionContext) () t' r' ()) :
      t' = [] ∨ ∃ executionContext runId question reply, NoContext payload ∧
        engine.contextProvider = true ∧
        ResearchEngine.executionContext payload = .ok executionContext ∧
        payload.get? "run_id" = some runId ∧ payload.get? "question" = some question ∧
        t' = [⟨.retrieve (engine.platform.str runId) (engine.platform.str question)
          executionContext, reply⟩] := by
    rcases calls_of_acquire run with silent | ⟨runId, question, reply, absent, configured, rest⟩
    · exact .inl silent
    · exact .inr ⟨executionContext, runId, question, reply, absent, configured, found, rest⟩
  rcases runs_bind.mp acquiring with ⟨_, -, head⟩ | ⟨context, s, t₁, t₂, rfl, head, acquired⟩
  · exact only head
  rcases runs_compute_bind.mp acquired with ⟨_, -, rfl, -⟩ | ⟨prepared, -, asking⟩
  · rw [List.append_nil]
    exact only head
  · rw [ResearchTrace.completions, List.filterMap_append] at unasked
    rcases runs_await_bind.mp asking with ⟨_, rfl, -⟩ | ⟨_, _, rfl, -⟩
    · exact absurd unasked (List.append_ne_nil_of_right_ne_nil _ (List.cons_ne_nil _ _))
    · exact absurd unasked (List.append_ne_nil_of_right_ne_nil _ (List.cons_ne_nil _ _))

/-- A served retrieval makes at most its own POST. -/
theorem searches_of_served {args : RetrieveArguments} {r : Except PyException Json}
    (asks : Asks engine payload args)
    (served : Dialogue.Runs (deployment.serve engine.platform
      (.retrieve args.runId args.query args.executionContext)) u r) :
    (u = [] ∧ ∃ exc, r = .error exc) ∨ ∃ correlation reply,
      u = [⟨.post (deployment.provider.search engine.platform args correlation), reply⟩] ∧
        Searches engine deployment payload args correlation
          ⟨.post (deployment.provider.search engine.platform args correlation), reply⟩ ∧
        ∀ bundle, r = .ok (.obj bundle) →
          BackendContextProvider.Retrieved deployment.provider correlation
            ⟨deployment.provider.search engine.platform args correlation, reply⟩ bundle := by
  have same : { runId := args.runId, query := args.query
                executionContext := args.executionContext } = args := by
    obtain ⟨limit, maxCharacters⟩ := asks.size
    cases args
    cases limit
    cases maxCharacters
    rfl
  unfold ResearchDeployment.serve at served
  dsimp only at served
  rw [same] at served
  obtain ⟨u₁, u₂, outcome, rfl, handled, ended⟩ := Dialogue.Runs.bind_iff.mp served
  obtain ⟨rfl, rfl⟩ := Dialogue.Runs.done_iff.mp ended
  obtain ⟨t, retrieving, serves⟩ := Dialogue.Runs.of_handle handled
  rw [List.append_nil]
  rcases BackendContextProvider.searches_of_runs retrieving with
    ⟨rfl, exc, rfl⟩ | ⟨correlation, reply, rfl, postable, returns⟩
  · cases serves
    exact .inl ⟨rfl, exc, rfl⟩
  · cases serves with
    | cons sent rest =>
      cases rest
      cases Dialogue.Runs.question_iff.mp sent
      rw [List.append_nil]
      refine .inr ⟨correlation, reply, rfl, .mk asks postable reply, ?_⟩
      intro bundle returned
      cases outcome with
      | error exc => cases returned
      | ok document =>
        cases returned
        exact returns bundle rfl

theorem schema_of_prepare {model : ModelRequest} {evidence : Dict Json}
    (built : engine.prepare payload executionContext (.obj bundle) = .ok (model, evidence)) :
    engine.contracts.validate CONTEXT_BUNDLE_SCHEMA bundle = .ok bundle := by
  unfold prepare at built
  simp only [↓check_bind_eq_ok, except_bind_eq_ok, asDict_eq_ok_iff, Json.obj.injEq,
    exists_eq_left'] at built
  obtain ⟨-, context, valid, -⟩ := built
  cases CanonicalContractCatalog.eq_of_validate valid
  exact valid

theorem asks_of_found {runId question : Json} (absent : NoContext payload)
    (configured : engine.contextProvider = true)
    (found : ResearchEngine.executionContext payload = .ok executionContext)
    (hasRun : payload.get? "run_id" = some runId)
    (asked : payload.get? "question" = some question) :
    Asks engine payload
      { runId := engine.platform.str runId
        query := engine.platform.str question
        executionContext } :=
  ⟨absent, configured, ⟨runId, hasRun, rfl⟩, ⟨question, asked, rfl⟩,
    executionContext_eq_ok found, rfl, rfl⟩

/-- What leaves while a bundle is acquired is where it comes from. -/
theorem Acquired.sources
    (found : ResearchEngine.executionContext payload = .ok executionContext)
    (acquired : Acquired engine payload executionContext t (.obj bundle))
    (serves : Dialogue.Serves (deployment.serve engine.platform) t u) :
    Sources engine deployment payload bundle u := by
  cases acquired with
  | inline given =>
    cases serves
    exact .inline given
  | retrieved absent configured hasRun asked =>
    have asks := asks_of_found absent configured found hasRun asked
    cases serves with
    | cons served rest =>
      cases rest
      rw [List.append_nil]
      rcases searches_of_served asks served with ⟨-, exc, impossible⟩ |
        ⟨correlation, reply, rfl, searches, returns⟩
      · cases impossible
      · exact .retrieved searches (returns bundle rfl)

/-- What leaves a research that does not ask the gateway. -/
theorem conduct_of_unasked {r : Except PyException JsonObject}
    (run : Runs (engine.research payload) () t r ()) (unasked : t.completions = [])
    (serves : Dialogue.Serves (deployment.serve engine.platform) t u) :
    Conduct engine deployment payload u := by
  rcases calls_of_research run unasked with rfl |
    ⟨executionContext, runId, question, reply, absent, configured, found, hasRun, asked, rfl⟩
  · cases serves
    exact .idle
  have asks := asks_of_found absent configured found hasRun asked
  cases serves with
  | cons served rest =>
    cases rest
    rw [List.append_nil]
    rcases searches_of_served asks served with ⟨rfl, -⟩ | ⟨correlation, reply, rfl, searches, -⟩
    · exact .idle
    · exact .searching searches

/-- What leaves a research that asks the gateway, and how it can still return. -/
theorem Prepared.conduct {model : ModelRequest} {evidence : Dict Json}
    {reply : Except PyException ModelResponse}
    (prepared : Prepared engine payload t executionContext bundle model evidence)
    (serves : Dialogue.Serves (deployment.serve engine.platform)
      (t ++ [⟨.complete model, reply⟩]) u) :
    Conduct engine deployment payload u ∧
      ∀ response, reply = .ok response → ∃ call, ⟨.invoke call, .ok response⟩ ∈ u := by
  obtain ⟨v, w, rfl, acquiring, completing⟩ := Dialogue.Serves.of_append serves
  have sources := prepared.acquired.sources prepared.context acquiring
  obtain ⟨found, nonempty, asked⟩ := prepare_eq_ok prepared.prepared
  obtain ⟨label, tokens, renders⟩ := modelRequest_eq_ok asked
  have given := executionContext_eq_ok prepared.context
  cases completing with
  | cons completed rest =>
    cases rest
    rw [List.append_nil]
    rcases GovernedModelGateway.runs_handle_complete.mp completed with
      ⟨e, -, rfl, rfl⟩ | ⟨routeId, admitted, invoked⟩
    · rw [List.append_nil]
      refine ⟨?_, nofun⟩
      cases sources with
      | inline => exact .idle
      | retrieved searches => exact .searching searches
    · cases Dialogue.Runs.question_iff.mp invoked
      refine ⟨.consulting sources ⟨admitted, renders, ⟨executionContext, given, label⟩, tokens,
        schema_of_prepare prepared.prepared,
        ⟨executionContext, given, identity_of_prepare prepared.prepared⟩,
        ⟨evidence, found, nonempty⟩⟩ reply, ?_⟩
      intro response same
      subst same
      exact ⟨_, List.mem_append_right v List.mem_cons_self⟩

variable {outcome : Except PyException JsonObject × Unit}

theorem conduct_of_runs
    (run : Dialogue.Runs (engine.researchOutside deployment payload) u outcome) :
    Conduct engine deployment payload u := by
  obtain ⟨t, outer, serves⟩ := Dialogue.Runs.of_handle run
  rcases runs_research outer with ⟨unasked, -⟩ |
    ⟨before, executionContext, bundle, model, evidence, reply, prepared, rfl, -⟩
  · exact conduct_of_unasked outer unasked serves
  · exact (prepared.conduct serves).1

/-- What a research returns is concluded from the answer of a provider. -/
theorem answered_of_returned {result : JsonObject}
    (run : Dialogue.Runs (engine.researchOutside deployment payload) u outcome)
    (returned : outcome.1 = .ok result) :
    ∃ call response, ⟨.invoke call, .ok response⟩ ∈ u := by
  obtain ⟨t, outer, serves⟩ := Dialogue.Runs.of_handle run
  rcases runs_research outer with ⟨-, e, raises⟩ |
    ⟨before, executionContext, bundle, model, evidence, reply, prepared, rfl, concluded⟩
  · cases returned.symm.trans raises
  cases reply with
  | error e => cases returned.symm.trans concluded
  | ok response =>
    obtain ⟨call, member⟩ := (prepared.conduct serves).2 response rfl
    exact ⟨call, response, member⟩

end

/-- Whatever Backend and provider reply, a deployed research makes at most one POST, of
the search tool and only when its request brings no context, and asks a provider at
most once, afterwards, about a bundle that the request brought or the POST retrieved
and that belongs to the execution context.  What it returns is concluded from the
answer of the provider. -/
theorem research_conduct (engine : ResearchEngine) (deployment : ResearchDeployment)
    (payload : JsonObject) (u : OutsideTrace) (outcome : Except PyException JsonObject × Unit)
    (run : Dialogue.Runs (engine.researchOutside deployment payload) u outcome) :
    Conduct engine deployment payload u ∧ ∀ result, outcome.1 = .ok result →
      ∃ call response, ⟨.invoke call, .ok response⟩ ∈ u :=
  ⟨conduct_of_runs run, fun _ => answered_of_returned run⟩

/-! ## A research without a bundle -/

def searchingEngine : ResearchEngine := { policyEngine with contextProvider := true }

def policyDeployed : ResearchDeployment where
  provider := BackendContextProvider.openProvider
  gateway := policyGateway

/-- The request of the tests, without its bundle. -/
def bundlelessRequest : JsonObject :=
  (policyRequest []).filter fun field => field.1 ≠ "context_bundle"

/-- A Backend that finds the bundle, and a provider that answers with a draft. -/
def searchReply : (call : OutsideCall) → call.Reply
  | .plan _ _ => .error .timeoutError
  | .post _ =>
    .response 200 (.ok (.obj [("correlation_id", .str "corr_research_001"),
      ("status", .str "SUCCESS"),
      ("output", .obj (policyBundle "tenant_research_001" "INTERNAL"))]))
  | .invoke _ =>
    .ok { content := policyEngine.platform.dumps policyDraft, routeId := "deterministic-test",
          inputTokens := 10, outputTokens := 20 }

def searchingRun : OutsideTrace × Except PyException JsonObject × Unit :=
  (searchingEngine.researchOutside policyDeployed bundlelessRequest).converse
    (fun _ => searchReply) []

theorem research_conduct_searching :
    searchingRun.1.length = 2 ∧
      Conduct searchingEngine policyDeployed bundlelessRequest searchingRun.1 ∧
      ∃ call response, ⟨.invoke call, .ok response⟩ ∈ searchingRun.1 := by
  have length : searchingRun.1.length = 2 := by decide +kernel
  have state : searchingRun.2.1.toOption.map (fun result => result.get? "output_state") =
      some (some (.str "NEEDS_REVIEW")) := by
    decide +kernel
  obtain ⟨result, returned, -⟩ := exists_ok_of_map state
  obtain ⟨conduct, answered⟩ := research_conduct searchingEngine policyDeployed bundlelessRequest
    searchingRun.1 searchingRun.2 (Dialogue.converse_runs _ [] _)
  exact ⟨length, conduct, answered result returned⟩

end ResearchEngine

end Genesis

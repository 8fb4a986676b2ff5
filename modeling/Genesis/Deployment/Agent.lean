import Genesis.Agentic.Spending
import Genesis.Agentic.ToolClient

/-!
# What leaves a deployed agent run

A deployment gives the engine its `BackendToolClient` and its
`GovernedModelGateway`.  What then still leaves the process is a call of the
planner, POSTs to the Backend, and a call of a provider.  `Conduct` lists the
sequences of these that are in order, and `run_conduct` says that a run makes no
other, whatever planner, Backend and provider reply.
-/

namespace Genesis

open Py Session

/-! ## The deployment -/

/-- The calls that leave a deployment. -/
inductive OutsideCall : Type
  | plan (definition : AgentDefinition) (request : JsonObject)
  | post (call : ToolPost)
  | invoke (call : ProviderCall)

abbrev OutsideCall.Reply : OutsideCall → Type
  | .plan _ _ => Except PyException ExecutionPlan
  | .post _ => HttpReply
  | .invoke _ => Except PyException ModelResponse

abbrev OutsideEvent : Type := Dialogue.Event OutsideCall OutsideCall.Reply

abbrev OutsideTrace : Type := List OutsideEvent

structure Deployment where
  client : BackendToolClient
  gateway : GovernedModelGateway

/-- The tool client posts to the Backend, and the gateway asks a provider. -/
def Deployment.serve (deployment : Deployment) : (call : AgentCall) →
    Dialogue OutsideCall OutsideCall.Reply (Except PyException call.Reply)
  | .plan definition request => .question (OutsideCall.plan definition request)
  | .execute payload correlationId =>
    (deployment.client.execute payload correlationId).handle fun call =>
      .question (OutsideCall.post call)
  | .complete request =>
    (deployment.gateway.complete request).handle fun call => .question (OutsideCall.invoke call)

/-! ## Posts -/

namespace BackendToolClient

/-- The payload satisfies the schema of tool requests, and the correlation id is the
one of its execution context. -/
structure Postable (client : BackendToolClient) (payload : JsonObject) (correlationId : String) :
    Prop where
  schema : client.contracts.requestError payload = none
  correlationId : ∃ context : JsonObject, payload.get? "execution_context" = some (.obj context) ∧
    context.get? "correlation_id" = some (.str correlationId)

variable {client : BackendToolClient} {payload : JsonObject} {correlationId : String}

theorem checkRequest_eq_ok_iff :
    client.checkRequest payload correlationId = .ok () ↔ client.Postable payload correlationId := by
  unfold checkRequest ToolBoundaryContracts.validateRequest
  simp only [↓check_bind_eq_ok, except_bind_eq_ok, check_eq_ok_iff, item_eq_ok_iff,
    raiseUnless_eq_ok_iff, asDict_eq_ok_iff]
  refine ⟨?_, ?_⟩
  · rintro ⟨schema, _, found, -, context, rfl, _, correlated, rfl⟩
    exact ⟨schema, context, found, correlated⟩
  · rintro ⟨schema, context, found, correlated⟩
    exact ⟨schema, _, found, rfl, context, rfl, _, correlated, rfl⟩

/-- A call that raises before its POST makes none; every other one posts a payload
that may be posted, and reads the reply. -/
theorem runs_execute_iff {t : List PostEvent} {r : Except PyException JsonObject} :
    Dialogue.Runs (client.execute payload correlationId) t r ↔
      (∃ exc, client.checkRequest payload correlationId = .error exc ∧ t = [] ∧ r = .error exc) ∨
        client.Postable payload correlationId ∧ ∃ reply,
          t = [⟨client.post payload correlationId, reply⟩] ∧
            r = client.readReply correlationId reply := by
  rw [← checkRequest_eq_ok_iff]
  unfold execute
  cases client.checkRequest payload correlationId with
  | error exc => simp [Dialogue.Runs.done_iff]
  | ok _ =>
    simp only [reduceCtorEq, false_and, exists_false, false_or, true_and,
      Dialogue.Runs.reply_iff]

/-- Wherever its POSTs go, a call makes at most one. -/
theorem runs_handle_execute {κ : Type} {τ : κ → Type}
    {send : (call : ToolPost) → Dialogue κ τ HttpReply} {u : List (Dialogue.Event κ τ)}
    {r : Except PyException JsonObject}
    (run : Dialogue.Runs ((client.execute payload correlationId).handle send) u r) :
    (u = [] ∧ ∃ exc, r = .error exc) ∨
      client.Postable payload correlationId ∧ ∃ reply,
        Dialogue.Runs (send (client.post payload correlationId)) u reply ∧
          r = client.readReply correlationId reply := by
  obtain ⟨t, executed, serves⟩ := Dialogue.Runs.of_handle run
  rcases runs_execute_iff.mp executed with ⟨exc, -, rfl, rfl⟩ | ⟨postable, reply, rfl, rfl⟩
  · cases serves
    exact .inl ⟨rfl, exc, rfl⟩
  · cases serves with
    | cons served rest =>
      cases rest
      rw [List.append_nil]
      exact .inr ⟨postable, reply, served, rfl⟩

end BackendToolClient

namespace AgentRuntimeEngine

/-- `run`, in a deployment. -/
def runOutside (engine : AgentRuntimeEngine) (deployment : Deployment)
    (definition : AgentDefinition) (request : JsonObject) (authorization : RuntimeAuthorization) :
    Dialogue OutsideCall OutsideCall.Reply (Except PyException JsonObject) :=
  (engine.run definition request authorization).handle deployment.serve

section

variable (engine : AgentRuntimeEngine) (deployment : Deployment) (definition : AgentDefinition)
  (request : JsonObject) (authorization : RuntimeAuthorization)

/-- The event is a POST for this intent: the tool is on all three lists, and the
payload may be posted. -/
inductive Posts (intent : ToolCallIntent) : OutsideEvent → Prop
  | mk {payload : JsonObject} {correlationId : String}
    (permitted : Permitted definition request authorization intent.toolId)
    (carries : Carries request intent payload)
    (postable : deployment.client.Postable payload correlationId) (reply : HttpReply) :
    Posts intent ⟨.post (deployment.client.post payload correlationId), reply⟩

/-- The event is a POST for this intent, answered by this successful result. -/
inductive Obtains (intent : ToolCallIntent) : OutsideEvent × JsonObject → Prop
  | mk {payload toolResult : JsonObject} {correlationId : String} {reply : HttpReply}
    {status : Json}
    (posts : Posts deployment definition request authorization intent
      ⟨.post (deployment.client.post payload correlationId), reply⟩)
    (accepted : BackendToolClient.Accepted deployment.client correlationId
      ⟨deployment.client.post payload correlationId, reply⟩ toolResult)
    (found : toolResult.get? "status" = some status) (success : IsSuccess status) :
    Obtains intent
      (⟨.post (deployment.client.post payload correlationId), reply⟩, toolResult)

/-- The provider is asked what the plan and the tool results amount to, on the policy
of the definition, the classification of the request and its budget. -/
structure Consults (budget : ExecutionBudget) (plan : ExecutionPlan)
    (toolResults : List JsonObject) (call : ProviderCall) : Prop where
  admitted : deployment.gateway.selectRoute call.request = .ok call.routeId
  policyRef : call.request.policyRef = definition.modelPolicyRef
  messages : call.request.messages = modelMessages engine.platform plan toolResults
  tokens : budget.maxTokens = some call.request.requestedMaxTokens
  budget : call.request.budget = budget
  classification : ∃ context : JsonObject,
    request.get? "execution_context" = some (.obj context) ∧
      context.get? "data_classification" = some (.str call.request.dataClassification.value)

/-- The plan of a run is within the budget of its request. -/
structure Governs (budget : ExecutionBudget) (plan : ExecutionPlan) : Prop where
  matched : Matches definition request authorization
  budgeted : HasBudget engine.platform request budget
  limits : enforcePlanLimits plan.toolCalls budget = .ok ()

/-- What may leave a run: nothing; a call of the planner; then the first intents of
the plan, in order; and after all of them a call of one provider. -/
inductive Conduct : OutsideTrace → Prop
  | idle : Conduct []
  | planning (matched : Matches definition request authorization)
    (reply : Except PyException ExecutionPlan) : Conduct [⟨.plan definition request, reply⟩]
  | posting {budget : ExecutionBudget} {plan : ExecutionPlan}
    {asked rest : List ToolCallIntent} {posts : OutsideTrace}
    (governs : Governs engine definition request authorization budget plan)
    (split : plan.toolCalls = asked ++ rest)
    (each : List.Forall₂ (Posts deployment definition request authorization) asked posts) :
    Conduct (⟨.plan definition request, .ok plan⟩ :: posts)
  | consulting {budget : ExecutionBudget} {plan : ExecutionPlan}
    {exchanges : List (OutsideEvent × JsonObject)} {call : ProviderCall}
    (governs : Governs engine definition request authorization budget plan)
    (each : List.Forall₂ (Obtains deployment definition request authorization) plan.toolCalls
      exchanges)
    (consults : Consults engine deployment definition request budget plan
      (exchanges.map Prod.snd) call)
    (reply : Except PyException ModelResponse) :
    Conduct (⟨.plan definition request, .ok plan⟩ :: exchanges.map Prod.fst ++
      [⟨.invoke call, reply⟩])

end

section

variable {engine : AgentRuntimeEngine} {deployment : Deployment} {definition : AgentDefinition}
  {request : JsonObject} {authorization : RuntimeAuthorization} {budget : ExecutionBudget}
  {plan : ExecutionPlan} {boundary : ToolBoundary} {turns : List (ToolCallIntent × ℕ)}
  {t : AgentTrace} {u : OutsideTrace}

/-- A served tool call is at most one POST for its intent. -/
theorem posts_of_served {turn : ToolCallIntent × ℕ} {payload : JsonObject}
    {r : Except PyException JsonObject}
    (prepared : Prepared engine definition request authorization budget plan boundary)
    (asks : Asks engine request boundary turn payload)
    (served : Dialogue.Runs (deployment.serve (.execute payload boundary.correlationId)) u r) :
    (u = [] ∧ ∃ exc, r = .error exc) ∨ ∃ reply,
      u = [⟨.post (deployment.client.post payload boundary.correlationId), reply⟩] ∧
        Posts deployment definition request authorization turn.1
          ⟨.post (deployment.client.post payload boundary.correlationId), reply⟩ ∧
        r = deployment.client.readReply boundary.correlationId reply := by
  rcases BackendToolClient.runs_handle_execute served with silent | ⟨postable, reply, sent, read⟩
  · exact .inl silent
  · cases Dialogue.Runs.question_iff.mp sent
    exact .inr ⟨reply, rfl, .mk ((checkIntent_eq_ok_iff prepared.boundary).mp asks.allowed)
      (toolRequest_eq_ok asks.payload) postable reply, read⟩

/-- A tool call that returns a successful result is one POST that obtained it. -/
theorem obtains_of_served {turn : ToolCallIntent × ℕ} {payload toolResult : JsonObject}
    (prepared : Prepared engine definition request authorization budget plan boundary)
    (asks : Asks engine request boundary turn payload)
    (success : checkToolResult engine.platform toolResult = .ok ())
    (served : Dialogue.Runs (deployment.serve (.execute payload boundary.correlationId)) u
      (.ok toolResult)) :
    ∃ event, u = [event] ∧
      Obtains deployment definition request authorization turn.1 (event, toolResult) := by
  rcases posts_of_served prepared asks served with ⟨-, exc, impossible⟩ |
    ⟨reply, rfl, posts, read⟩
  · cases impossible
  · obtain ⟨status, found, holds⟩ := checkToolResult_eq_ok_iff.mp success
    exact ⟨_, rfl, .mk posts (BackendToolClient.accepted_of_readReply read.symm) found holds⟩

/-- The POSTs of a loop are for its first turns, in order. -/
theorem LoopRun.posts {r : Except PyException Unit}
    (prepared : Prepared engine definition request authorization budget plan boundary)
    (loop : LoopRun engine request boundary turns t r)
    (serves : Dialogue.Serves deployment.serve t u) :
    ∃ asked rest, turns.map Prod.fst = asked ++ rest ∧
      List.Forall₂ (Posts deployment definition request authorization) asked u := by
  induction loop generalizing u with
  | finished | denied | malformed =>
    cases serves
    exact ⟨[], _, rfl, .nil⟩
  | raised asks | failed asks =>
    cases serves with
    | cons served rest =>
      cases rest
      rw [List.append_nil]
      rcases posts_of_served prepared asks served with ⟨rfl, -⟩ | ⟨reply, rfl, posts, -⟩
      · exact ⟨[], _, rfl, .nil⟩
      · exact ⟨[_], _, rfl, .cons posts .nil⟩
  | next asks success _ ih =>
    cases serves with
    | cons served rest =>
      obtain ⟨event, rfl, obtains⟩ := obtains_of_served prepared asks success served
      obtain ⟨asked, left, split, each⟩ := ih rest
      cases obtains with
      | mk posts => exact ⟨_ :: asked, left, congrArg (_ :: ·) split, .cons posts each⟩

/-- A loop that ends normally has obtained a result for every turn. -/
theorem LoopRun.obtains
    (prepared : Prepared engine definition request authorization budget plan boundary)
    (loop : LoopRun engine request boundary turns t (.ok ()))
    (serves : Dialogue.Serves deployment.serve t u) :
    ∃ exchanges : List (OutsideEvent × JsonObject), u = exchanges.map Prod.fst ∧
      t.received = exchanges.map Prod.snd ∧
      List.Forall₂ (Obtains deployment definition request authorization) (turns.map Prod.fst)
        exchanges := by
  generalize ended : (Except.ok () : Except PyException Unit) = r at loop
  induction loop generalizing u with
  | finished =>
    cases serves
    exact ⟨[], rfl, rfl, .nil⟩
  | denied | malformed | raised | failed => cases ended
  | @next turn rest payload toolResult t r asks success _ ih =>
    cases serves with
    | cons served rest =>
      obtain ⟨event, rfl, obtains⟩ := obtains_of_served prepared asks success served
      obtain ⟨exchanges, rfl, received, each⟩ := ih rest ended
      exact ⟨(event, toolResult) :: exchanges, rfl, congrArg (toolResult :: ·) received,
        .cons obtains each⟩

theorem modelRequest_eq_ok {messages : List JsonObject} {model : ModelRequest}
    (asked : modelRequest engine.platform definition request budget boundary messages =
      .ok model) :
    model.policyRef = definition.modelPolicyRef ∧ model.messages = messages ∧
      model.budget = budget ∧ budget.maxTokens = some model.requestedMaxTokens ∧
      ∃ context : JsonObject, request.get? "execution_context" = some (.obj context) ∧
        context.get? "data_classification" = some (.str model.dataClassification.value) := by
  unfold modelRequest at asked
  split at asked
  · cases asked
  next maximumTokens limited =>
    simp only [except_bind_eq_ok, item_eq_ok_iff, subscript_eq_ok_iff,
      ModelRequest.ofFields_eq_ok_iff] at asked
    obtain ⟨_, -, _, container, _, ⟨context, rfl, found⟩, c, rfl, same⟩ := asked
    rw [same]
    exact ⟨rfl, rfl, rfl, limited, context, container, found⟩

theorem Prepared.governs
    (prepared : Prepared engine definition request authorization budget plan boundary) :
    Governs engine definition request authorization budget plan :=
  have authorized := validateAuthorization_eq_ok prepared.admitted.authorized
  ⟨authorized.1, authorized.2, (toolBoundary_eq_ok prepared.boundary).1⟩

/-- A run rejects its request without any call, or concludes a run of its body. -/
theorem attempt_of_runs {r : Except PyException JsonObject}
    (run : Dialogue.Runs (engine.run definition request authorization) t r) :
    (t = [] ∧ ∃ exc, r = .error exc) ∨ ∃ outcome toolResults,
      Runs (engine.attempt definition request authorization) [] t outcome toolResults ∧
        r = engine.conclude request outcome toolResults := by
  unfold AgentRuntimeEngine.run at run
  split at run
  · obtain ⟨rfl, rfl⟩ := Dialogue.Runs.done_iff.mp run
    exact .inl ⟨rfl, _, rfl⟩
  next valid =>
    cases CanonicalContractCatalog.eq_of_validate valid
    obtain ⟨t₁, t₂, ⟨outcome, toolResults⟩, rfl, body, ended⟩ := Dialogue.Runs.bind_iff.mp run
    obtain ⟨rfl, rfl⟩ := Dialogue.Runs.done_iff.mp ended
    rw [List.append_nil]
    exact .inr ⟨outcome, toolResults, body, rfl⟩

/-- The gateway is asked last, after a loop that ended normally, and its exception
ends the body. -/
structure AsksLast (engine : AgentRuntimeEngine) (definition : AgentDefinition)
    (request : JsonObject) (authorization : RuntimeAuthorization) (budget : ExecutionBudget)
    (plan : ExecutionPlan) (boundary : ToolBoundary) (tools : AgentTrace) (model : ModelRequest)
    (reply : Except PyException ModelResponse) (t : AgentTrace)
    (r : Except PyException JsonObject) : Prop where
  prepared : Prepared engine definition request authorization budget plan boundary
  loop : LoopRun engine request boundary (plan.toolCalls.zipIdx 1) tools (.ok ())
  asked : modelRequest engine.platform definition request budget boundary
    (modelMessages engine.platform plan tools.received) = .ok model
  trace : t = ⟨.plan definition request, .ok plan⟩ :: tools ++ [⟨.complete model, reply⟩]
  raised : ∀ e, reply = .error e → r = .error e

/-- The body does not ask the gateway, and raises, or asks it last. -/
theorem asksLast_of_runs {r : Except PyException JsonObject} {toolResults : List JsonObject}
    (run : Runs (engine.attempt definition request authorization) [] t r toolResults) :
    (t.completions = [] ∧ ∃ e, r = .error e) ∨
      ∃ budget plan boundary tools model reply, AsksLast engine definition request authorization
        budget plan boundary tools model reply t r := by
  rcases runs_compute_bind.mp run with ⟨e, -, rfl, rfl, rfl⟩ | ⟨budget, authorized, body⟩
  · exact .inl ⟨rfl, e, rfl⟩
  rcases runs_compute_bind.mp body with ⟨e, -, rfl, rfl, rfl⟩ | ⟨_, input, planning⟩
  · exact .inl ⟨rfl, e, rfl⟩
  rcases runs_await_bind.mp planning with ⟨e, rfl, rfl, rfl⟩ | ⟨plan, u, rfl, planned⟩
  · exact .inl ⟨rfl, e, rfl⟩
  rcases runs_compute_bind.mp planned with ⟨e, -, rfl, rfl, rfl⟩ | ⟨boundary, within, looping⟩
  · exact .inl ⟨rfl, e, rfl⟩
  rcases runs_bind.mp looping with ⟨e, rfl, head⟩ | ⟨_, s, tools, last, rfl, head, looped⟩
  · exact .inl ⟨(runs_toolLoop head).1.completions_eq_nil, e, rfl⟩
  obtain ⟨loop, rfl⟩ := runs_toolLoop head
  rcases runs_compute_bind.mp (runs_read_bind.mp looped) with
    ⟨e, -, rfl, rfl, rfl⟩ | ⟨model, asked, asking⟩
  · rw [List.append_nil]
    exact .inl ⟨loop.completions_eq_nil, e, rfl⟩
  have prepared : Prepared engine definition request authorization budget plan boundary :=
    ⟨⟨authorized, input⟩, within⟩
  rcases runs_await_bind.mp asking with ⟨e, rfl, rfl, rfl⟩ | ⟨response, none, rfl, ending⟩
  · refine .inr ⟨budget, plan, boundary, tools, model, .error e, prepared, loop, asked, rfl, ?_⟩
    intro other same
    rw [Except.error.inj same]
  · obtain ⟨rfl, -, -⟩ := runs_compute.mp ending
    exact .inr ⟨budget, plan, boundary, tools, model, .ok response, prepared, loop, asked, rfl,
      nofun⟩

/-- Without a model call, what leaves a course is the plan and the POSTs of its loop. -/
theorem Course.conduct {r : Except PyException JsonObject} {toolResults : List JsonObject}
    (course : Course engine definition request authorization t r toolResults)
    (unasked : t.completions = []) (serves : Dialogue.Serves deployment.serve t u) :
    Conduct engine deployment definition request authorization u := by
  cases course with
  | refused =>
    cases serves
    exact .idle
  | unplanned admitted | overplanned admitted =>
    cases serves with
    | cons served rest =>
      cases rest
      cases Dialogue.Runs.question_iff.mp served
      exact .planning (validateAuthorization_eq_ok admitted.authorized).1 _
  | stopped prepared loop | unasked prepared loop =>
    cases serves with
    | cons served rest =>
      cases Dialogue.Runs.question_iff.mp served
      obtain ⟨asked, left, split, each⟩ := loop.posts prepared rest
      rw [List.zipIdx_map_fst] at split
      exact .posting prepared.governs split each
  | unanswered | answered =>
    rw [AgentTrace.completions, List.filterMap_append] at unasked
    exact absurd unasked (List.append_ne_nil_of_right_ne_nil _ (List.cons_ne_nil _ _))

/-- What leaves a run that asks the gateway last, and how it can still return. -/
theorem AsksLast.conduct {tools : AgentTrace} {model : ModelRequest}
    {reply : Except PyException ModelResponse} {r : Except PyException JsonObject}
    (last : AsksLast engine definition request authorization budget plan boundary tools model
      reply t r) (serves : Dialogue.Serves deployment.serve t u) :
    Conduct engine deployment definition request authorization u ∧ ∀ result, r = .ok result →
      ∃ call response, ⟨.invoke call, .ok response⟩ ∈ u := by
  obtain ⟨prepared, loop, asked, rfl, raised⟩ := last
  cases serves with
  | cons served rest =>
    cases Dialogue.Runs.question_iff.mp served
    obtain ⟨v, w, rfl, looped, completing⟩ := Dialogue.Serves.of_append rest
    obtain ⟨exchanges, rfl, received, each⟩ := loop.obtains prepared looped
    rw [List.zipIdx_map_fst] at each
    cases completing with
    | cons completed none =>
      cases none
      rw [List.append_nil]
      rcases GovernedModelGateway.runs_handle_complete.mp completed with
        ⟨e, -, rfl, rfl⟩ | ⟨routeId, admitted, invoked⟩
      · obtain ⟨posted, left, split, posts⟩ := loop.posts prepared looped
        rw [List.zipIdx_map_fst] at split
        rw [List.append_nil]
        refine ⟨.posting prepared.governs split posts, ?_⟩
        intro result returned
        cases returned.symm.trans (raised e rfl)
      · cases Dialogue.Runs.question_iff.mp invoked
        obtain ⟨policyRef, messages, limits, tokens, classification⟩ := modelRequest_eq_ok asked
        rw [received] at messages
        refine ⟨.consulting prepared.governs each
          ⟨admitted, policyRef, messages, tokens, limits, classification⟩ reply, ?_⟩
        intro result returned
        cases reply with
        | error e => cases returned.symm.trans (raised e rfl)
        | ok response =>
          exact ⟨_, response, List.mem_append_right _
            (List.mem_append_right _ List.mem_cons_self)⟩

end

section

variable {engine : AgentRuntimeEngine} {deployment : Deployment} {definition : AgentDefinition}
  {request result : JsonObject} {authorization : RuntimeAuthorization} {u : OutsideTrace}
  {r : Except PyException JsonObject}

theorem conduct_of_runs
    (run : Dialogue.Runs (engine.runOutside deployment definition request authorization) u r) :
    Conduct engine deployment definition request authorization u := by
  obtain ⟨t, outer, serves⟩ := Dialogue.Runs.of_handle run
  rcases attempt_of_runs outer with ⟨rfl, -⟩ | ⟨outcome, toolResults, body, -⟩
  · cases serves
    exact .idle
  rcases asksLast_of_runs body with ⟨unasked, -⟩ |
    ⟨budget, plan, boundary, tools, model, reply, last⟩
  · exact (course_of_runs body).conduct unasked serves
  · exact (last.conduct serves).1

/-- A returned result reports a failure, or has the answer of a provider. -/
theorem failed_or_answered
    (run : Dialogue.Runs (engine.runOutside deployment definition request authorization) u
      (.ok result)) :
    result.get? "status" = some (.str "FAILED") ∨
      ∃ call response, ⟨.invoke call, .ok response⟩ ∈ u := by
  obtain ⟨t, outer, serves⟩ := Dialogue.Runs.of_handle run
  rcases attempt_of_runs outer with ⟨-, exc, impossible⟩ | ⟨outcome, toolResults, body, returned⟩
  · cases impossible
  rcases conclude_eq_ok returned.symm with rfl | ⟨-, failed, -⟩
  · rcases asksLast_of_runs body with ⟨-, e, impossible⟩ |
      ⟨budget, plan, boundary, tools, model, reply, last⟩
    · cases impossible
    · exact .inr ((last.conduct serves).2 result rfl)
  · exact .inl failed

end

/-- Whatever planner, Backend and provider reply, a deployed run conducts itself: it
calls the planner at most once and first, posts the first intents of the plan in
order, each permitted and under the correlation id of its own payload, and asks a
provider at most once, last, when every intent has obtained a successful result and
the gateway admits the request.  A completed result has the answer of a provider. -/
theorem run_conduct (engine : AgentRuntimeEngine) (deployment : Deployment)
    (definition : AgentDefinition) (request : JsonObject) (authorization : RuntimeAuthorization)
    (u : OutsideTrace) (r : Except PyException JsonObject)
    (run : Dialogue.Runs (engine.runOutside deployment definition request authorization) u r) :
    Conduct engine deployment definition request authorization u ∧
      ∀ result, r = .ok result → result.get? "status" = some (.str "COMPLETED") →
        ∃ call response, ⟨.invoke call, .ok response⟩ ∈ u := by
  refine ⟨conduct_of_runs run, ?_⟩
  intro result returned completed
  subst returned
  rcases failed_or_answered run with failed | answered
  · rw [failed] at completed
    exact absurd completed (by decide)
  · exact answered

/-! ## A deployment of the tests -/

def diagnosticDeployment : Deployment where
  client := BackendToolClient.diagnosticClient
  gateway := spendingGateway

/-- A planner with two calls of one tool, a Backend that answers each POST, and a provider. -/
def outsideReply : (call : OutsideCall) → call.Reply
  | .plan _ _ =>
    .ok (diagnosticPlan [diagnosticIntent "diagnostic.echo" echo_idLength,
      diagnosticIntent "diagnostic.echo" echo_idLength])
  | .post call =>
    .response 200 (.ok (.obj
      [("tool_call_id", (call.payload.get? "tool_call_id").getD .null),
        ("run_id", .str "run_runtime_001"), ("tool_id", .str "diagnostic.echo"),
        ("correlation_id", .str "corr_runtime_001"), ("status", .str "SUCCESS")]))
  | .invoke _ =>
    .ok { content := "\x7b\x7d", routeId := "route.test", inputTokens := 14, outputTokens := 6 }

def outsideRun : OutsideTrace × Except PyException JsonObject :=
  (completingEngine.runOutside diagnosticDeployment diagnosticDefinition spendingRequest
    diagnosticAuthorization).converse (fun _ => outsideReply) []

theorem run_conduct_diagnostic :
    outsideRun.1.length = 4 ∧
      Conduct completingEngine diagnosticDeployment diagnosticDefinition spendingRequest
        diagnosticAuthorization outsideRun.1 ∧
      ∃ call response, ⟨.invoke call, .ok response⟩ ∈ outsideRun.1 := by
  have length : outsideRun.1.length = 4 := by decide +kernel
  have status : outsideRun.2.toOption.map (fun result => result.get? "status") =
      some (some (.str "COMPLETED")) := by
    decide +kernel
  obtain ⟨result, returned, completed⟩ := exists_ok_of_map status
  obtain ⟨conduct, answered⟩ := run_conduct completingEngine diagnosticDeployment
    diagnosticDefinition spendingRequest diagnosticAuthorization outsideRun.1 outsideRun.2
    (Dialogue.converse_runs _ [] _)
  exact ⟨length, conduct, answered result returned completed⟩

end AgentRuntimeEngine

end Genesis

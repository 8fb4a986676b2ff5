import Genesis.Agentic.Outcome

/-!
# The Backend tool client

`BackendToolClient.execute` posts a tool request to the Backend and checks the
document it gets back.  The checks compare the correlation id, which all calls of
a run share, and nothing else of the two documents: `execute_counterexample`
accepts the result of another call.  What pairs a result with its request is the
HTTP exchange alone, and `BackendToolClient.toolResults_paired` carries this
through to the results of a run of the engine.
-/

namespace Genesis

open Py

/-! ## The client -/

/-- `POST /internal/v1/tool-requests`. -/
structure ToolPost where
  headers : Dict String
  payload : JsonObject
  deriving DecidableEq

/-- How a POST ends: with a response, whose `json()` returns a document or raises, or with
an exception. -/
inductive HttpReply : Type
  | response (statusCode : ℕ) (json : Except PyException Json)
  | timeoutException
  | requestError
  | raised (exc : PyException)
  deriving DecidableEq

/-- What the HTTP library raised, other than for a timeout or a failed request. -/
def HttpReply.exception? : HttpReply → Option PyException
  | .raised exc | .response _ (.error exc) => some exc
  | _ => none

structure BackendToolClient where
  contracts : ToolBoundaryContracts
  token : String

namespace BackendToolClient

/-- The checks before the POST. -/
def checkRequest (client : BackendToolClient) (payload : JsonObject) (correlationId : String) :
    Except PyException Unit := do
  client.contracts.validateRequest payload
  let value ← item payload "execution_context"
  raiseUnless (value.dict?.isSome = true) .assertionError
  let context ← asDict value
  let correlation ← item context "correlation_id"
  raiseUnless (correlation = .str correlationId) (.toolContractError
    { contract := "ToolRequest"
      path := "execution_context.correlation_id"
      reason := "Transport and ToolRequest correlation identifiers must match." })

def post (client : BackendToolClient) (payload : JsonObject) (correlationId : String) :
    ToolPost where
  headers := ("X-Correlation-ID", correlationId) ::
    if client.token = "" then [] else [("Authorization", s!"Bearer {client.token}")]
  payload := payload

def readDocument (client : BackendToolClient) (correlationId : String) (statusCode : ℕ)
    (document : JsonObject) : Except PyException JsonObject := do
  client.contracts.validateResult document
  let correlation ← item document "correlation_id"
  raiseUnless (correlation = .str correlationId) (.backendToolClientError
    { code := "BACKEND_TOOL_CORRELATION_MISMATCH"
      message := "ToolResult correlation_id does not match ToolRequest."
      correlationId
      retryable := false
      statusCode := some statusCode })
  pure document

/-- The document of a successful response. -/
def readBody (client : BackendToolClient) (correlationId : String) (statusCode : ℕ) :
    Except PyException Json → Except PyException JsonObject
  | .error exc =>
    if exc.isValueError then
      .error (.backendToolClientError
        { code := "BACKEND_TOOL_INVALID_RESPONSE"
          message := "ALOS Backend returned invalid JSON."
          correlationId
          retryable := false
          statusCode := some statusCode })
    else .error exc
  | .ok (.obj document) => client.readDocument correlationId statusCode document
  | .ok _ =>
    .error (.backendToolClientError
      { code := "BACKEND_TOOL_INVALID_RESPONSE"
        message := "ToolResult must be a JSON object."
        correlationId
        retryable := false
        statusCode := some statusCode })

/-- Everything `execute` does with the reply to its POST. -/
def readReply (client : BackendToolClient) (correlationId : String) :
    HttpReply → Except PyException JsonObject
  | .timeoutException =>
    .error (.backendToolClientError
      { code := "BACKEND_TOOL_TIMEOUT"
        message := "ALOS Backend did not respond before the client timeout."
        correlationId
        retryable := true })
  | .requestError =>
    .error (.backendToolClientError
      { code := "BACKEND_TOOL_UNAVAILABLE"
        message := "ALOS Backend ToolExecutor boundary is unavailable."
        correlationId
        retryable := true })
  | .raised exc => .error exc
  | .response statusCode json =>
    if 200 ≤ statusCode ∧ statusCode ≤ 299 then client.readBody correlationId statusCode json
    else
      .error (.backendToolClientError
        { code := "BACKEND_TOOL_HTTP_ERROR"
          message := "ALOS Backend rejected the ToolRequest boundary call."
          correlationId
          retryable := decide (500 ≤ statusCode)
          statusCode := some statusCode })

/-- `execute`. -/
def execute (client : BackendToolClient) (payload : JsonObject) (correlationId : String) :
    Dialogue ToolPost (fun _ => HttpReply) (Except PyException JsonObject) :=
  match client.checkRequest payload correlationId with
  | .error exc => .done (.error exc)
  | .ok () =>
    (Dialogue.question (client.post payload correlationId)).bind fun reply =>
      .done (client.readReply correlationId reply)

abbrev PostEvent : Type := Dialogue.Event ToolPost fun _ => HttpReply

/-- The document is the body of a successful response to this POST, satisfies the
ToolResult schema and has the correlation id of the call. -/
structure Accepted (client : BackendToolClient) (correlationId : String) (event : PostEvent)
    (document : JsonObject) : Prop where
  call : ∃ payload, event.call = client.post payload correlationId
  reply : ∃ statusCode, 200 ≤ statusCode ∧ statusCode ≤ 299 ∧
    event.reply = .response statusCode (.ok (.obj document))
  schema : client.contracts.resultError document = none
  correlationId : document.get? "correlation_id" = some (.str correlationId)

section

variable {client : BackendToolClient} {payload document : JsonObject} {correlationId : String}

theorem check_eq_ok_iff {firstError : JsonObject → Option (String × String)} {contract : String} :
    ToolBoundaryContracts.check firstError contract payload = .ok () ↔
      firstError payload = none := by
  unfold ToolBoundaryContracts.check
  cases firstError payload with
  | none => simp
  | some error => exact ⟨nofun, nofun⟩

theorem readReply_eq_ok {reply : HttpReply}
    (accepted : client.readReply correlationId reply = .ok document) :
    (∃ statusCode, 200 ≤ statusCode ∧ statusCode ≤ 299 ∧
      reply = .response statusCode (.ok (.obj document))) ∧
      client.contracts.resultError document = none ∧
        document.get? "correlation_id" = some (.str correlationId) := by
  cases reply with
  | timeoutException | requestError | raised => cases accepted
  | response statusCode body =>
    simp only [readReply] at accepted
    split at accepted
    · next success =>
      unfold readBody at accepted
      split at accepted
      · split at accepted <;> cases accepted
      · unfold readDocument ToolBoundaryContracts.validateResult at accepted
        simp only [↓check_bind_eq_ok, except_bind_eq_ok, check_eq_ok_iff, item_eq_ok_iff,
          raiseUnless_eq_ok_iff] at accepted
        obtain ⟨schema, _, correlation, rfl, same⟩ := accepted
        cases same
        exact ⟨⟨statusCode, success.1, success.2, rfl⟩, schema, correlation⟩
      · cases accepted
    · cases accepted

/-- A call makes at most one POST; an accepted document is its answer. -/
theorem runs_execute {t : List PostEvent} {r : Except PyException JsonObject}
    (run : Dialogue.Runs (client.execute payload correlationId) t r) :
    (t = [] ∧ ∃ exc, r = .error exc) ∨
      ∃ reply, t = [⟨client.post payload correlationId, reply⟩] ∧
        r = client.readReply correlationId reply := by
  unfold execute at run
  split at run
  · obtain ⟨rfl, rfl⟩ := Dialogue.Runs.done_iff.mp run
    exact .inl ⟨rfl, _, rfl⟩
  · obtain ⟨t₁, t₂, reply, rfl, asked, ended⟩ := Dialogue.Runs.bind_iff.mp run
    obtain ⟨rfl, rfl⟩ := Dialogue.Runs.done_iff.mp ended
    cases Dialogue.Runs.question_iff.mp asked
    exact .inr ⟨reply, rfl, rfl⟩

theorem accepted_of_readReply {reply : HttpReply}
    (accepted : client.readReply correlationId reply = .ok document) :
    Accepted client correlationId ⟨client.post payload correlationId, reply⟩ document := by
  obtain ⟨answered, schema, correlation⟩ := readReply_eq_ok accepted
  exact ⟨⟨payload, rfl⟩, answered, schema, correlation⟩

end

/-! ## The engine with this client -/

/-- The calls that leave the repository when the engine runs with the client. -/
inductive BackendCall : Type
  | plan (definition : AgentDefinition) (request : JsonObject)
  | post (call : ToolPost)
  | complete (request : ModelRequest)

abbrev BackendCall.Reply : BackendCall → Type
  | .plan _ _ => Except PyException ExecutionPlan
  | .post _ => HttpReply
  | .complete _ => Except PyException ModelResponse

abbrev BackendTrace : Type := List (Dialogue.Event BackendCall BackendCall.Reply)

/-- The POST of an event. -/
def post? : Dialogue.Event BackendCall BackendCall.Reply → Option PostEvent
  | ⟨.post call, reply⟩ => some ⟨call, reply⟩
  | _ => none

def posts (u : BackendTrace) : List PostEvent := u.filterMap post?

/-- The client serves the tool calls of the engine; the other calls go out as they are. -/
def serve (client : BackendToolClient) :
    (call : AgentCall) → Dialogue BackendCall BackendCall.Reply (Except PyException call.Reply)
  | .plan definition request => .question (BackendCall.plan definition request)
  | .execute payload correlationId =>
    (client.execute payload correlationId).handle fun call => .question (BackendCall.post call)
  | .complete request => .question (BackendCall.complete request)

section

variable {client : BackendToolClient} {payload : JsonObject} {correlationId : String}
  {u : BackendTrace} {r : Except PyException JsonObject}

/-- The POSTs of a served tool call are those of the client. -/
theorem runs_serve_execute
    (run : Dialogue.Runs (client.serve (.execute payload correlationId)) u r) :
    Dialogue.Runs (client.execute payload correlationId) (posts u) r := by
  obtain ⟨t, executed, serves⟩ := Dialogue.Runs.of_handle run
  have same : posts u = t := by
    clear run executed
    induction serves with
    | nil => rfl
    | cons served _ ih =>
      cases Dialogue.Runs.question_iff.mp served
      exact congrArg (_ :: ·) ih
  rw [same]
  exact executed

/-- A served tool call makes at most one POST, and one that returns exactly one. -/
theorem posts_of_serves {t : AgentTrace}
    (serves : Dialogue.Serves client.serve (⟨.execute payload correlationId, r⟩ :: t) u) :
    ∃ v w, u = v ++ w ∧ Dialogue.Serves client.serve t w ∧
      ((posts v = [] ∧ ∃ exc, r = .error exc) ∨
        ∃ reply, posts v = [⟨client.post payload correlationId, reply⟩] ∧
          r = client.readReply correlationId reply) := by
  cases serves with
  | @cons _ _ _ v w served rest =>
    exact ⟨v, w, rfl, rest, runs_execute (runs_serve_execute served)⟩

/-- The POST of a tool call that returns has been answered by its result. -/
theorem posts_of_answered {t : AgentTrace} {toolResult : JsonObject}
    (serves : Dialogue.Serves client.serve
      (⟨.execute payload correlationId, .ok toolResult⟩ :: t) u) :
    ∃ v w reply, u = v ++ w ∧ Dialogue.Serves client.serve t w ∧
      posts v = [⟨client.post payload correlationId, reply⟩] ∧
        Accepted client correlationId ⟨client.post payload correlationId, reply⟩ toolResult := by
  obtain ⟨v, w, split, rest, served⟩ := posts_of_serves serves
  rcases served with ⟨-, exc, impossible⟩ | ⟨reply, one, accepted⟩
  · cases impossible
  · exact ⟨v, w, reply, split, rest, one, accepted_of_readReply accepted.symm⟩

end

/-- The tool results of a run answer its tool requests one by one: the k-th was
returned to the POST of the k-th request.  At most one more POST has been made. -/
def Paired (client : BackendToolClient) (correlationId : String) (t : AgentTrace)
    (u : BackendTrace) : Prop :=
  ∃ answered rest, posts u = answered ++ rest ∧ rest.length ≤ 1 ∧
    answered.map (fun event => event.call.payload) = t.sent.take t.received.length ∧
      List.Forall₂ (Accepted client correlationId) answered t.received

section

variable {client : BackendToolClient} {engine : AgentRuntimeEngine} {definition : AgentDefinition}
  {request : JsonObject} {authorization : RuntimeAuthorization}
  {boundary : AgentRuntimeEngine.ToolBoundary} {turns : List (ToolCallIntent × ℕ)}
  {t : AgentTrace} {u : BackendTrace}

theorem posts_append {v w : BackendTrace} : posts (v ++ w) = posts v ++ posts w :=
  List.filterMap_append

/-- Along the loop every result is paired with the POST of its own turn. -/
theorem paired_of_loop {r : Except PyException Unit}
    (loop : AgentRuntimeEngine.LoopRun engine request boundary turns t r)
    (serves : Dialogue.Serves client.serve t u) :
    Paired client boundary.correlationId t u := by
  induction loop generalizing u with
  | finished | denied | malformed =>
    cases serves
    exact ⟨[], [], rfl, Nat.zero_le 1, rfl, .nil⟩
  | raised =>
    obtain ⟨v, w, rfl, rest, served⟩ := posts_of_serves serves
    cases rest
    refine ⟨[], posts (v ++ []), rfl, ?_, rfl, .nil⟩
    rw [List.append_nil]
    rcases served with ⟨none, -⟩ | ⟨reply, one, -⟩
    · rw [none]
      exact Nat.zero_le 1
    · rw [one]
      exact le_rfl
  | @failed turn rest payload toolResult e =>
    obtain ⟨v, w, reply, rfl, rest, one, head⟩ := posts_of_answered serves
    cases rest
    refine ⟨_, [], ?_, Nat.zero_le 1, ?_, .cons head .nil⟩
    · rw [List.append_nil, List.append_nil, one]
    · rfl
  | @next turn rest payload toolResult t r _ _ _ ih =>
    obtain ⟨v, w, reply, rfl, rest, one, head⟩ := posts_of_answered serves
    obtain ⟨answered, more, split, few, payloads, paired⟩ := ih rest
    refine ⟨_, more, ?_, few, ?_, .cons head paired⟩
    · rw [posts_append, one, split]
      rfl
    · exact congrArg (payload :: ·) payloads

/-- The planner and the model gateway are not served by POSTs. -/
theorem posts_eq_nil_of_plan {reply : Except PyException ExecutionPlan} {v : BackendTrace}
    (served : Dialogue.Runs (client.serve (.plan definition request)) v reply) : posts v = [] := by
  cases Dialogue.Runs.question_iff.mp served
  rfl

theorem posts_eq_nil_of_complete {model : ModelRequest} {reply : Except PyException ModelResponse}
    {v : BackendTrace} (served : Dialogue.Runs (client.serve (.complete model)) v reply) :
    posts v = [] := by
  cases Dialogue.Runs.question_iff.mp served
  rfl

/-- The planner call before the loop does not disturb the pairing. -/
theorem Paired.cons_plan {correlationId : String} {reply : Except PyException ExecutionPlan}
    {v w : BackendTrace} (paired : Paired client correlationId t w) (none : posts v = []) :
    Paired client correlationId (⟨.plan definition request, reply⟩ :: t) (v ++ w) := by
  have sent : AgentTrace.sent (⟨.plan definition request, reply⟩ :: t) = t.sent := rfl
  have received : AgentTrace.received (⟨.plan definition request, reply⟩ :: t) = t.received := rfl
  rw [Paired, posts_append, none, List.nil_append, sent, received]
  exact paired

/-- Neither does the model call after it. -/
theorem Paired.append_complete {correlationId : String} {model : ModelRequest}
    {reply : Except PyException ModelResponse} {v w : BackendTrace}
    (paired : Paired client correlationId t v) (none : posts w = []) :
    Paired client correlationId (t ++ [⟨.complete model, reply⟩]) (v ++ w) := by
  have sent : AgentTrace.sent [⟨.complete model, reply⟩] = [] := rfl
  have received : AgentTrace.received [⟨.complete model, reply⟩] = [] := rfl
  rw [Paired, posts_append, none, AgentTrace.sent_append, AgentTrace.received_append, sent,
    received, List.append_nil, List.append_nil, List.append_nil]
  exact paired

/-- The correlation id of the execution context of a request, as text. -/
def HasCorrelation (platform : Platform) (request : JsonObject) (correlationId : String) : Prop :=
  ∃ (context : JsonObject) (value : Json), request.get? "execution_context" = some (.obj context) ∧
    context.get? "correlation_id" = some value ∧ correlationId = platform.str value

theorem hasCorrelation_of_prepared {budget : ExecutionBudget} {plan : ExecutionPlan}
    (prepared : AgentRuntimeEngine.Prepared engine definition request authorization budget plan
      boundary) : HasCorrelation engine.platform request boundary.correlationId := by
  have within := prepared.boundary
  simp only [AgentRuntimeEngine.toolBoundary, except_bind_eq_ok, item_eq_ok_iff,
    subscript_eq_ok_iff] at within
  rcases within with ⟨_, -, _, -, _, container, value, ⟨context, rfl, found⟩, built⟩
  cases built
  exact ⟨context, value, container, found, rfl⟩

theorem paired_of_course {r : Except PyException JsonObject} {toolResults : List JsonObject}
    (course : AgentRuntimeEngine.Course engine definition request authorization t r toolResults)
    (serves : Dialogue.Serves client.serve t u) :
    ∃ correlationId, Paired client correlationId t u ∧
      (t.received = [] ∨ HasCorrelation engine.platform request correlationId) := by
  have silent : Paired client "" [] [] := ⟨[], [], rfl, Nat.zero_le 1, rfl, .nil⟩
  cases course with
  | refused =>
    cases serves
    exact ⟨"", silent, .inl rfl⟩
  | unplanned | overplanned =>
    cases serves with
    | cons served rest =>
      cases rest
      exact ⟨"", silent.cons_plan (posts_eq_nil_of_plan served), .inl rfl⟩
  | stopped prepared loop | unasked prepared loop =>
    cases serves with
    | cons served rest =>
      exact ⟨_, (paired_of_loop loop rest).cons_plan (posts_eq_nil_of_plan served),
        .inr (hasCorrelation_of_prepared prepared)⟩
  | unanswered prepared loop | answered prepared loop =>
    cases serves with
    | cons served rest =>
      obtain ⟨w, x, rfl, looped, last⟩ := Dialogue.Serves.of_append rest
      cases last with
      | cons completed none =>
        cases none
        rw [List.append_nil]
        exact ⟨_, ((paired_of_loop loop looped).append_complete
          (posts_eq_nil_of_complete completed)).cons_plan (posts_eq_nil_of_plan served),
          .inr (hasCorrelation_of_prepared prepared)⟩

end

/-- The three identifiers that tie a tool result to its request. -/
def Names (payload document : JsonObject) : Prop :=
  ∀ key ∈ ["tool_call_id", "run_id", "tool_id"], document.get? key = payload.get? key

/-- The Backend's document in this exchange, if there is one, names the posted request. -/
def Echoes (event : PostEvent) : Prop :=
  ∀ statusCode document, event.reply = .response statusCode (.ok (.obj document)) →
    Names event.call.payload document

/-- In a run of the engine with this client, the tool results of a returned
result answer the tool requests of the run in order; each names its own request
if the Backend's replies do. -/
structure ToolResultsPaired (client : BackendToolClient) (engine : AgentRuntimeEngine)
    (definition : AgentDefinition) (request : JsonObject) (authorization : RuntimeAuthorization)
    (u : BackendTrace) (result : JsonObject) (t : AgentTrace) (correlationId : String) : Prop where
  run : Dialogue.Runs (engine.run definition request authorization) t (.ok result)
  results : result.get? "tool_results" = some (.arr (t.received.map Json.obj))
  correlation : t.received = [] ∨ HasCorrelation engine.platform request correlationId
  paired : Paired client correlationId t u
  named : (∀ event ∈ posts u, Echoes event) →
    List.Forall₂ Names (t.sent.take t.received.length) t.received

theorem names_of_paired {client : BackendToolClient} {correlationId : String} {t : AgentTrace}
    {u : BackendTrace} (paired : Paired client correlationId t u)
    (echoes : ∀ event ∈ posts u, Echoes event) :
    List.Forall₂ Names (t.sent.take t.received.length) t.received := by
  obtain ⟨answered, rest, split, -, payloads, accepted⟩ := paired
  have each : ∀ event ∈ answered, Echoes event := by
    intro event member
    apply echoes
    rw [split]
    exact List.mem_append_left rest member
  rw [← payloads, List.forall₂_map_left_iff]
  have both := (List.forall₂_and_left _ _).mpr ⟨each, accepted⟩
  apply both.imp
  intro event document h
  obtain ⟨statusCode, -, -, reply⟩ := h.2.reply
  exact h.1 statusCode document reply

/-- A document the client returns is the body of the successful response to its
one POST of this payload, valid under the ToolResult schema and with the
correlation id of the call; and so, in a run of the engine with this client, the
k-th tool result is the answer to the POST of the k-th tool request. -/
theorem toolResults_paired (client : BackendToolClient) :
    (∀ (payload : JsonObject) (correlationId : String) (t : List PostEvent)
      (document : JsonObject),
      Dialogue.Runs (client.execute payload correlationId) t (.ok document) →
        ∃ reply, t = [⟨client.post payload correlationId, reply⟩] ∧
          Accepted client correlationId ⟨client.post payload correlationId, reply⟩ document) ∧
    ∀ (engine : AgentRuntimeEngine) (definition : AgentDefinition) (request : JsonObject)
      (authorization : RuntimeAuthorization) (u : BackendTrace) (result : JsonObject),
      Dialogue.Runs ((engine.run definition request authorization).handle client.serve) u
          (.ok result) →
        ∃ t correlationId, ToolResultsPaired client engine definition request authorization u
          result t correlationId := by
  refine ⟨?_, ?_⟩
  · intro payload correlationId t document run
    rcases runs_execute run with ⟨-, exc, impossible⟩ | ⟨reply, posted, accepted⟩
    · cases impossible
    · exact ⟨reply, posted, accepted_of_readReply accepted.symm⟩
  · intro engine definition request authorization u result run
    obtain ⟨t, outer, serves⟩ := Dialogue.Runs.of_handle run
    rcases AgentRuntimeEngine.runs_run outer with ⟨-, exc, impossible⟩ |
      ⟨outcome, toolResults, course, returned⟩
    · cases impossible
    obtain ⟨correlationId, paired, correlation⟩ := paired_of_course course serves
    have results := AgentRuntimeEngine.toolResults_of_course course returned.symm
    exact ⟨t, correlationId, outer, results, correlation, paired, names_of_paired paired⟩

/-! ## An accepted answer to another call -/

/-- A client whose ToolResult schema requires the five identifying fields. -/
def diagnosticClient : BackendToolClient where
  contracts :=
    { requestError := fun _ => none
      resultError := fun document =>
        if ["tool_call_id", "run_id", "tool_id", "correlation_id", "status"].all fun key =>
          (document.get? key).isSome then none else some ("$", "a required property is missing") }
  token := "test-only-token"

def echoRequest (toolCallId : String) : JsonObject :=
  [("tool_call_id", .str toolCallId), ("run_id", .str "run_diagnostic_001"),
    ("tool_id", .str "diagnostic.echo"),
    ("execution_context", .obj [("correlation_id", .str "corr_genesis_tool_001")]),
    ("arguments", .obj [("message", .str "governed execution")]),
    ("requested_at", .str "2026-09-17T08:00:00Z")]

def echoResult (toolCallId : String) : JsonObject :=
  [("tool_call_id", .str toolCallId), ("run_id", .str "run_diagnostic_001"),
    ("tool_id", .str "diagnostic.echo"), ("correlation_id", .str "corr_genesis_tool_001"),
    ("status", .str "SUCCESS")]

/-- A planner with two calls of one tool, a Backend that answers each POST, and a model. -/
def backendReply : BackendTrace → (call : BackendCall) → call.Reply
  | _, .plan _ _ =>
    .ok (AgentRuntimeEngine.diagnosticPlan [AgentRuntimeEngine.diagnosticIntent "diagnostic.echo",
      AgentRuntimeEngine.diagnosticIntent "diagnostic.echo"])
  | _, .post call =>
    .response 200 (.ok (.obj
      [("tool_call_id", (call.payload.get? "tool_call_id").getD .null),
        ("run_id", .str "run_runtime_001"), ("tool_id", .str "diagnostic.echo"),
        ("correlation_id", .str "corr_runtime_001"), ("status", .str "SUCCESS")]))
  | _, .complete _ =>
    .ok { content := "\x7b\x7d", routeId := "route.test", inputTokens := 14, outputTokens := 6 }

def diagnosticExchange : BackendTrace × Except PyException JsonObject :=
  ((AgentRuntimeEngine.completingEngine.run AgentRuntimeEngine.diagnosticDefinition
    (AgentRuntimeEngine.diagnosticRequest [("max_tokens", .int 200)])
    AgentRuntimeEngine.diagnosticAuthorization).handle diagnosticClient.serve).converse
      backendReply []

theorem toolResults_paired_diagnostic :
    ∃ result t correlationId,
      ToolResultsPaired diagnosticClient AgentRuntimeEngine.completingEngine
        AgentRuntimeEngine.diagnosticDefinition
        (AgentRuntimeEngine.diagnosticRequest [("max_tokens", .int 200)])
        AgentRuntimeEngine.diagnosticAuthorization diagnosticExchange.1 result t correlationId ∧
      (posts diagnosticExchange.1).length = 2 := by
  have run : Dialogue.Runs ((AgentRuntimeEngine.completingEngine.run
      AgentRuntimeEngine.diagnosticDefinition
      (AgentRuntimeEngine.diagnosticRequest [("max_tokens", .int 200)])
      AgentRuntimeEngine.diagnosticAuthorization).handle diagnosticClient.serve)
      diagnosticExchange.1 diagnosticExchange.2 := Dialogue.converse_runs _ _ _
  have two : (posts diagnosticExchange.1).length = 2 := by decide +kernel
  have returned : diagnosticExchange.2.isOk = true := by decide +kernel
  cases ended : diagnosticExchange.2 with
  | error e =>
    rw [ended] at returned
    cases returned
  | ok result =>
    rw [ended] at run
    obtain ⟨t, correlationId, paired⟩ := (toolResults_paired diagnosticClient).2 _ _ _ _ _ _ run
    exact ⟨result, t, correlationId, paired, two⟩

/-- The client accepts the result of the first call as the answer to the second. -/
theorem execute_counterexample :
    ¬ ∀ (client : BackendToolClient) (payload : JsonObject) (correlationId : String)
      (t : List PostEvent) (document : JsonObject),
      Dialogue.Runs (client.execute payload correlationId) t (.ok document) →
        Names payload document := by
  intro named
  have run := Dialogue.converse_runs
    (fun _ _ => HttpReply.response 200 (.ok (.obj (echoResult "toolcall_001")))) []
    (diagnosticClient.execute (echoRequest "toolcall_002") "corr_genesis_tool_001")
  have accepted : ((diagnosticClient.execute (echoRequest "toolcall_002")
      "corr_genesis_tool_001").converse (fun _ _ => HttpReply.response 200
        (.ok (.obj (echoResult "toolcall_001")))) []).2 = .ok (echoResult "toolcall_001") := by
    decide +kernel
  rw [accepted] at run
  have same := named _ _ _ _ _ run "tool_call_id" List.mem_cons_self
  exact absurd same (by decide)

end BackendToolClient

end Genesis

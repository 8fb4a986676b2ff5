import Genesis.Agentic.Models

/-!
# The agent runtime engine

`AgentRuntimeEngine.run` and the functions it is composed of.  The checks
between two awaits are pure functions that may raise; the program awaits the
planner, the tool client and the model gateway.  A timeout is a `timeoutError`
replied at the await it interrupts, a cancellation a `cancelledError`.
-/

namespace Genesis

open Py Session

def AGENT_RUN_REQUEST_SCHEMA : String :=
  "https://schemas.alos.dev/v1/agent/agent-run-request.schema.json"

def AGENT_RUN_RESULT_SCHEMA : String :=
  "https://schemas.alos.dev/v1/agent/agent-run-result.schema.json"

/-- The readings of the clocks during a run. -/
structure Clock where
  started : String
  requestedAt : ℕ → String
  completed : String
  failed : String
  latencyMilliseconds : ℕ

structure AgentRuntimeEngine where
  platform : Platform
  contracts : CanonicalContractCatalog
  clock : Clock

namespace AgentRuntimeEngine

/-! ## Checks before the plan -/

/-- `raise RuntimeFailure(code, message)` unless the condition holds. -/
abbrev failUnless (condition : Prop) [Decidable condition] (code message : String) :
    Except PyException Unit :=
  raiseUnless condition (.runtimeFailure { code, message })

/-- The execution budget a context carries. -/
def executionBudget (platform : Platform) (context : JsonObject) :
    Except PyException ExecutionBudget :=
  match context.get? "execution_budget" with
  | some (.obj rawBudget) => ExecutionBudget.modelValidate platform rawBudget
  | _ =>
    .error (.runtimeFailure
      { code := "BUDGET_REQUIRED"
        message := "ExecutionContext must carry an execution budget." })

/-- `_validate_authorization`. -/
def validateAuthorization (platform : Platform) (definition : AgentDefinition)
    (request : JsonObject) (authorization : RuntimeAuthorization) :
    Except PyException ExecutionBudget := do
  let runId ← item request "run_id"
  failUnless (.str authorization.runId = runId)
    "RUN_AUTHORIZATION_MISMATCH" "Run authorization does not match run_id."
  failUnless (authorization.lifecycleState ∈ [LifecycleState.active, .testAuthorized])
    "AGENT_LIFECYCLE_DENIED" "Backend did not authorize Agent lifecycle."
  let agentId ← item request "agent_id"
  failUnless (.str definition.agentId = agentId)
    "AGENT_VERSION_MISMATCH" "Agent definition does not match request."
  let agentVersion ← item request "agent_version"
  failUnless (.str definition.agentVersion = agentVersion)
    "AGENT_VERSION_MISMATCH" "Agent definition does not match request."
  let capabilityId ← item request "capability_id"
  failUnless (capabilityId ∈ definition.capabilityIds.map Json.str)
    "CAPABILITY_MISMATCH" "Capability is not present in Agent definition."
  let value ← item request "execution_context"
  let context ← asDict value
  executionBudget platform context

/-- `_validate_json_schema`. -/
def validateJsonSchema (platform : Platform) (schema : JsonObject) (payload : Json)
    (code : String) : Except PyException Unit := do
  let accepted ← platform.schemaAccepts (.obj schema) payload
  failUnless (accepted = true) code "Runtime payload does not satisfy the Agent schema."

def validateInput (platform : Platform) (definition : AgentDefinition) (request : JsonObject) :
    Except PyException Unit := do
  let input ← item request "input"
  validateJsonSchema platform definition.inputSchema input "INPUT_SCHEMA_INVALID"

/-! ## Checks on the plan -/

/-- `_enforce_plan_limits`. -/
def enforcePlanLimits (toolCalls : List ToolCallIntent) (budget : ExecutionBudget) :
    Except PyException Unit := do
  let steps := toolCalls.length + 1
  failUnless (∀ maximum ∈ budget.maxSteps, steps ≤ maximum)
    "BUDGET_STEPS_EXCEEDED" "Execution plan exceeds max_steps."
  failUnless (∀ maximum ∈ budget.maxToolCalls, toolCalls.length ≤ maximum)
    "BUDGET_TOOL_CALLS_EXCEEDED" "Execution plan exceeds max_tool_calls."

/-- What the tool loop compares each intent with. -/
structure ToolBoundary where
  requestedToolIds : List Json
  allowedByDefinition : List String
  allowedByBackend : List String
  correlationId : String

def toolBoundary (platform : Platform) (definition : AgentDefinition) (request : JsonObject)
    (authorization : RuntimeAuthorization) (budget : ExecutionBudget) (plan : ExecutionPlan) :
    Except PyException ToolBoundary := do
  enforcePlanLimits plan.toolCalls budget
  let requestedToolIds ← frozenset ((request.get? "requested_tool_ids").getD (.arr []))
  let context ← item request "execution_context"
  let correlationId ← subscript context "correlation_id"
  pure
    { requestedToolIds
      allowedByDefinition := definition.allowedToolIds
      allowedByBackend := authorization.allowedToolIds
      correlationId := platform.str correlationId }

/-! ## The tool loop -/

def checkIntent (boundary : ToolBoundary) (intent : ToolCallIntent) : Except PyException Unit := do
  failUnless (Json.str intent.toolId ∈ boundary.requestedToolIds)
    "TOOL_NOT_REQUESTED" "Planned tool is outside AgentRunRequest tool intent."
  failUnless (intent.toolId ∈ boundary.allowedByDefinition)
    "TOOL_NOT_DEFINED" "Planned tool is outside the Agent definition allowlist."
  failUnless (intent.toolId ∈ boundary.allowedByBackend)
    "TOOL_NOT_AUTHORIZED" "Backend execution authorization does not allow the planned tool."

/-- `_tool_request`. -/
def toolRequest (engine : AgentRuntimeEngine) (request : JsonObject) (toolId : String)
    (arguments : JsonObject) (index : ℕ) : Except PyException JsonObject := do
  let runId ← item request "run_id"
  let run := engine.platform.str runId
  let digest := engine.platform.sha256Hex s!"{run}:{index}:{toolId}"
  let suffix := String.ofList (digest.toList.take 20)
  let executionContext ← item request "execution_context"
  pure [("tool_call_id", .str s!"toolcall_{suffix}"), ("run_id", runId),
    ("tool_id", .str toolId), ("execution_context", executionContext),
    ("arguments", .obj arguments), ("requested_at", .str (engine.clock.requestedAt index))]

/-- `tool_result["status"]` is one of the two that let the run go on. -/
def IsSuccess (status : Json) : Prop := status = .str "SUCCESS" ∨ status = .str "COMPLETED"

instance (status : Json) : Decidable (IsSuccess status) := inferInstanceAs (Decidable (_ ∨ _))

/-- The failure of a run whose tool result is not successful. -/
def toolFailure {α : Type} (platform : Platform) (toolResult : JsonObject) :
    Except PyException α := do
  let error ← asDict ((toolResult.get? "error").getD (.obj []))
  .error (.runtimeFailure
    { code := platform.str ((error.get? "code").getD (.str "TOOL_EXECUTION_BLOCKED"))
      message := "Backend ToolExecutor did not return a successful result."
      retryable := ((error.get? "retryable").getD (.bool false)).truthy })

def checkToolResult (platform : Platform) (toolResult : JsonObject) :
    Except PyException Unit := do
  let status ← item toolResult "status"
  if status.hashable then
    if IsSuccess status then .ok () else toolFailure platform toolResult
  else .error .typeError

/-- `for index, intent in enumerate(plan.tool_calls, 1)`. -/
def toolLoop (engine : AgentRuntimeEngine) (request : JsonObject) (boundary : ToolBoundary) :
    List (ToolCallIntent × ℕ) → EngineM Unit
  | [] => pure ()
  | (intent, index) :: rest => do
    compute (checkIntent boundary intent)
    let payload ← compute (engine.toolRequest request intent.toolId intent.arguments index)
    let toolResult ← await (AgentCall.execute payload boundary.correlationId)
    update fun toolResults => toolResults ++ [toolResult]
    compute (checkToolResult engine.platform toolResult)
    engine.toolLoop request boundary rest

/-! ## The model call -/

/-- The message that carries the tool results. -/
def governedToolResults (platform : Platform) (toolResults : List JsonObject) : JsonObject :=
  let content := platform.dumps (.obj [("governed_tool_results", .arr (toolResults.map Json.obj))])
  [("role", .str "user"), ("content", .str content)]

def modelMessages (platform : Platform) (plan : ExecutionPlan) (toolResults : List JsonObject) :
    List JsonObject :=
  if toolResults = [] then plan.messages
  else plan.messages ++ [governedToolResults platform toolResults]

def modelRequest (platform : Platform) (definition : AgentDefinition) (request : JsonObject)
    (budget : ExecutionBudget) (boundary : ToolBoundary) (messages : List JsonObject) :
    Except PyException ModelRequest :=
  match budget.maxTokens with
  | none =>
    .error (.runtimeFailure
      { code := "BUDGET_REQUIRED", message := "max_tokens is required for model access." })
  | some maximumTokens => do
    let runId ← item request "run_id"
    let context ← item request "execution_context"
    let dataClassification ← subscript context "data_classification"
    ModelRequest.ofFields dataClassification fun dataClassification =>
      { runId := platform.str runId
        correlationId := boundary.correlationId
        policyRef := definition.modelPolicyRef
        purpose := definition.purpose
        dataClassification
        messages
        requestedMaxTokens := maximumTokens
        budget }

/-! ## Results -/

def checkCost (budget : ExecutionBudget) (response : ModelResponse) : Except PyException Unit :=
  failUnless (∀ maximum ∈ budget.maxCost, ∀ cost ∈ response.cost, cost ≤ maximum)
    "BUDGET_COST_EXCEEDED" "Model response exceeded the authorized cost budget."

/-- `_parse_output`. -/
def parseOutput (platform : Platform) (response : ModelResponse) : Except PyException Json :=
  match platform.jsonLoads response.content with
  | .error .jsonDecodeError =>
    .error (.runtimeFailure
      { code := "MODEL_OUTPUT_INVALID_JSON"
        message := "Model output is not valid JSON."
        outputState := .needsReview })
  | parsed => parsed

/-- The fields of a result that come from the request. -/
def resultIdentity (request : JsonObject) : Except PyException JsonObject := do
  let context ← item request "execution_context"
  let runId ← item request "run_id"
  let rootRunId ← item request "root_run_id"
  let parent := (request.get? "parent_run_id").toList.filter Json.truthy
  let correlationId ← subscript context "correlation_id"
  let agentId ← item request "agent_id"
  let agentVersion ← item request "agent_version"
  let capabilityId ← item request "capability_id"
  pure ([("run_id", runId), ("root_run_id", rootRunId)] ++
    parent.map (fun parentRunId => ("parent_run_id", parentRunId)) ++
    [("correlation_id", correlationId), ("agent_id", agentId), ("agent_version", agentVersion),
      ("capability_id", capabilityId)])

def usage (engine : AgentRuntimeEngine) (response : ModelResponse) : JsonObject :=
  [("provider", .str response.routeId), ("model", .str response.routeId),
    ("input_tokens", .int response.inputTokens), ("output_tokens", .int response.outputTokens),
    ("latency_milliseconds", .int engine.clock.latencyMilliseconds)] ++
  response.cost.toList.map fun cost => ("estimated_cost", .float cost)

/-- `_success_result`. -/
def successResult (engine : AgentRuntimeEngine) (request : JsonObject) (output : Json)
    (response : ModelResponse) (toolResults : List JsonObject) :
    Except PyException JsonObject := do
  let identity ← resultIdentity request
  pure (identity ++ [("status", .str "COMPLETED"), ("output_state", .str "AI_INFERRED"),
    ("output", output), ("usage", .obj (engine.usage response)),
    ("tool_results", .arr (toolResults.map Json.obj)), ("evidence_refs", .arr []),
    ("started_at", .str engine.clock.started), ("completed_at", .str engine.clock.completed)])

/-- `_failure_result`. -/
def failureResult (engine : AgentRuntimeEngine) (request : JsonObject) (failure : RuntimeFailure)
    (toolResults : List JsonObject) : Except PyException JsonObject := do
  let identity ← resultIdentity request
  let context ← item request "execution_context"
  let correlationId ← subscript context "correlation_id"
  pure (identity ++ [("status", .str "FAILED"), ("output_state", .str failure.outputState.text),
    ("tool_results", .arr (toolResults.map Json.obj)), ("evidence_refs", .arr []),
    ("error", .obj [("code", .str failure.code), ("message", .str failure.message),
      ("correlation_id", correlationId), ("retryable", .bool failure.retryable)]),
    ("started_at", .str engine.clock.started), ("completed_at", .str engine.clock.failed)])

/-- Everything `_execute` does with the response of the model. -/
def completedResult (engine : AgentRuntimeEngine) (definition : AgentDefinition)
    (request : JsonObject) (budget : ExecutionBudget) (response : ModelResponse)
    (toolResults : List JsonObject) : Except PyException JsonObject := do
  checkCost budget response
  let output ← parseOutput engine.platform response
  validateJsonSchema engine.platform definition.outputSchema output "OUTPUT_SCHEMA_INVALID"
  let result ← engine.successResult request output response toolResults
  engine.contracts.validate AGENT_RUN_RESULT_SCHEMA result

/-! ## The run -/

/-- `_execute`. -/
def execute (engine : AgentRuntimeEngine) (definition : AgentDefinition) (request : JsonObject)
    (authorization : RuntimeAuthorization) (budget : ExecutionBudget) : EngineM JsonObject := do
  compute (validateInput engine.platform definition request)
  let plan ← await (AgentCall.plan definition request)
  let boundary ← compute
    (toolBoundary engine.platform definition request authorization budget plan)
  engine.toolLoop request boundary (plan.toolCalls.zipIdx 1)
  let toolResults ← read
  let modelRequest ← compute (modelRequest engine.platform definition request budget boundary
    (modelMessages engine.platform plan toolResults))
  let response ← await (AgentCall.complete modelRequest)
  compute (engine.completedResult definition request budget response toolResults)

/-- The body of the `try` of `run`. -/
def attempt (engine : AgentRuntimeEngine) (definition : AgentDefinition) (request : JsonObject)
    (authorization : RuntimeAuthorization) : EngineM JsonObject := do
  let budget ← compute (validateAuthorization engine.platform definition request authorization)
  engine.execute definition request authorization budget

/-- The exception handlers of `run`. -/
def handled : PyException → RuntimeFailure
  | .timeoutError =>
    { code := "RUNTIME_TIMEOUT"
      message := "Agent runtime exceeded the authorized execution timeout."
      retryable := true }
  | .runtimeFailure failure => failure
  | _ =>
    { code := "RUNTIME_EXECUTION_FAILED"
      message := "Agent runtime failed safely."
      outputState := .needsReview }

/-- What `run` returns or raises after its `try`. -/
def conclude (engine : AgentRuntimeEngine) (request : JsonObject)
    (outcome : Except PyException JsonObject) (toolResults : List JsonObject) :
    Except PyException JsonObject :=
  match outcome with
  | .ok result => .ok result
  | .error exc =>
    if exc.isException then do
      let result ← engine.failureResult request (handled exc) toolResults
      engine.contracts.validate AGENT_RUN_RESULT_SCHEMA result
    else .error exc

/-- The exception a request that violates its schema ends in. -/
def rejected (platform : Platform) : PyException → PyException
  | .contractValidationError error =>
    .runtimeRequestRejected (platform.strOfException (.contractValidationError error))
  | exc => exc

/-- `run`. -/
def run (engine : AgentRuntimeEngine) (definition : AgentDefinition) (requestPayload : JsonObject)
    (authorization : RuntimeAuthorization) :
    Dialogue AgentCall (fun call => Except PyException call.Reply)
      (Except PyException JsonObject) :=
  match engine.contracts.validate AGENT_RUN_REQUEST_SCHEMA requestPayload with
  | .error exc => .done (.error (rejected engine.platform exc))
  | .ok request =>
    ((engine.attempt definition request authorization).run.run []).bind fun ended =>
      .done (engine.conclude request ended.1 ended.2)

end AgentRuntimeEngine

end Genesis

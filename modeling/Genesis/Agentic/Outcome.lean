import Genesis.Agentic.Boundary

/-!
# What a result says about its run

`AgentRuntimeEngine.run_outcomeSound` reads the history of a run off the result
it returns: a completed result comes from a run whose tool calls were all sent
and successful and whose model call came last, an unsuccessful tool call keeps
the model from being called, and every result lists exactly the tool results
that were received.
-/

namespace Genesis

open Py Session

namespace AgentRuntimeEngine

/-! ## Results -/

section

variable {engine : AgentRuntimeEngine} {platform : Platform} {definition : AgentDefinition}
  {request identity result : JsonObject} {authorization : RuntimeAuthorization}
  {budget : ExecutionBudget} {response : ModelResponse} {toolResults : List JsonObject}

/-- The identity of a result never holds its status or its tool results. -/
theorem resultIdentity_get?_eq_none (built : resultIdentity request = .ok identity)
    {key : String} (other : key ∉ ["run_id", "root_run_id", "parent_run_id", "correlation_id",
      "agent_id", "agent_version", "capability_id"]) : identity.get? key = none := by
  simp only [resultIdentity, except_bind_eq_ok] at built
  obtain ⟨_, -, _, -, _, -, _, -, _, -, _, -, _, -, built⟩ := built
  cases built
  apply Dict.get?_eq_none
  intro member
  apply other
  simp only [List.map_append, List.map_map, List.mem_append, List.mem_map] at member
  rcases member with (⟨_, head, rfl⟩ | ⟨_, -, rfl⟩) | ⟨_, tail, rfl⟩
  · simp only [List.mem_cons, List.not_mem_nil, or_false] at head
    rcases head with rfl | rfl <;> simp
  · simp
  · simp only [List.mem_cons, List.not_mem_nil, or_false] at tail
    rcases tail with rfl | rfl | rfl | rfl <;> simp

theorem successResult_eq_ok {output : Json}
    (built : engine.successResult request output response toolResults = .ok result) :
    result.get? "status" = some (.str "COMPLETED") ∧ result.get? "output" = some output ∧
      result.get? "tool_results" = some (.arr (toolResults.map Json.obj)) := by
  simp only [successResult, except_bind_eq_ok] at built
  obtain ⟨identity, identified, built⟩ := built
  cases built
  simp only [Dict.get?_append]
  rw [resultIdentity_get?_eq_none identified (by decide),
    resultIdentity_get?_eq_none identified (by decide),
    resultIdentity_get?_eq_none identified (by decide)]
  exact ⟨rfl, rfl, rfl⟩

theorem failureResult_eq_ok {failure : RuntimeFailure}
    (built : engine.failureResult request failure toolResults = .ok result) :
    result.get? "status" = some (.str "FAILED") ∧
      result.get? "tool_results" = some (.arr (toolResults.map Json.obj)) := by
  simp only [failureResult, except_bind_eq_ok] at built
  obtain ⟨identity, identified, _, -, _, -, built⟩ := built
  cases built
  simp only [Dict.get?_append]
  rw [resultIdentity_get?_eq_none identified (by decide),
    resultIdentity_get?_eq_none identified (by decide)]
  exact ⟨rfl, rfl⟩

theorem validateJsonSchema_eq_ok_iff {schema : JsonObject} {payload : Json} {code : String} :
    validateJsonSchema platform schema payload code = .ok () ↔
      platform.schemaAccepts (.obj schema) payload = .ok true := by
  simp only [validateJsonSchema, except_bind_eq_ok, raiseUnless_eq_ok_iff]
  refine ⟨fun h => ?_, fun accepted => ⟨_, accepted, rfl⟩⟩
  rcases h with ⟨_, accepted, holds⟩
  rw [accepted, holds]

theorem parseOutput_eq_ok {output : Json} (parsed : parseOutput platform response = .ok output) :
    platform.jsonLoads response.content = .ok output := by
  unfold parseOutput at parsed
  split at parsed
  · cases parsed
  · exact parsed

theorem checkToolResult_eq_ok_iff {toolResult : JsonObject} :
    checkToolResult platform toolResult = .ok () ↔
      ∃ status, toolResult.get? "status" = some status ∧ IsSuccess status := by
  simp only [checkToolResult, except_bind_eq_ok, item_eq_ok_iff]
  apply exists_congr
  intro status
  apply and_congr_right
  intro _
  by_cases success : IsSuccess status
  · have hashable : status.hashable = true := by
      rcases success with rfl | rfl <;> rfl
    rw [if_pos hashable, if_pos success]
    exact ⟨fun _ => success, fun _ => rfl⟩
  · refine ⟨fun passed => ?_, fun holds => absurd holds success⟩
    split at passed
    · simp only [toolFailure, except_bind_eq_ok] at passed
      obtain ⟨_, -, impossible⟩ := passed
      cases impossible
    · cases passed

/-- What a response must satisfy for its run to complete. -/
structure CompletedWith (engine : AgentRuntimeEngine) (definition : AgentDefinition)
    (budget : ExecutionBudget) (response : ModelResponse) (result : JsonObject) : Prop where
  cost : ∀ maximum ∈ budget.maxCost, ∀ cost ∈ response.cost, cost ≤ maximum
  output : ∃ output, engine.platform.jsonLoads response.content = .ok output ∧
    engine.platform.schemaAccepts (.obj definition.outputSchema) output = .ok true ∧
      result.get? "output" = some output

theorem completedResult_eq_ok
    (completed : engine.completedResult definition request budget response toolResults =
      .ok result) :
    CompletedWith engine definition budget response result ∧
      result.get? "tool_results" = some (.arr (toolResults.map Json.obj)) := by
  unfold completedResult at completed
  simp only [checkCost, failUnless, ↓check_bind_eq_ok, except_bind_eq_ok, raiseUnless_eq_ok_iff,
    validateJsonSchema_eq_ok_iff] at completed
  obtain ⟨cost, output, parsed, accepted, built, success, contract⟩ := completed
  cases CanonicalContractCatalog.eq_of_validate contract
  obtain ⟨-, reported, toolResults⟩ := successResult_eq_ok success
  exact ⟨⟨cost, output, parseOutput_eq_ok parsed, accepted, reported⟩, toolResults⟩

/-- A returned result is the one of the body, or reports its failure. -/
theorem conclude_eq_ok {outcome : Except PyException JsonObject}
    (returned : engine.conclude request outcome toolResults = .ok result) :
    outcome = .ok result ∨ (∃ exc, outcome = .error exc) ∧
      result.get? "status" = some (.str "FAILED") ∧
        result.get? "tool_results" = some (.arr (toolResults.map Json.obj)) := by
  unfold conclude at returned
  split at returned
  · exact .inl returned
  · split at returned
    · rw [except_bind_eq_ok] at returned
      obtain ⟨built, failed, contract⟩ := returned
      cases CanonicalContractCatalog.eq_of_validate contract
      exact .inr ⟨⟨_, rfl⟩, failureResult_eq_ok failed⟩
    · cases returned

end

/-! ## The history of a run -/

/-- The tool call was sent for this intent and came back successful. -/
def Succeeded (request : JsonObject) (intent : ToolCallIntent) (event : AgentEvent) : Prop :=
  ∃ payload correlationId toolResult status,
    event = ⟨.execute payload correlationId, .ok toolResult⟩ ∧ Carries request intent payload ∧
      toolResult.get? "status" = some status ∧ IsSuccess status

/-- A tool call that raised, or whose result has no successful status. -/
def Unsuccessful : AgentEvent → Prop
  | ⟨.execute _ _, .error _⟩ => True
  | ⟨.execute _ _, .ok toolResult⟩ =>
    ¬ ∃ status, toolResult.get? "status" = some status ∧ IsSuccess status
  | _ => False

section

variable {engine : AgentRuntimeEngine} {definition : AgentDefinition} {request : JsonObject}
  {authorization : RuntimeAuthorization} {budget : ExecutionBudget} {plan : ExecutionPlan}
  {boundary : ToolBoundary} {t : AgentTrace}

/-- A loop that ends normally is one successful call for each intent of the plan. -/
theorem LoopRun.succeeded
    (loop : LoopRun engine request boundary (plan.toolCalls.zipIdx 1) t (.ok ())) :
    List.Forall₂ (Succeeded request) plan.toolCalls t := by
  rw [← List.zipIdx_map_fst 1 plan.toolCalls, List.forall₂_map_left_iff]
  apply loop.answered.imp
  intro turn event answered
  obtain ⟨payload, toolResult, asks, success, same⟩ := answered.answered
  obtain ⟨status, found, holds⟩ := checkToolResult_eq_ok_iff.mp success
  exact ⟨payload, _, toolResult, status, same, toolRequest_eq_ok asks.payload, found, holds⟩

theorem not_unsuccessful_of_succeeded {intents : List ToolCallIntent}
    (succeeded : List.Forall₂ (Succeeded request) intents t) :
    ∀ event ∈ t, ¬ Unsuccessful event := by
  induction succeeded with
  | nil => exact fun _ none => absurd none List.not_mem_nil
  | cons head _ ih =>
    obtain ⟨payload, correlationId, toolResult, status, rfl, -, found, holds⟩ := head
    refine List.forall_mem_cons.mpr ⟨fun failed => failed ⟨status, found, holds⟩, ih⟩

theorem length_received_of_succeeded {intents : List ToolCallIntent}
    (succeeded : List.Forall₂ (Succeeded request) intents t) :
    t.received.length = intents.length := by
  induction succeeded with
  | nil => rfl
  | cons head _ ih =>
    obtain ⟨payload, correlationId, toolResult, status, rfl, -, -, -⟩ := head
    exact congrArg Nat.succ ih

/-- The state a course ends in is what it has received. -/
theorem Course.toolResults_eq {r : Except PyException JsonObject} {toolResults : List JsonObject}
    (course : Course engine definition request authorization t r toolResults) :
    toolResults = t.received := by
  cases course with
  | refused | unplanned | overplanned | stopped | unasked => rfl
  | unanswered | answered =>
    rw [AgentTrace.received_append]
    exact (List.append_nil _).symm

/-- A course with an unsuccessful tool call ends where its loop does. -/
theorem Course.stopped_of_unsuccessful {r : Except PyException JsonObject}
    {toolResults : List JsonObject} {event : AgentEvent}
    (course : Course engine definition request authorization t r toolResults)
    (member : event ∈ t) (failed : Unsuccessful event) :
    ∃ plan boundary tools e, t = ⟨.plan definition request, .ok plan⟩ :: tools ∧ event ∈ tools ∧
      LoopRun engine request boundary (plan.toolCalls.zipIdx 1) tools (.error e) ∧
        r = .error e := by
  cases course with
  | refused => cases member
  | unplanned | overplanned =>
    cases List.mem_singleton.mp member
    cases failed
  | stopped prepared loop =>
    rcases List.mem_cons.mp member with rfl | inLoop
    · cases failed
    · exact ⟨_, _, _, _, rfl, inLoop, loop, rfl⟩
  | unasked prepared loop =>
    rcases List.mem_cons.mp member with rfl | inLoop
    · cases failed
    · exact absurd failed (not_unsuccessful_of_succeeded loop.succeeded event inLoop)
  | unanswered prepared loop | answered prepared loop =>
    rcases List.mem_append.mp member with inBody | last
    · rcases List.mem_cons.mp inBody with rfl | inLoop
      · cases failed
      · exact absurd failed (not_unsuccessful_of_succeeded loop.succeeded event inLoop)
    · cases List.mem_singleton.mp last
      cases failed

/-- The history of a run that completed: the plan, one successful call for each
of its intents, and then one model call, on the messages of the plan and one
message with the tool results if there are any. -/
structure Completion (engine : AgentRuntimeEngine) (definition : AgentDefinition)
    (request : JsonObject) (t : AgentTrace) (result : JsonObject) (plan : ExecutionPlan)
    (budget : ExecutionBudget) (tools : AgentTrace) (model : ModelRequest)
    (response : ModelResponse) : Prop where
  trace : t = ⟨.plan definition request, .ok plan⟩ :: tools ++ [⟨.complete model, .ok response⟩]
  tools : List.Forall₂ (Succeeded request) plan.toolCalls tools
  messages : model.messages = if plan.toolCalls = [] then plan.messages
    else plan.messages ++ [governedToolResults engine.platform t.received]
  input : ∃ input, request.get? "input" = some input ∧
    engine.platform.schemaAccepts (.obj definition.inputSchema) input = .ok true
  budgeted : HasBudget engine.platform request budget
  response : CompletedWith engine definition budget response result

theorem modelRequest_messages {platform : Platform} {messages : List JsonObject}
    {model : ModelRequest}
    (asked : modelRequest platform definition request budget boundary messages = .ok model) :
    model.messages = messages := by
  unfold modelRequest at asked
  split at asked
  · cases asked
  · simp only [except_bind_eq_ok, ModelRequest.ofFields_eq_ok_iff] at asked
    obtain ⟨_, -, _, -, _, -, c, -, same⟩ := asked
    rw [same]

theorem Course.completion {result : JsonObject} {toolResults : List JsonObject}
    (course : Course engine definition request authorization t (.ok result) toolResults) :
    ∃ plan budget tools model response,
      Completion engine definition request t result plan budget tools model response := by
  generalize ended : Except.ok result = r at course
  cases course with
  | refused | unplanned | overplanned | stopped | unasked | unanswered => cases ended
  | @answered budget plan boundary u model response prepared loop asked =>
    have received : AgentTrace.received (⟨.plan definition request, .ok plan⟩ :: u ++
        [⟨.complete model, .ok response⟩]) = u.received := by
      rw [AgentTrace.received_append]
      exact List.append_nil _
    have empty : u.received = [] ↔ plan.toolCalls = [] := by
      rw [← List.length_eq_zero_iff, length_received_of_succeeded loop.succeeded,
        List.length_eq_zero_iff]
    have input := prepared.admitted.input
    simp only [validateInput, except_bind_eq_ok, item_eq_ok_iff, validateJsonSchema_eq_ok_iff]
      at input
    refine ⟨plan, budget, u, model, response, rfl, loop.succeeded, ?_, input,
      (validateAuthorization_eq_ok prepared.admitted.authorized).2,
      (completedResult_eq_ok ended.symm).1⟩
    rw [modelRequest_messages asked, received, modelMessages]
    simp only [empty]

/-- A returned result lists what the run has received. -/
theorem toolResults_of_course {outcome : Except PyException JsonObject}
    {toolResults : List JsonObject} {result : JsonObject}
    (course : Course engine definition request authorization t outcome toolResults)
    (returned : engine.conclude request outcome toolResults = .ok result) :
    result.get? "tool_results" = some (.arr (t.received.map Json.obj)) := by
  rw [← course.toolResults_eq]
  rcases conclude_eq_ok returned with rfl | ⟨-, -, listed⟩
  · generalize ended : Except.ok result = r at course
    cases course with
    | refused | unplanned | overplanned | stopped | unasked | unanswered => cases ended
    | answered => exact (completedResult_eq_ok ended.symm).2
  · exact listed

end

/-- What a run may report. -/
structure OutcomeSound (engine : AgentRuntimeEngine) (definition : AgentDefinition)
    (request : JsonObject) (t : AgentTrace) (r : Except PyException JsonObject) : Prop where
  completed : ∀ result, r = .ok result → result.get? "status" = some (.str "COMPLETED") →
    ∃ plan budget tools model response,
      Completion engine definition request t result plan budget tools model response
  blocked : ∀ event ∈ t, Unsuccessful event → t.completions = [] ∧
    ∀ result, r = .ok result → result.get? "status" ≠ some (.str "COMPLETED")
  toolResults : ∀ result, r = .ok result →
    result.get? "tool_results" = some (.arr (t.received.map Json.obj))

/-- Whatever the planner, the tool client and the gateway do, a completed result
has the history it claims, no unsuccessful tool call is followed by a model call
or reported as completed, and every returned result, of a failed run too, lists
the received tool results in order, none lost and none twice. -/
theorem run_outcomeSound {engine : AgentRuntimeEngine} {definition : AgentDefinition}
    {request : JsonObject} {authorization : RuntimeAuthorization} {t : AgentTrace}
    {r : Except PyException JsonObject}
    (run : Dialogue.Runs (engine.run definition request authorization) t r) :
    OutcomeSound engine definition request t r := by
  rcases runs_run run with ⟨rfl, exc, rfl⟩ | ⟨outcome, toolResults, course, rfl⟩
  · exact ⟨nofun, fun _ none => absurd none List.not_mem_nil, nofun⟩
  refine ⟨fun result returned status => ?_, fun event member failed => ?_,
    fun result returned => ?_⟩
  · rcases conclude_eq_ok returned with rfl | ⟨-, failed, -⟩
    · exact course.completion
    · rw [failed] at status
      exact absurd status (by decide)
  · obtain ⟨plan, boundary, tools, e, rfl, -, loop, rfl⟩ :=
      course.stopped_of_unsuccessful member failed
    have silent := loop.completions_eq_nil
    refine ⟨silent, fun result returned status => ?_⟩
    rcases conclude_eq_ok returned with impossible | ⟨-, failed, -⟩
    · cases impossible
    · rw [failed] at status
      exact absurd status (by decide)
  · exact toolResults_of_course course returned

/-- The diagnostic engine on a platform that parses the model's answer. -/
def completingEngine : AgentRuntimeEngine :=
  { diagnosticEngine with
    platform :=
      { diagnosticPlatform with
        jsonLoads := fun text =>
          if text = "\x7b\x7d" then .ok (.obj []) else .error .jsonDecodeError } }

theorem run_outcomeSound_diagnostic :
    OutcomeSound completingEngine diagnosticDefinition
      (diagnosticRequest [("max_tokens", .int 200)])
      (diagnosticRun completingEngine [("max_tokens", .int 200)]
        [diagnosticIntent "diagnostic.echo"]).1
      (diagnosticRun completingEngine [("max_tokens", .int 200)]
        [diagnosticIntent "diagnostic.echo"]).2 ∧
    ((diagnosticRun completingEngine [("max_tokens", .int 200)]
      [diagnosticIntent "diagnostic.echo"]).2.toOption.bind fun result =>
        result.get? "status") = some (.str "COMPLETED") :=
  ⟨run_outcomeSound (Dialogue.converse_runs _ _ _), by decide +kernel⟩

end AgentRuntimeEngine

end Genesis

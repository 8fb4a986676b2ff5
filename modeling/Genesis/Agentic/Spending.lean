import Genesis.Agentic.Outcome

/-!
# What a completed run may spend

`AgentRuntimeEngine` deployed with a `GovernedModelGateway` and its budget guard.
The guard compares the tokens a run requests with its budget before the provider
is asked; of what the provider reports afterwards the engine compares the cost,
if there is one.  So a completed run is within its budget exactly when the
provider keeps to the tokens it was asked for and reports a limited cost.
-/

namespace Genesis

open Py Session

/-! ## The deployment -/

/-- The calls of an agent engine behind a governed gateway. -/
inductive GovernedCall : Type
  | plan (definition : AgentDefinition) (request : JsonObject)
  | execute (payload : JsonObject) (correlationId : String)
  | invoke (call : ProviderCall)

abbrev GovernedCall.Reply : GovernedCall → Type
  | .plan _ _ => ExecutionPlan
  | .execute _ _ => JsonObject
  | .invoke _ => ModelResponse

abbrev GovernedEvent : Type :=
  Dialogue.Event GovernedCall fun call => Except PyException call.Reply

abbrev GovernedTrace : Type := List GovernedEvent

/-- The response of an event. -/
def GovernedEvent.response? : GovernedEvent → Option ModelResponse
  | ⟨.invoke _, .ok response⟩ => some response
  | _ => none

/-- The responses of the provider adapters. -/
def GovernedTrace.responses (u : GovernedTrace) : List ModelResponse :=
  u.filterMap GovernedEvent.response?

/-- The response of an event of the engine. -/
def AgentEvent.response? : AgentEvent → Option ModelResponse
  | ⟨.complete _, .ok response⟩ => some response
  | _ => none

/-- The responses of the gateway. -/
def AgentTrace.responses (t : AgentTrace) : List ModelResponse :=
  t.filterMap AgentEvent.response?

theorem AgentTrace.responses_append {t u : AgentTrace} :
    responses (t ++ u) = responses t ++ responses u :=
  List.filterMap_append

/-- A gateway whose budget guard is the `ExecutionBudgetGuard`. -/
def guardedGateway (policy : StaticModelPolicy)
    (router : ModelRequest → Except PyException String) : GovernedModelGateway where
  policy := policy
  budgetGuard := ExecutionBudgetGuard.validate
  router := router

/-- The planner and the tool client are asked as they are, the model through the gateway. -/
def GovernedModelGateway.serveAgent (gateway : GovernedModelGateway) : (call : AgentCall) →
    Dialogue GovernedCall (fun call => Except PyException call.Reply)
      (Except PyException call.Reply)
  | .plan definition request => .question (GovernedCall.plan definition request)
  | .execute payload correlationId => .question (GovernedCall.execute payload correlationId)
  | .complete request =>
    (gateway.complete request).handle fun call => .question (GovernedCall.invoke call)

namespace AgentRuntimeEngine

/-- `run`, its model calls answered by the gateway. -/
def deployed (engine : AgentRuntimeEngine) (gateway : GovernedModelGateway)
    (definition : AgentDefinition) (request : JsonObject) (authorization : RuntimeAuthorization) :
    Dialogue GovernedCall (fun call => Except PyException call.Reply)
      (Except PyException JsonObject) :=
  (engine.run definition request authorization).handle gateway.serveAgent

/-- The reported usage is within the token limit, and within the cost limit if there is one. -/
def WithinBudget (budget : ExecutionBudget) (result : JsonObject) : Prop :=
  ∃ (usage : JsonObject) (outputTokens : ℕ),
    result.get? "usage" = some (.obj usage) ∧
      usage.get? "output_tokens" = some (.int outputTokens) ∧
      (∃ maximum ∈ budget.maxTokens, outputTokens ≤ maximum) ∧
      ∀ maximum ∈ budget.maxCost,
        ∃ cost, usage.get? "estimated_cost" = some (.float cost) ∧ cost ≤ maximum

/-- The provider has kept to the tokens of the budget, and reports a limited cost. -/
structure Keeps (budget : ExecutionBudget) (response : ModelResponse) : Prop where
  tokens : ∀ maximum ∈ budget.maxTokens, response.outputTokens ≤ maximum
  reported : budget.maxCost.isSome → response.cost.isSome

section

variable {engine : AgentRuntimeEngine} {gateway : GovernedModelGateway}
  {definition : AgentDefinition} {request result : JsonObject}
  {authorization : RuntimeAuthorization} {budget : ExecutionBudget} {boundary : ToolBoundary}
  {response : ModelResponse} {toolResults : List JsonObject} {t : AgentTrace} {u : GovernedTrace}

/-- The deployment receives the responses the engine receives. -/
theorem responses_of_serves (serves : Dialogue.Serves gateway.serveAgent t u) :
    u.responses = t.responses := by
  induction serves with
  | nil => rfl
  | @cons i r t u v served _ ih =>
    cases i with
    | plan definition request =>
      cases Dialogue.Runs.question_iff.mp served
      exact ih
    | execute payload correlationId =>
      cases Dialogue.Runs.question_iff.mp served
      exact ih
    | complete request =>
      rcases GovernedModelGateway.runs_handle_complete.mp served with ⟨e, -, rfl, rfl⟩ |
        ⟨routeId, -, invoked⟩
      · exact ih
      · cases Dialogue.Runs.question_iff.mp invoked
        cases r with
        | error e => exact ih
        | ok response => exact congrArg (response :: ·) ih

theorem LoopRun.responses_eq_nil {turns : List (ToolCallIntent × ℕ)}
    {r : Except PyException Unit} (loop : LoopRun engine request boundary turns t r) :
    t.responses = [] := by
  induction loop with
  | finished | denied | malformed | raised | failed => rfl
  | next _ _ _ ih => exact ih

/-- A completed result reports the usage of its response. -/
theorem usage_of_completedResult
    (completed : engine.completedResult definition request budget response toolResults =
      .ok result) :
    result.get? "usage" = some (.obj (engine.usage response)) := by
  simp only [completedResult, successResult, except_bind_eq_ok] at completed
  obtain ⟨_, -, _, -, _, -, built, ⟨identity, identified, assembled⟩, contract⟩ := completed
  cases CanonicalContractCatalog.eq_of_validate contract
  cases assembled
  rw [Dict.get?_append, resultIdentity_get?_eq_none identified (by decide)]
  rfl

theorem usage_outputTokens :
    Dict.get? (engine.usage response) "output_tokens" = some (.int response.outputTokens) := by
  rw [usage, Dict.get?_append]
  rfl

theorem usage_estimatedCost :
    Dict.get? (engine.usage response) "estimated_cost" = response.cost.map Json.float := by
  rw [usage, Dict.get?_append]
  cases response.cost <;> rfl

/-- A run on a token budget whose cost passed is within its budget exactly when
the provider has kept to it. -/
theorem withinBudget_iff_keeps {maximum : ℕ} (limited : budget.maxTokens = some maximum)
    (cost : ∀ maximum ∈ budget.maxCost, ∀ cost ∈ response.cost, cost ≤ maximum)
    (reported : result.get? "usage" = some (.obj (engine.usage response))) :
    WithinBudget budget result ↔ Keeps budget response := by
  refine ⟨?_, ?_⟩
  · intro within
    rcases within with ⟨usage, outputTokens, present, tokens, ⟨maximum', set, below⟩, costs⟩
    cases reported.symm.trans present
    have same := usage_outputTokens.symm.trans tokens
    simp only [Option.some.injEq, Json.int.injEq, Nat.cast_inj] at same
    refine ⟨fun other limit => ?_, fun costly => ?_⟩
    · cases Option.mem_unique set limit
      omega
    · obtain ⟨maximum, set⟩ := Option.isSome_iff_exists.mp costly
      obtain ⟨amount, estimated, -⟩ := costs maximum set
      rw [usage_estimatedCost, Option.map_eq_some_iff] at estimated
      obtain ⟨_, spent, -⟩ := estimated
      rw [spent]
      rfl
  · intro keeps
    refine ⟨_, response.outputTokens, reported, usage_outputTokens,
      ⟨maximum, limited, keeps.tokens maximum limited⟩, fun maximum set => ?_⟩
    have costly : budget.maxCost.isSome := Option.isSome_of_mem set
    obtain ⟨amount, spent⟩ := Option.isSome_iff_exists.mp (keeps.reported costly)
    refine ⟨amount, ?_, cost maximum set amount spent⟩
    rw [usage_estimatedCost, spent]
    rfl

theorem Course.spent
    (course : Course engine definition request authorization t (.ok result) toolResults) :
    ∃ budget response, HasBudget engine.platform request budget ∧ t.responses = [response] ∧
      (WithinBudget budget result ↔ Keeps budget response) := by
  generalize ended : Except.ok result = r at course
  cases course with
  | refused | unplanned | overplanned | stopped | unasked | unanswered => cases ended
  | @answered budget plan boundary v model response prepared loop asked =>
    have completed := ended.symm
    have limited : ∃ maximum, budget.maxTokens = some maximum := by
      unfold modelRequest at asked
      split at asked
      · cases asked
      · next maximum set => exact ⟨maximum, set⟩
    obtain ⟨maximum, limited⟩ := limited
    refine ⟨budget, response, (validateAuthorization_eq_ok prepared.admitted.authorized).2, ?_,
      withinBudget_iff_keeps limited (completedResult_eq_ok completed).1.cost
        (usage_of_completedResult completed)⟩
    rw [AgentTrace.responses_append]
    exact congrArg (· ++ [response]) loop.responses_eq_nil

/-- A completed result is the one of the body. -/
theorem course_of_completed {r : Except PyException JsonObject}
    (run : Dialogue.Runs (engine.run definition request authorization) t r)
    (returned : r = .ok result) (completed : result.get? "status" = some (.str "COMPLETED")) :
    ∃ toolResults, Course engine definition request authorization t (.ok result) toolResults := by
  rcases runs_run run with ⟨-, exc, rfl⟩ | ⟨outcome, toolResults, course, rfl⟩
  · cases returned
  rcases conclude_eq_ok returned with rfl | ⟨-, failed, -⟩
  · exact ⟨toolResults, course⟩
  · rw [failed] at completed
    exact absurd completed (by decide)

end

/-- Whatever the budget, the policy and the router, the planner, the tool client
and the provider do, a completed run has had one response, and is within its
budget exactly when that response keeps to the token limit and, on a limited
cost, reports one. -/
theorem run_withinBudget_iff {engine : AgentRuntimeEngine} {policy : StaticModelPolicy}
    {router : ModelRequest → Except PyException String} {definition : AgentDefinition}
    {request result : JsonObject} {authorization : RuntimeAuthorization} {u : GovernedTrace}
    (run : Dialogue.Runs
      (engine.deployed (guardedGateway policy router) definition request authorization) u
      (.ok result))
    (completed : result.get? "status" = some (.str "COMPLETED")) :
    ∃ budget response, HasBudget engine.platform request budget ∧ u.responses = [response] ∧
      (WithinBudget budget result ↔ Keeps budget response) := by
  obtain ⟨t, outer, serves⟩ := Dialogue.Runs.of_handle run
  obtain ⟨toolResults, course⟩ := course_of_completed outer rfl completed
  rw [responses_of_serves serves]
  exact course.spent

/-! ## A run over a governed gateway -/

/-- Every call of the planner is answered by a plan without tools, and the
provider by this response. -/
def spendingReply (response : ModelResponse) :
    GovernedTrace → (call : GovernedCall) → Except PyException call.Reply
  | _, .plan _ _ => .ok (diagnosticPlan [])
  | _, .execute _ _ => .ok []
  | _, .invoke _ => .ok response

def spendingRequest : JsonObject :=
  diagnosticRequest [("max_tokens", .int 200), ("max_cost", .int 1)]

def spendingBudget : ExecutionBudget :=
  ⟨{ maxTokens := some 200, maxCost := some 1 }, by decide⟩

def spendingGateway : GovernedModelGateway :=
  guardedGateway { allowed := ["policy.runtime-test"] } (StaticModelRouter.route
    { routes := ["route.test"], policyRoutes := [("policy.runtime-test", "route.test")] })

def spendingRun (response : ModelResponse) : GovernedTrace × Except PyException JsonObject :=
  (completingEngine.deployed spendingGateway diagnosticDefinition spendingRequest
    diagnosticAuthorization).converse (spendingReply response) []

theorem spendingRequest_hasBudget :
    HasBudget completingEngine.platform spendingRequest spendingBudget :=
  ⟨_, _, rfl, rfl, by decide +kernel⟩

def spendingResponse (outputTokens : ℕ) (cost : Option ℚ)
    (cost_nonneg : ∀ amount ∈ cost, 0 ≤ amount := by decide) : ModelResponse where
  content := "\x7b\x7d"
  routeId := "route.test"
  inputTokens := 14
  outputTokens := outputTokens
  cost := cost
  cost_nonneg := cost_nonneg

def spendingResult (response : ModelResponse) : JsonObject :=
  (spendingRun response).2.toOption.getD []

/-- What a completed run of this deployment has returned. -/
theorem runs_spendingRun {response : ModelResponse}
    (completed : (spendingResult response).get? "status" = some (.str "COMPLETED")) :
    Dialogue.Runs (completingEngine.deployed spendingGateway diagnosticDefinition spendingRequest
      diagnosticAuthorization) (spendingRun response).1 (.ok (spendingResult response)) := by
  have run := Dialogue.converse_runs (spendingReply response) []
    (completingEngine.deployed spendingGateway diagnosticDefinition spendingRequest
      diagnosticAuthorization)
  have returned : (spendingRun response).2 = .ok (spendingResult response) := by
    unfold spendingResult at completed ⊢
    cases ended : (spendingRun response).2 with
    | error e =>
      rw [ended] at completed
      cases completed
    | ok result => rfl
  rw [← returned]
  exact run

theorem run_withinBudget_iff_spending :
    WithinBudget spendingBudget (spendingResult (spendingResponse 10 (some 1))) := by
  have completed : (spendingResult (spendingResponse 10 (some 1))).get? "status" =
      some (.str "COMPLETED") := by
    decide +kernel
  obtain ⟨budget, response, budgeted, responses, within⟩ :=
    run_withinBudget_iff (runs_spendingRun completed) completed
  have received : (spendingRun (spendingResponse 10 (some 1))).1.responses =
      [spendingResponse 10 (some 1)] := by
    decide +kernel
  cases spendingRequest_hasBudget.unique budgeted
  rw [received] at responses
  cases responses
  refine within.mpr ⟨fun maximum limit => ?_, fun _ => rfl⟩
  cases limit
  decide

/-- A provider that reports five times the authorized tokens, and no cost. -/
theorem withinBudget_counterexample :
    ¬ ∀ (engine : AgentRuntimeEngine) (policy : StaticModelPolicy)
      (router : ModelRequest → Except PyException String) (definition : AgentDefinition)
      (request result : JsonObject) (authorization : RuntimeAuthorization) (u : GovernedTrace)
      (budget : ExecutionBudget),
      Dialogue.Runs
        (engine.deployed (guardedGateway policy router) definition request authorization) u
        (.ok result) →
        result.get? "status" = some (.str "COMPLETED") →
          HasBudget engine.platform request budget → WithinBudget budget result := by
  intro safe
  have completed : (spendingResult (spendingResponse 1000 none)).get? "status" =
      some (.str "COMPLETED") := by
    decide +kernel
  have within := safe _ _ _ _ _ _ _ _ _ (runs_spendingRun completed) completed
    spendingRequest_hasBudget
  rcases within with ⟨usage, outputTokens, present, tokens, ⟨maximum, set, below⟩, -⟩
  cases set
  have reported : (spendingResult (spendingResponse 1000 none)).get? "usage" =
      some (.obj (completingEngine.usage (spendingResponse 1000 none))) := by
    decide +kernel
  cases reported.symm.trans present
  have same := usage_outputTokens.symm.trans tokens
  simp only [Option.some.injEq, Json.int.injEq, Nat.cast_inj] at same
  have spent : outputTokens = 1000 := same.symm
  omega

end AgentRuntimeEngine

end Genesis

import Genesis.Deployment.Research

/-!
# The parts of a deployment that come with the repository

`SinglePassPlanner` plans without tools, and `DisabledProviderAdapter` stands in
for every provider that is not configured.  With the one nothing is posted and a
provider sees the purpose of the definition and the input of the request
(`singlePass_conduct`); with the other nothing completes (`disabled_inert`).
-/

namespace Genesis

open Py

/-! ## The planner -/

namespace SinglePassPlanner

/-- The messages for this input. -/
def messages (platform : Platform) (definition : AgentDefinition) (input : Json) :
    List JsonObject :=
  [[("role", .str "system"), ("content", .str definition.purpose)],
    [("role", .str "user"), ("content", .str (platform.dumps input))]]

/-- `plan`. -/
def plan (platform : Platform) (definition : AgentDefinition) (request : JsonObject) :
    Except PyException ExecutionPlan := do
  let input ← item request "input"
  pure
    { messages := messages platform definition input
      messages_nonempty := List.cons_ne_nil _ _ }

/-- The planner answers the calls for a plan; the other calls go out. -/
def serve (platform : Platform) : (call : OutsideCall) →
    Dialogue OutsideCall OutsideCall.Reply call.Reply
  | .plan definition request => .done (plan platform definition request)
  | .post call => .question (OutsideCall.post call)
  | .invoke call => .question (OutsideCall.invoke call)

theorem plan_eq_ok {platform : Platform} {definition : AgentDefinition} {request : JsonObject}
    {planned : ExecutionPlan} (built : plan platform definition request = .ok planned) :
    planned.toolCalls = [] ∧ ∃ input, request.get? "input" = some input ∧
      planned.messages = messages platform definition input := by
  simp only [plan, except_bind_eq_ok, item_eq_ok_iff] at built
  obtain ⟨input, found, same⟩ := built
  cases same
  exact ⟨rfl, input, found, rfl⟩

end SinglePassPlanner

/-! ## The provider -/

namespace DisabledProviderAdapter

/-- `complete`. -/
def complete (_ : ProviderCall) : Except PyException ModelResponse := .error (.other "RuntimeError")

/-- Every route leads to the disabled adapter; the other calls go out. -/
def serve : (call : OutsideCall) → Dialogue OutsideCall OutsideCall.Reply call.Reply
  | .plan definition request => .question (OutsideCall.plan definition request)
  | .post call => .question (OutsideCall.post call)
  | .invoke call => .done (complete call)

/-- No provider answers. -/
theorem not_answered {t u : OutsideTrace} (serves : Dialogue.Serves serve t u)
    (call : ProviderCall) (response : ModelResponse) : ⟨.invoke call, .ok response⟩ ∉ t := by
  intro member
  obtain ⟨v, -, run⟩ := serves.runs_of_mem member
  cases (Dialogue.Runs.done_iff.mp run).2

end DisabledProviderAdapter

namespace AgentRuntimeEngine

section

variable {engine : AgentRuntimeEngine} {deployment : Deployment} {definition : AgentDefinition}
  {request : JsonObject} {authorization : RuntimeAuthorization} {u v : OutsideTrace}

/-- A plan of the planner has arrived without a call. -/
theorem plan_of_serves {reply : Except PyException ExecutionPlan}
    (serves : Dialogue.Serves (SinglePassPlanner.serve engine.platform)
      (⟨.plan definition request, reply⟩ :: u) v) :
    SinglePassPlanner.plan engine.platform definition request = reply ∧
      Dialogue.Serves (SinglePassPlanner.serve engine.platform) u v := by
  cases serves with
  | cons planned rest =>
    obtain ⟨rfl, rfl⟩ := Dialogue.Runs.done_iff.mp planned
    exact ⟨rfl, rest⟩

end

/-- A run planned by the `SinglePassPlanner` posts nothing.  If it reaches a provider,
then the authorization, the definition and the request match, and the provider sees
the purpose and the input, on the policy and the tokens of the run. -/
theorem singlePass_conduct (engine : AgentRuntimeEngine) (deployment : Deployment)
    (definition : AgentDefinition) (request : JsonObject) (authorization : RuntimeAuthorization)
    (v : OutsideTrace) (r : Except PyException JsonObject)
    (run : Dialogue.Runs ((engine.runOutside deployment definition request authorization).handle
      (SinglePassPlanner.serve engine.platform)) v r) :
    v = [] ∨ ∃ call reply input budget, v = [⟨.invoke call, reply⟩] ∧
      Matches definition request authorization ∧ HasBudget engine.platform request budget ∧
      request.get? "input" = some input ∧
      call.request.messages = SinglePassPlanner.messages engine.platform definition input ∧
      call.request.policyRef = definition.modelPolicyRef ∧
      budget.maxTokens = some call.request.requestedMaxTokens ∧
      deployment.gateway.selectRoute call.request = .ok call.routeId := by
  obtain ⟨u, outer, serves⟩ := Dialogue.Runs.of_handle run
  cases conduct_of_runs outer with
  | idle =>
    cases serves
    exact .inl rfl
  | planning =>
    obtain ⟨-, rest⟩ := plan_of_serves serves
    cases rest
    exact .inl rfl
  | @posting budget plan asked left posts governs split each =>
    obtain ⟨planned, rest⟩ := plan_of_serves serves
    obtain ⟨empty, -⟩ := SinglePassPlanner.plan_eq_ok planned
    rw [empty] at split
    obtain ⟨rfl, rfl⟩ := List.append_eq_nil_iff.mp split.symm
    cases each
    cases rest
    exact .inl rfl
  | @consulting budget plan exchanges call governs each consults reply =>
    obtain ⟨planned, rest⟩ := plan_of_serves serves
    obtain ⟨empty, input, found, messages⟩ := SinglePassPlanner.plan_eq_ok planned
    rw [empty] at each
    cases each
    cases rest with
    | cons invoked none =>
      cases none
      cases Dialogue.Runs.question_iff.mp invoked
      exact .inr ⟨call, reply, input, budget, rfl, governs.matched, governs.budgeted, found,
        consults.messages.trans messages, consults.policyRef, consults.tokens, consults.admitted⟩

def singlePassRun : OutsideTrace × Except PyException JsonObject :=
  ((completingEngine.runOutside diagnosticDeployment diagnosticDefinition spendingRequest
    diagnosticAuthorization).handle (SinglePassPlanner.serve completingEngine.platform)).converse
      (fun _ => outsideReply) []

theorem singlePass_conduct_diagnostic :
    ∃ call reply input, singlePassRun.1 = [⟨.invoke call, reply⟩] ∧
      spendingRequest.get? "input" = some input ∧
      call.request.messages =
        SinglePassPlanner.messages completingEngine.platform diagnosticDefinition input := by
  have length : singlePassRun.1.length = 1 := by decide +kernel
  rcases singlePass_conduct completingEngine diagnosticDeployment diagnosticDefinition
      spendingRequest diagnosticAuthorization singlePassRun.1 singlePassRun.2
      (Dialogue.converse_runs _ [] _) with
    silent | ⟨call, reply, input, budget, asked, -, -, found, messages, -⟩
  · rw [silent] at length
    cases length
  · exact ⟨call, reply, input, asked, found, messages⟩

end AgentRuntimeEngine

/-- Where every route leads to the disabled adapter, every result of a run reports a
failure, and no research returns, whatever planner and Backend do. -/
theorem DisabledProviderAdapter.disabled_inert :
    (∀ (engine : AgentRuntimeEngine) (deployment : Deployment) (definition : AgentDefinition)
      (request : JsonObject) (authorization : RuntimeAuthorization) (v : OutsideTrace)
      (result : JsonObject),
      Dialogue.Runs ((engine.runOutside deployment definition request authorization).handle serve)
          v (.ok result) →
        result.get? "status" = some (.str "FAILED")) ∧
    ∀ (engine : ResearchEngine) (deployment : ResearchDeployment) (payload : JsonObject)
      (v : OutsideTrace) (outcome : Except PyException JsonObject × Unit),
      Dialogue.Runs ((engine.researchOutside deployment payload).handle serve) v outcome →
        ∃ exc, outcome.1 = .error exc := by
  refine ⟨?_, ?_⟩
  · intro engine deployment definition request authorization v result run
    obtain ⟨u, outer, serves⟩ := Dialogue.Runs.of_handle run
    rcases AgentRuntimeEngine.failed_or_answered outer with failed | ⟨call, response, answered⟩
    · exact failed
    · exact absurd answered (not_answered serves call response)
  · intro engine deployment payload v outcome run
    obtain ⟨u, outer, serves⟩ := Dialogue.Runs.of_handle run
    cases returned : outcome.1 with
    | error exc => exact ⟨exc, rfl⟩
    | ok result =>
      obtain ⟨call, response, answered⟩ := ResearchEngine.answered_of_returned outer returned
      exact absurd answered (not_answered serves call response)

namespace AgentRuntimeEngine

/-- The run of the tests, with the disabled adapter behind its route. -/
def disabledRun : OutsideTrace × Except PyException JsonObject :=
  ((completingEngine.runOutside diagnosticDeployment diagnosticDefinition spendingRequest
    diagnosticAuthorization).handle DisabledProviderAdapter.serve).converse
      (fun _ => outsideReply) []

theorem disabled_inert_diagnostic :
    ∃ result, disabledRun.2 = .ok result ∧ result.get? "status" = some (.str "FAILED") := by
  have returns : disabledRun.2.toOption.map (fun _ => ()) = some () := by decide +kernel
  obtain ⟨result, returned, -⟩ := exists_ok_of_map returns
  have run : Dialogue.Runs ((completingEngine.runOutside diagnosticDeployment diagnosticDefinition
      spendingRequest diagnosticAuthorization).handle DisabledProviderAdapter.serve)
      disabledRun.1 disabledRun.2 := Dialogue.converse_runs _ [] _
  rw [returned] at run
  exact ⟨result, returned, DisabledProviderAdapter.disabled_inert.1 _ _ _ _ _ _ _ run⟩

end AgentRuntimeEngine

end Genesis

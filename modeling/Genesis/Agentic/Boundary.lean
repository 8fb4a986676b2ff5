import Genesis.Agentic.Course

/-!
# The tool boundary of a run

Which tool requests a run can send, whatever its planner, tool client and model
gateway do.  `AgentRuntimeEngine.run_boundarySafe` bounds them from above by the
plan, the three tool lists and the budget; `run_sent_eq_nil_iff` says when a
planned run sends none, and `sideEffect_counterexample` is a run that can only
fail and yet sends one.
-/

namespace Genesis

open Py Session

namespace AgentRuntimeEngine

/-! ## What the checks establish -/

/-- The authorization, the definition and the request name the same run and agent. -/
structure Matches (definition : AgentDefinition) (request : JsonObject)
    (authorization : RuntimeAuthorization) : Prop where
  runId : request.get? "run_id" = some (.str authorization.runId)
  agentId : request.get? "agent_id" = some (.str definition.agentId)
  agentVersion : request.get? "agent_version" = some (.str definition.agentVersion)
  capabilityId : ∃ capabilityId ∈ definition.capabilityIds,
    request.get? "capability_id" = some (.str capabilityId)

/-- The execution budget of a request. -/
def HasBudget (platform : Platform) (request : JsonObject) (budget : ExecutionBudget) : Prop :=
  ∃ context rawBudget : JsonObject, request.get? "execution_context" = some (.obj context) ∧
    context.get? "execution_budget" = some (.obj rawBudget) ∧
      ExecutionBudget.modelValidate platform rawBudget = .ok budget

/-- The tool is on all three lists. -/
structure Permitted (definition : AgentDefinition) (request : JsonObject)
    (authorization : RuntimeAuthorization) (toolId : String) : Prop where
  requested : ∃ value members, request.get? "requested_tool_ids" = some value ∧
    value.iterate? = some members ∧ .str toolId ∈ members
  defined : toolId ∈ definition.allowedToolIds
  authorized : toolId ∈ authorization.allowedToolIds

/-- The tool request carries out this intent, under the run and context of the request. -/
structure Carries (request : JsonObject) (intent : ToolCallIntent) (payload : JsonObject) :
    Prop where
  toolId : payload.get? "tool_id" = some (.str intent.toolId)
  arguments : payload.get? "arguments" = some (.obj intent.arguments)
  runId : payload.get? "run_id" = request.get? "run_id"
  executionContext : payload.get? "execution_context" = request.get? "execution_context"

section

variable {engine : AgentRuntimeEngine} {platform : Platform} {definition : AgentDefinition}
  {request : JsonObject} {authorization : RuntimeAuthorization} {budget : ExecutionBudget}
  {plan : ExecutionPlan} {boundary : ToolBoundary} {intent : ToolCallIntent}

theorem executionBudget_eq_ok {context : JsonObject}
    (budgeted : executionBudget platform context = .ok budget) :
    ∃ rawBudget, context.get? "execution_budget" = some (.obj rawBudget) ∧
      ExecutionBudget.modelValidate platform rawBudget = .ok budget := by
  unfold executionBudget at budgeted
  split at budgeted
  · next rawBudget found => exact ⟨rawBudget, found, budgeted⟩
  · cases budgeted

theorem validateAuthorization_eq_ok
    (authorized : validateAuthorization platform definition request authorization = .ok budget) :
    Matches definition request authorization ∧ HasBudget platform request budget := by
  simp only [validateAuthorization, failUnless, ↓check_bind_eq_ok, except_bind_eq_ok,
    item_eq_ok_iff, raiseUnless_eq_ok_iff, asDict_eq_ok_iff] at authorized
  rcases authorized with ⟨_, run, rfl, -, _, agent, rfl, _, version, rfl, _, found, capability, _,
    container, context, rfl, budgeted⟩
  rcases List.mem_map.mp capability with ⟨capabilityId, member, rfl⟩
  rcases executionBudget_eq_ok budgeted with ⟨rawBudget, raw, valid⟩
  exact ⟨⟨run, agent, version, capabilityId, member, found⟩, context, rawBudget, container, raw,
    valid⟩

theorem enforcePlanLimits_eq_ok_iff {toolCalls : List ToolCallIntent} :
    enforcePlanLimits toolCalls budget = .ok () ↔
      (∀ maximum ∈ budget.maxSteps, toolCalls.length + 1 ≤ maximum) ∧
        ∀ maximum ∈ budget.maxToolCalls, toolCalls.length ≤ maximum := by
  rw [enforcePlanLimits, check_bind_eq_ok, raiseUnless_eq_ok_iff, raiseUnless_eq_ok_iff]

theorem toolBoundary_eq_ok
    (within : toolBoundary platform definition request authorization budget plan = .ok boundary) :
    enforcePlanLimits plan.toolCalls budget = .ok () ∧
      frozenset ((request.get? "requested_tool_ids").getD (.arr [])) =
        .ok boundary.requestedToolIds ∧
      boundary.allowedByDefinition = definition.allowedToolIds ∧
      boundary.allowedByBackend = authorization.allowedToolIds := by
  simp only [toolBoundary, except_bind_eq_ok] at within
  rcases within with ⟨_, limits, members, requested, _, -, _, -, built⟩
  cases built
  exact ⟨limits, requested, rfl, rfl⟩

/-- The loop lets an intent pass exactly when its tool is on all three lists. -/
theorem checkIntent_eq_ok_iff
    (within : toolBoundary platform definition request authorization budget plan = .ok boundary) :
    checkIntent boundary intent = .ok () ↔
      Permitted definition request authorization intent.toolId := by
  rcases toolBoundary_eq_ok within with ⟨-, members, defined, authorized⟩
  have iterated := iterate?_of_frozenset members
  have requested : Json.str intent.toolId ∈ boundary.requestedToolIds ↔
      ∃ value members, request.get? "requested_tool_ids" = some value ∧
        value.iterate? = some members ∧ .str intent.toolId ∈ members := by
    cases given : request.get? "requested_tool_ids" with
    | none =>
      rw [given] at iterated
      rw [← Option.some.inj iterated]
      simp
    | some value =>
      rw [given] at iterated
      simp only [Option.some.injEq, exists_and_left, exists_eq_left']
      refine ⟨?_, ?_⟩
      · intro member
        exact ⟨_, iterated, member⟩
      · intro h
        rcases h with ⟨others, same, member⟩
        cases iterated.symm.trans same
        exact member
  rw [checkIntent, check_bind_eq_ok, check_bind_eq_ok, raiseUnless_eq_ok_iff,
    raiseUnless_eq_ok_iff, raiseUnless_eq_ok_iff, defined, authorized, requested]
  exact ⟨fun ⟨r, d, a⟩ => ⟨r, d, a⟩, fun p => ⟨p.requested, p.defined, p.authorized⟩⟩

theorem toolRequest_eq_ok {index : ℕ} {payload : JsonObject}
    (built : engine.toolRequest request intent.toolId intent.arguments index = .ok payload) :
    Carries request intent payload := by
  simp only [toolRequest, except_bind_eq_ok, item_eq_ok_iff] at built
  rcases built with ⟨runId, run, executionContext, context, built⟩
  cases built
  exact ⟨rfl, rfl, run.symm, context.symm⟩

/-- The tool request of an admitted run can always be built. -/
theorem exists_toolRequest (found : Matches definition request authorization)
    (budgeted : HasBudget platform request budget) (toolId : String) (arguments : JsonObject)
    (index : ℕ) : ∃ payload, engine.toolRequest request toolId arguments index = .ok payload := by
  rcases budgeted with ⟨context, -, container, -⟩
  simp only [toolRequest, except_bind_eq_ok, item_eq_ok_iff]
  exact ⟨_, _, found.runId, _, container, rfl⟩

end

/-! ## The requests of a run -/

section

variable {engine : AgentRuntimeEngine} {definition : AgentDefinition} {request : JsonObject}
  {authorization : RuntimeAuthorization} {budget : ExecutionBudget} {plan : ExecutionPlan}
  {boundary : ToolBoundary} {t : AgentTrace}

/-- What a planned run has sent: the first calls of the plan, each permitted. -/
structure SentWithin (definition : AgentDefinition) (request : JsonObject)
    (authorization : RuntimeAuthorization) (budget : ExecutionBudget) (plan : ExecutionPlan)
    (sent : List JsonObject) : Prop where
  length : sent.length ≤ plan.toolCalls.length
  inOrder : List.Forall₂ (Carries request) (plan.toolCalls.take sent.length) sent
  permitted : ∀ intent ∈ plan.toolCalls.take sent.length,
    Permitted definition request authorization intent.toolId
  maxToolCalls : ∀ maximum ∈ budget.maxToolCalls, sent.length ≤ maximum
  maxSteps : ∀ maximum ∈ budget.maxSteps, sent.length + 1 ≤ maximum

theorem SentWithin.nil : SentWithin definition request authorization budget plan [] where
  length := Nat.zero_le _
  inOrder := .nil
  permitted := fun _ none => absurd none List.not_mem_nil
  maxToolCalls := fun _ _ => Nat.zero_le _
  maxSteps := fun _ set => ExecutionBudget.one_le_of_mem_maxSteps set

/-- The loop sends one request for each turn it asks for. -/
theorem LoopRun.sent_of_exchanges {asked : List (ToolCallIntent × ℕ)}
    (exchanges : List.Forall₂ (LoopRun.Exchange engine request boundary) asked t) :
    List.Forall₂ (fun turn payload => Asks engine request boundary turn payload) asked t.sent := by
  induction exchanges with
  | nil => exact .nil
  | @cons turn event turns events exchange _ ih =>
    rcases exchange.asked with ⟨payload, asks, call⟩
    have head : AgentEvent.sent? event = some payload := by
      rcases event with ⟨call', reply⟩
      cases call
      rfl
    rw [AgentTrace.sent, List.filterMap_cons_some head]
    exact .cons asks ih

theorem LoopRun.sentWithin {r : Except PyException Unit}
    (prepared : Prepared engine definition request authorization budget plan boundary)
    (loop : LoopRun engine request boundary (plan.toolCalls.zipIdx 1) t r) :
    SentWithin definition request authorization budget plan t.sent := by
  rcases loop.exchanges with ⟨asked, rest, split, exchanges⟩
  have sent := sent_of_exchanges exchanges
  have calls : plan.toolCalls = asked.map Prod.fst ++ rest.map Prod.fst := by
    rw [← List.map_append, ← split, List.zipIdx_map_fst]
  have first : plan.toolCalls.take t.sent.length = asked.map Prod.fst := by
    rw [calls, ← sent.length_eq]
    exact List.take_left' (List.length_map Prod.fst)
  have length : t.sent.length ≤ plan.toolCalls.length := by
    rw [calls, ← sent.length_eq, List.length_append, List.length_map]
    exact Nat.le_add_right _ _
  have each : List.Forall₂
      (fun intent payload => Permitted definition request authorization intent.toolId ∧
        Carries request intent payload) (asked.map Prod.fst) t.sent := by
    rw [List.forall₂_map_left_iff]
    exact sent.imp fun turn payload asks =>
      ⟨(checkIntent_eq_ok_iff prepared.boundary).mp asks.allowed, toolRequest_eq_ok asks.payload⟩
  rw [← first, List.forall₂_and_left] at each
  have limits := enforcePlanLimits_eq_ok_iff.mp (toolBoundary_eq_ok prepared.boundary).1
  refine ⟨length, each.2, each.1, fun m set => length.trans (limits.2 m set), fun m set => ?_⟩
  have steps := limits.1 m set
  omega

/-- How far a course gets with its tools: no plan arrives, the plan does not
pass its checks, or the loop runs and sends what the course sends. -/
theorem Course.tools {r : Except PyException JsonObject} {toolResults : List JsonObject}
    (course : Course engine definition request authorization t r toolResults) :
    (t.plans = [] ∧ t.sent = []) ∨
    (∃ budget plan e, Admitted engine definition request authorization budget ∧
      toolBoundary engine.platform definition request authorization budget plan = .error e ∧
      t.plans = [plan] ∧ t.sent = []) ∨
    ∃ budget plan boundary u ended,
      Prepared engine definition request authorization budget plan boundary ∧
      LoopRun engine request boundary (plan.toolCalls.zipIdx 1) u ended ∧
      t.plans = [plan] ∧ t.sent = u.sent := by
  cases course with
  | refused | unplanned => exact .inl ⟨rfl, rfl⟩
  | overplanned admitted exceeds => exact .inr (.inl ⟨_, _, _, admitted, exceeds, rfl, rfl⟩)
  | stopped prepared loop | unasked prepared loop =>
    refine .inr (.inr ⟨_, _, _, _, _, prepared, loop, ?_, rfl⟩)
    exact congrArg (_ :: ·) loop.plans_eq_nil
  | unanswered prepared loop | answered prepared loop =>
    refine .inr (.inr ⟨_, _, _, _, _, prepared, loop, ?_, ?_⟩)
    · rw [AgentTrace.plans_append]
      exact congrArg (_ :: · ++ []) loop.plans_eq_nil
    · rw [AgentTrace.sent_append]
      exact List.append_nil _

/-- The bounds on the tool requests of a run. -/
structure BoundarySafe (engine : AgentRuntimeEngine) (definition : AgentDefinition)
    (request : JsonObject) (authorization : RuntimeAuthorization) (t : AgentTrace) : Prop where
  unmatched : ¬ Matches definition request authorization → t.sent = []
  unplanned : t.plans = [] → t.sent = []
  planned : ∀ plan ∈ t.plans, ∃ budget, HasBudget engine.platform request budget ∧
    SentWithin definition request authorization budget plan t.sent

/-! ### Runs that can only fail -/

/-- The run cannot complete: a planned tool is not permitted, or no model call is possible. -/
def Doomed (definition : AgentDefinition) (request : JsonObject)
    (authorization : RuntimeAuthorization) (budget : ExecutionBudget) (plan : ExecutionPlan) :
    Prop :=
  (∃ intent ∈ plan.toolCalls, ¬ Permitted definition request authorization intent.toolId) ∨
    budget.maxTokens = none

/-- The loop is not reached, or it stops at its first intent, or has none. -/
def StopsAtOnce (engine : AgentRuntimeEngine) (definition : AgentDefinition)
    (request : JsonObject) (authorization : RuntimeAuthorization) (budget : ExecutionBudget)
    (plan : ExecutionPlan) : Prop :=
  (∃ e, toolBoundary engine.platform definition request authorization budget plan = .error e) ∨
    ∀ first ∈ plan.toolCalls.head?, ¬ Permitted definition request authorization first.toolId

theorem HasBudget.unique {platform : Platform} {other : ExecutionBudget}
    (one : HasBudget platform request budget) (two : HasBudget platform request other) :
    other = budget := by
  rcases one with ⟨context, rawBudget, container, raw, valid⟩
  rcases two with ⟨context', rawBudget', container', raw', valid'⟩
  cases container.symm.trans container'
  cases raw.symm.trans raw'
  exact Except.ok.inj (valid'.symm.trans valid)

/-- A loop sends nothing exactly when its first intent is not permitted. -/
theorem LoopRun.sent_eq_nil_iff_head {r : Except PyException Unit}
    (prepared : Prepared engine definition request authorization budget plan boundary)
    (loop : LoopRun engine request boundary (plan.toolCalls.zipIdx 1) t r) :
    t.sent = [] ↔
      ∀ first ∈ plan.toolCalls.head?, ¬ Permitted definition request authorization
        first.toolId := by
  rcases validateAuthorization_eq_ok prepared.admitted.authorized with ⟨found, budgeted⟩
  cases calls : plan.toolCalls with
  | nil =>
    rw [calls] at loop
    cases loop
    exact ⟨fun _ first none => (nomatch none), fun _ => rfl⟩
  | cons first rest =>
    rw [calls, List.zipIdx_cons] at loop
    rw [loop.sent_eq_nil_iff, List.head?_cons]
    have asked : (∃ payload, Asks engine request boundary (first, 1) payload) ↔
        Permitted definition request authorization first.toolId := by
      rw [← checkIntent_eq_ok_iff prepared.boundary]
      refine ⟨?_, ?_⟩
      · intro h
        rcases h with ⟨payload, asks⟩
        exact asks.allowed
      · intro allowed
        rcases exists_toolRequest found budgeted first.toolId first.arguments 1 with
          ⟨payload, built⟩
        exact ⟨payload, allowed, built⟩
    rw [asked]
    exact ⟨fun denied _ same => by cases same; exact denied, fun denied => denied first rfl⟩

theorem Course.sent_eq_nil_iff {r : Except PyException JsonObject} {toolResults : List JsonObject}
    (course : Course engine definition request authorization t r toolResults)
    (planned : plan ∈ t.plans) (budgeted : HasBudget engine.platform request budget) :
    t.sent = [] ↔ StopsAtOnce engine definition request authorization budget plan := by
  rcases course.tools with ⟨plans, -⟩ | ⟨budget', plan', e, admitted, exceeds, plans, sent⟩ |
    ⟨budget', plan', boundary, u, ended, prepared, loop, plans, sent⟩
  · rw [plans] at planned
    cases planned
  · rw [plans] at planned
    cases List.mem_singleton.mp planned
    cases budgeted.unique (validateAuthorization_eq_ok admitted.authorized).2
    exact ⟨fun _ => .inl ⟨e, exceeds⟩, fun _ => sent⟩
  · rw [plans] at planned
    cases List.mem_singleton.mp planned
    cases budgeted.unique (validateAuthorization_eq_ok prepared.admitted.authorized).2
    rw [sent, loop.sent_eq_nil_iff_head prepared]
    refine ⟨?_, ?_⟩
    · intro denied
      exact .inr denied
    · intro stops
      rcases stops with ⟨e, exceeds⟩ | denied
      · cases exceeds.symm.trans prepared.boundary
      · exact denied

end

/-- Whatever the planner, the tool client and the gateway do, the tool requests
of a run are the first calls of its plan, in order and with their own arguments,
each on all three tool lists; there are no more of them than the budget allows,
and none unless the authorization, the definition and the request match. -/
theorem run_boundarySafe {engine : AgentRuntimeEngine} {definition : AgentDefinition}
    {request : JsonObject} {authorization : RuntimeAuthorization} {t : AgentTrace}
    {r : Except PyException JsonObject}
    (run : Dialogue.Runs (engine.run definition request authorization) t r) :
    BoundarySafe engine definition request authorization t := by
  rcases runs_run run with ⟨rfl, -⟩ | ⟨outcome, toolResults, course, -⟩
  · exact ⟨fun _ => rfl, fun _ => rfl, fun plan planned => absurd planned List.not_mem_nil⟩
  rcases course.tools with ⟨plans, sent⟩ | ⟨budget, plan, e, admitted, -, plans, sent⟩ |
    ⟨budget, plan, boundary, u, ended, prepared, loop, plans, sent⟩
  · refine ⟨fun _ => sent, fun _ => sent, fun plan planned => ?_⟩
    rw [plans] at planned
    exact absurd planned List.not_mem_nil
  · rcases validateAuthorization_eq_ok admitted.authorized with ⟨found, budgeted⟩
    refine ⟨fun _ => sent, fun _ => sent, fun other planned => ⟨budget, budgeted, ?_⟩⟩
    rw [sent]
    exact .nil
  · rcases validateAuthorization_eq_ok prepared.admitted.authorized with ⟨found, budgeted⟩
    refine ⟨fun differs => absurd found differs, fun none => ?_, fun other planned => ?_⟩
    · rw [plans] at none
      cases none
    · rw [plans] at planned
      cases List.mem_singleton.mp planned
      rw [sent]
      exact ⟨budget, budgeted, loop.sentWithin prepared⟩

/-! ## A diagnostic run -/

/-- A platform with the digests of the first two echo calls. -/
def diagnosticPlatform : Platform :=
  { Platform.sample with
    sha256Hex := fun text =>
      if text = "run_runtime_001:1:diagnostic.echo" then
        "9cd376c1c327dcd6ac2bffb0bbe21ebd0f5e5e53dee63d338d9f7fa7e2f02e7e"
      else "ee851af0ff803345805ddbbd2869ad7fb07dbf34301a2c7dc6452e947dfd5ca2" }

def diagnosticEngine : AgentRuntimeEngine where
  platform := diagnosticPlatform
  contracts := ⟨fun _ => some fun _ => none⟩
  clock :=
    { started := "2026-09-17T10:00:00Z"
      requestedAt := fun _ => "2026-09-17T10:00:00Z"
      completed := "2026-09-17T10:00:01Z"
      failed := "2026-09-17T10:00:01Z"
      latencyMilliseconds := 1000 }

def diagnosticDefinition : AgentDefinition where
  agentId := "agent_runtime_diagnostic"
  agentVersion := "1.0.0"
  purpose := "Verify generic governed runtime execution."
  capabilityIds := ["capability_runtime_diagnostic"]
  allowedToolIds := ["diagnostic.echo"]
  modelPolicyRef := "policy.runtime-test"

def diagnosticRequest (budget : JsonObject) : JsonObject :=
  [("run_id", .str "run_runtime_001"), ("root_run_id", .str "run_runtime_001"),
    ("agent_id", .str "agent_runtime_diagnostic"), ("agent_version", .str "1.0.0"),
    ("capability_id", .str "capability_runtime_diagnostic"),
    ("execution_context", .obj [("tenant_id", .str "tenant_diagnostic_001"),
      ("organization_id", .str "org_diagnostic_001"),
      ("workspace_id", .str "workspace_diagnostic_001"), ("actor_id", .str "actor_diagnostic_001"),
      ("authority_context", .obj [("role", .str "diagnostic_runner"),
        ("authority_level", .str "SYSTEM")]),
      ("permission_refs", strTuple ["tools.diagnostic.execute"]),
      ("scope_refs", strTuple ["scope.diagnostic"]), ("data_classification", .str "INTERNAL"),
      ("correlation_id", .str "corr_runtime_001"), ("execution_budget", .obj budget)]),
    ("input", .obj [("message", .str "runtime split")]),
    ("requested_tool_ids", strTuple ["diagnostic.echo"]), ("execution_mode", .str "TEST")]

def diagnosticAuthorization : RuntimeAuthorization where
  runId := "run_runtime_001"
  lifecycleState := .testAuthorized
  allowedToolIds := ["diagnostic.echo"]

def diagnosticIntent (toolId : String) (toolId_length : IdLength toolId := by decide) :
    ToolCallIntent where
  toolId := toolId
  arguments := [("message", .str "runtime split")]
  toolId_length := toolId_length

theorem echo_idLength : IdLength "diagnostic.echo" := by decide

def diagnosticPlan (toolCalls : List ToolCallIntent) : ExecutionPlan where
  messages := [[("role", .str "user"), ("content", .str "Run governed diagnostic")]]
  toolCalls := toolCalls

/-- A planner that returns this plan, a Backend whose tools succeed, and a model that answers. -/
def diagnosticReply (plan : ExecutionPlan) :
    AgentTrace → (call : AgentCall) → Except PyException call.Reply
  | _, .plan _ _ => .ok plan
  | _, .execute _ correlationId =>
    .ok [("correlation_id", .str correlationId), ("status", .str "SUCCESS")]
  | _, .complete _ =>
    .ok { content := "\x7b\x7d", routeId := "route.test", inputTokens := 14, outputTokens := 6 }

def diagnosticRun (engine : AgentRuntimeEngine) (budget : JsonObject)
    (toolCalls : List ToolCallIntent) : AgentTrace × Except PyException JsonObject :=
  (engine.run diagnosticDefinition (diagnosticRequest budget) diagnosticAuthorization).converse
    (diagnosticReply (diagnosticPlan toolCalls)) []

def diagnosticTrace (budget : JsonObject) (toolCalls : List ToolCallIntent) : AgentTrace :=
  (diagnosticRun diagnosticEngine budget toolCalls).1

theorem run_boundarySafe_diagnostic :
    BoundarySafe diagnosticEngine diagnosticDefinition
      (diagnosticRequest [("max_tokens", .int 200), ("max_tool_calls", .int 1)])
      diagnosticAuthorization
      (diagnosticTrace [("max_tokens", .int 200), ("max_tool_calls", .int 1)]
        [diagnosticIntent "diagnostic.echo"]) ∧
    (diagnosticTrace [("max_tokens", .int 200), ("max_tool_calls", .int 1)]
      [diagnosticIntent "diagnostic.echo"]).sent.length = 1 :=
  ⟨run_boundarySafe (Dialogue.converse_runs _ _ _), by decide +kernel⟩

/-- A run that can only fail sends no tool request exactly when it is stopped
before the loop or at its first intent.  The budget for the model call is looked
at only after the loop, and every intent only when its turn has come. -/
theorem run_sent_eq_nil_iff {engine : AgentRuntimeEngine} {definition : AgentDefinition}
    {request : JsonObject} {authorization : RuntimeAuthorization} {t : AgentTrace}
    {r : Except PyException JsonObject} {plan : ExecutionPlan} {budget : ExecutionBudget}
    (run : Dialogue.Runs (engine.run definition request authorization) t r)
    (planned : plan ∈ t.plans) (budgeted : HasBudget engine.platform request budget) :
    (Doomed definition request authorization budget plan → t.sent = []) ↔
      (Doomed definition request authorization budget plan →
        StopsAtOnce engine definition request authorization budget plan) := by
  rcases runs_run run with ⟨rfl, -⟩ | ⟨outcome, toolResults, course, -⟩
  · cases planned
  · exact imp_congr_right fun _ => course.sent_eq_nil_iff planned budgeted

def diagnosticBudget : ExecutionBudget := ⟨{ maxTokens := some 200 }, by decide⟩

theorem run_sent_eq_nil_iff_diagnostic :
    (diagnosticTrace [("max_tokens", .int 200)]
      [diagnosticIntent "diagnostic.unknown", diagnosticIntent "diagnostic.echo"]).sent = [] := by
  have denied : ¬ Permitted diagnosticDefinition (diagnosticRequest [("max_tokens", .int 200)])
      diagnosticAuthorization "diagnostic.unknown" := by
    intro permitted
    exact absurd permitted.defined (by decide)
  have budgeted : HasBudget diagnosticEngine.platform
      (diagnosticRequest [("max_tokens", .int 200)]) diagnosticBudget :=
    ⟨_, _, rfl, rfl, rfl⟩
  have planned : diagnosticPlan
      [diagnosticIntent "diagnostic.unknown", diagnosticIntent "diagnostic.echo"] ∈
      (diagnosticTrace [("max_tokens", .int 200)]
        [diagnosticIntent "diagnostic.unknown", diagnosticIntent "diagnostic.echo"]).plans := by
    decide +kernel
  refine (run_sent_eq_nil_iff (Dialogue.converse_runs _ _ _) planned budgeted).mpr
    (fun _ => ?_) ?_
  · apply Or.inr
    intro first head
    cases head
    exact denied
  · exact .inl ⟨_, List.mem_cons_self, denied⟩

/-- A run whose second intent is on no list has executed its first. -/
theorem sideEffect_counterexample :
    ¬ ∀ (engine : AgentRuntimeEngine) (definition : AgentDefinition) (request : JsonObject)
      (authorization : RuntimeAuthorization) (t : AgentTrace)
      (r : Except PyException JsonObject) (plan : ExecutionPlan) (budget : ExecutionBudget),
      Dialogue.Runs (engine.run definition request authorization) t r → plan ∈ t.plans →
        HasBudget engine.platform request budget →
          Doomed definition request authorization budget plan → t.sent = [] := by
  intro silent
  have doomed : Doomed diagnosticDefinition (diagnosticRequest [("max_tokens", .int 200)])
      diagnosticAuthorization diagnosticBudget
      (diagnosticPlan
        [diagnosticIntent "diagnostic.echo", diagnosticIntent "diagnostic.unknown"]) :=
    .inl ⟨diagnosticIntent "diagnostic.unknown", by decide, fun permitted =>
      absurd permitted.defined (by decide)⟩
  have sent := silent _ _ _ _
    (diagnosticTrace [("max_tokens", .int 200)]
      [diagnosticIntent "diagnostic.echo", diagnosticIntent "diagnostic.unknown"])
    _ _ _ (Dialogue.converse_runs _ _ _) (by decide +kernel) ⟨_, _, rfl, rfl, rfl⟩ doomed
  have one : (diagnosticTrace [("max_tokens", .int 200)]
      [diagnosticIntent "diagnostic.echo", diagnosticIntent "diagnostic.unknown"]).sent.length =
        1 := by
    decide +kernel
  rw [sent] at one
  cases one

end AgentRuntimeEngine

end Genesis

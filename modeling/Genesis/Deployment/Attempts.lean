import Genesis.Agentic.CallIds
import Genesis.Deployment.Agent
import Genesis.Lib.Chain

/-!
# Attempts at one request

A failed run can be reported as retryable, and its request sent again.  The time of
a tool request is then another one, and so may be the plan, the authorization and
every reply, but what is hashed for its id is not.  `attempts_resend` follows the
POSTs of any number of attempts with one plan, and `reposted_iff` compares the POSTs
of two attempts whatever their plans are.
-/

namespace Genesis

open Py Session

/-! ## What an attempt posts -/

/-- The payload of a POST. -/
def OutsideEvent.posted? : OutsideEvent → Option JsonObject
  | ⟨.post call, _⟩ => some call.payload
  | _ => none

/-- The plan that a planner returned. -/
def OutsideEvent.planned? : OutsideEvent → Option ExecutionPlan
  | ⟨.plan _ _, .ok plan⟩ => some plan
  | _ => none

namespace OutsideTrace

def posted (u : OutsideTrace) : List JsonObject := u.filterMap OutsideEvent.posted?

def planned (u : OutsideTrace) : List ExecutionPlan := u.filterMap OutsideEvent.planned?

theorem posted_append {u v : OutsideTrace} : posted (u ++ v) = posted u ++ posted v :=
  List.filterMap_append

theorem planned_append {u v : OutsideTrace} : planned (u ++ v) = planned u ++ planned v :=
  List.filterMap_append

end OutsideTrace

/-- A tool request without its time. -/
def untimed (payload : JsonObject) : JsonObject :=
  payload.filter fun field => field.1 ≠ "requested_at"

/-- Nothing else is lost. -/
theorem get?_untimed {payload : JsonObject} {key : String} (kept : key ≠ "requested_at") :
    (untimed payload).get? key = payload.get? key := by
  induction payload with
  | nil => rfl
  | cons field rest ih =>
    obtain ⟨name, value⟩ := field
    unfold untimed Dict.get? at ih ⊢
    rw [List.filter_cons]
    by_cases named : key = name
    · subst named
      rw [if_pos (decide_eq_true kept), List.lookup_cons_self, List.lookup_cons_self]
    · have other : (key == name) = false := beq_false_of_ne named
      split
      · rw [List.lookup_cons, List.lookup_cons, other]
        exact ih
      · rw [List.lookup_cons, other]
        exact ih

namespace AgentRuntimeEngine

/-- What every tool request for this turn says, whenever it is made. -/
def toolCall (platform : Platform) (runId executionContext : Json) (turn : ToolCallIntent × ℕ) :
    JsonObject :=
  [("tool_call_id", .str (callId platform (platform.str runId) turn)), ("run_id", runId),
    ("tool_id", .str turn.1.toolId), ("execution_context", executionContext),
    ("arguments", .obj turn.1.arguments)]

theorem toolCallId_toolCall {platform : Platform} {runId executionContext : Json}
    {turn : ToolCallIntent × ℕ} :
    toolCallId (toolCall platform runId executionContext turn) =
      some (.str (callId platform (platform.str runId) turn)) :=
  rfl

theorem callId_eq_iff {platform : Platform} {run run' : String} {turn other : ToolCallIntent × ℕ} :
    callId platform run turn = callId platform run' other ↔
      callDigest platform (callSeed run turn) = callDigest platform (callSeed run' other) :=
  String.append_right_inj _

section

variable {engine : AgentRuntimeEngine} {deployment : Deployment} {definition : AgentDefinition}
  {request : JsonObject} {authorization : RuntimeAuthorization} {budget : ExecutionBudget}
  {plan : ExecutionPlan} {boundary : ToolBoundary} {turns : List (ToolCallIntent × ℕ)}
  {t : AgentTrace} {u : OutsideTrace}

theorem Built.untimed_eq {turn : ToolCallIntent × ℕ} {payload : JsonObject}
    (built : Built engine request turn payload) :
    ∃ runId executionContext, request.get? "run_id" = some runId ∧
      request.get? "execution_context" = some executionContext ∧
      untimed payload = toolCall engine.platform runId executionContext turn := by
  simp only [Built, toolRequest, except_bind_eq_ok, item_eq_ok_iff] at built
  obtain ⟨runId, found, executionContext, given, built⟩ := built
  cases built
  exact ⟨runId, executionContext, found, given, rfl⟩

/-- A served tool call posts its own payload or raises. -/
theorem posted_of_served {payload : JsonObject} {correlationId : String}
    {r : Except PyException JsonObject}
    (served : Dialogue.Runs (deployment.serve (.execute payload correlationId)) u r) :
    u.planned = [] ∧ (u.posted = [payload] ∨ u.posted = [] ∧ ∃ exc, r = .error exc) := by
  rcases BackendToolClient.runs_handle_execute served with ⟨rfl, raised⟩ | ⟨-, reply, sent, -⟩
  · exact ⟨rfl, .inr ⟨rfl, raised⟩⟩
  · cases Dialogue.Runs.question_iff.mp sent
    exact ⟨rfl, .inl rfl⟩

/-- A served model call posts nothing. -/
theorem silent_of_served {model : ModelRequest} {r : Except PyException ModelResponse}
    (served : Dialogue.Runs (deployment.serve (.complete model)) u r) :
    u.planned = [] ∧ u.posted = [] := by
  rcases GovernedModelGateway.runs_handle_complete.mp served with
    ⟨e, -, rfl, -⟩ | ⟨routeId, -, invoked⟩
  · exact ⟨rfl, rfl⟩
  · cases Dialogue.Runs.question_iff.mp invoked
    exact ⟨rfl, rfl⟩

/-- The POSTs of a loop carry the requests built for its first turns. -/
theorem LoopRun.posted {r : Except PyException Unit}
    (loop : LoopRun engine request boundary turns t r)
    (serves : Dialogue.Serves deployment.serve t u) :
    u.planned = [] ∧ ∃ asked rest, turns = asked ++ rest ∧
      List.Forall₂ (Built engine request) asked u.posted := by
  induction loop generalizing u with
  | finished | denied | malformed =>
    cases serves
    exact ⟨rfl, [], _, rfl, .nil⟩
  | raised asks | failed asks =>
    cases serves with
    | cons served rest =>
      cases rest
      rw [List.append_nil]
      obtain ⟨unplanned, posted | ⟨posted, -⟩⟩ := posted_of_served served
      · exact ⟨unplanned, [_], _, rfl, posted ▸ .cons asks.payload .nil⟩
      · exact ⟨unplanned, [], _, rfl, posted ▸ .nil⟩
  | next asks _ _ ih =>
    cases serves with
    | cons served rest =>
      obtain ⟨unplanned, asked, left, split, each⟩ := ih rest
      obtain ⟨none, posted | ⟨-, exc, impossible⟩⟩ := posted_of_served served
      · rw [OutsideTrace.planned_append, OutsideTrace.posted_append, none, posted, unplanned]
        exact ⟨rfl, _ :: asked, left, congrArg (_ :: ·) split, .cons asks.payload each⟩
      · cases impossible

/-- The POSTs of an attempt carry the requests built for the first calls of its plan. -/
structure Attempted (engine : AgentRuntimeEngine) (request : JsonObject) (plan : ExecutionPlan)
    (u : OutsideTrace) : Prop where
  planned : u.planned = [plan]
  posted : ∃ asked rest, plan.toolCalls.zipIdx 1 = asked ++ rest ∧
    List.Forall₂ (Built engine request) asked u.posted

theorem LoopRun.attempted {r : Except PyException Unit} {v : OutsideTrace}
    (loop : LoopRun engine request boundary (plan.toolCalls.zipIdx 1) t r)
    (serves : Dialogue.Serves deployment.serve (⟨.plan definition request, .ok plan⟩ :: t) u)
    (silent : v.planned = [] ∧ v.posted = []) : Attempted engine request plan (u ++ v) := by
  cases serves with
  | cons served rest =>
    cases Dialogue.Runs.question_iff.mp served
    obtain ⟨unplanned, posts⟩ := loop.posted rest
    refine ⟨?_, ?_⟩
    · rw [OutsideTrace.planned_append, OutsideTrace.planned_append, unplanned, silent.1]
      rfl
    · rw [OutsideTrace.posted_append, OutsideTrace.posted_append, silent.2, List.append_nil]
      exact posts

/-- A run posts nothing, or the first calls of its plan. -/
theorem attempted_of_runs {r : Except PyException JsonObject}
    (run : Dialogue.Runs (engine.runOutside deployment definition request authorization) u r) :
    u.posted = [] ∨ ∃ plan, Attempted engine request plan u := by
  obtain ⟨t, outer, serves⟩ := Dialogue.Runs.of_handle run
  rcases attempt_of_runs outer with ⟨rfl, -⟩ | ⟨outcome, toolResults, body, -⟩
  · cases serves
    exact .inl rfl
  cases course_of_runs body with
  | refused =>
    cases serves
    exact .inl rfl
  | unplanned | overplanned =>
    cases serves with
    | cons served rest =>
      cases rest
      cases Dialogue.Runs.question_iff.mp served
      exact .inl rfl
  | stopped _ loop | unasked _ loop =>
    have attempted := loop.attempted serves (v := []) ⟨rfl, rfl⟩
    rw [List.append_nil] at attempted
    exact .inr ⟨_, attempted⟩
  | unanswered _ loop | answered _ loop =>
    obtain ⟨v, w, rfl, looped, completing⟩ := Dialogue.Serves.of_append serves
    cases completing with
    | cons completed none =>
      cases none
      rw [List.append_nil]
      exact .inr ⟨_, loop.attempted looped (silent_of_served completed)⟩

end

/-! ## Attempts -/

/-- What leaves some run on the request, whatever the definition, the authorization,
the clock, the deployment and the replies are. -/
def IsAttempt (platform : Platform) (request : JsonObject) (u : OutsideTrace) : Prop :=
  ∃ (engine : AgentRuntimeEngine) (deployment : Deployment) (definition : AgentDefinition)
    (authorization : RuntimeAuthorization) (r : Except PyException JsonObject),
    engine.platform = platform ∧
      Dialogue.Runs (engine.runOutside deployment definition request authorization) u r

section

variable {platform : Platform} {request : JsonObject} {runId executionContext : Json}
  {u v : OutsideTrace}

/-- Apart from their times, the POSTs of an attempt are the first calls of its plan. -/
theorem IsAttempt.calls (attempt : IsAttempt platform request u) :
    u.posted = [] ∨ ∃ plan runId executionContext asked rest, u.planned = [plan] ∧
      request.get? "run_id" = some runId ∧
      request.get? "execution_context" = some executionContext ∧
      plan.toolCalls.zipIdx 1 = asked ++ rest ∧
      u.posted.map untimed = asked.map (toolCall platform runId executionContext) := by
  obtain ⟨engine, deployment, definition, authorization, r, rfl, run⟩ := attempt
  rcases attempted_of_runs run with silent | ⟨plan, attempted⟩
  · exact .inl silent
  obtain ⟨asked, rest, split, each⟩ := attempted.posted
  cases asked with
  | nil => exact .inl (List.forall₂_nil_left_iff.mp each)
  | cons turn asked =>
    obtain ⟨payload, -, built⟩ := exists_right_of_forall₂ each List.mem_cons_self
    obtain ⟨runId, executionContext, found, given, -⟩ := built.untimed_eq
    refine .inr ⟨plan, runId, executionContext, _, rest, attempted.planned, found, given, split, ?_⟩
    rw [← List.forall₂_eq_eq_eq, List.forall₂_map_left_iff, List.forall₂_map_right_iff]
    refine each.flip.imp fun payload turn built => ?_
    obtain ⟨runId', executionContext', found', given', same⟩ := Built.untimed_eq built
    cases found.symm.trans found'
    cases given.symm.trans given'
    exact same

theorem toolCallId_toolCall_eq_iff {turn other : ToolCallIntent × ℕ}
    (apart : TellsCallsApart platform (platform.str runId) [turn, other]) :
    toolCallId (toolCall platform runId executionContext turn) =
        toolCallId (toolCall platform runId executionContext other) ↔
      turn.2 = other.2 ∧ turn.1.toolId = other.1.toolId := by
  have listed : ∀ a ∈ [turn, other], callSeed (platform.str runId) a ∈
      {seed | ∃ b ∈ [turn, other], callSeed (platform.str runId) b = seed} :=
    fun a member => ⟨a, member, rfl⟩
  rw [toolCallId_toolCall, toolCallId_toolCall, Option.some.injEq, Json.str.injEq, callId_eq_iff,
    ← callSeed_inj]
  refine ⟨fun same => ?_, congrArg _⟩
  exact apart (listed turn List.mem_cons_self)
    (listed other (List.mem_cons_of_mem turn List.mem_cons_self)) same

theorem toolCall_eq_iff {turn other : ToolCallIntent × ℕ}
    (apart : TellsCallsApart platform (platform.str runId) [turn, other]) :
    toolCall platform runId executionContext turn =
        toolCall platform runId executionContext other ↔ turn = other := by
  refine ⟨fun same => ?_, congrArg _⟩
  have position := ((toolCallId_toolCall_eq_iff apart).mp (congrArg toolCallId same)).1
  simp only [toolCall, List.cons.injEq, Prod.mk.injEq, true_and, and_true, Json.str.injEq,
    Json.obj.injEq] at same
  obtain ⟨⟨toolId, arguments, _⟩, _⟩ := turn
  obtain ⟨⟨toolId', arguments', _⟩, _⟩ := other
  obtain ⟨-, rfl, rfl⟩ := same
  cases position
  rfl

/-- The POST at this position of an attempt, and the call of the plan it is for. -/
structure PostedFor (platform : Platform) (runId executionContext : Json) (u : OutsideTrace)
    (plan : ExecutionPlan) (position : ℕ) (intent : ToolCallIntent) (payload : JsonObject) :
    Prop where
  planned : u.planned = [plan]
  call : plan.toolCalls[position]? = some intent
  untimed_eq : untimed payload = toolCall platform runId executionContext (intent, position + 1)

theorem PostedFor.get?_eq {plan : ExecutionPlan} {position : ℕ} {intent : ToolCallIntent}
    {payload : JsonObject} {key : String}
    (posted : PostedFor platform runId executionContext u plan position intent payload)
    (kept : key ≠ "requested_at") : payload.get? key =
      (toolCall platform runId executionContext (intent, position + 1)).get? key := by
  rw [← posted.untimed_eq, get?_untimed kept]

theorem PostedFor.toolCallId_eq {plan : ExecutionPlan} {position : ℕ} {intent : ToolCallIntent}
    {payload : JsonObject}
    (posted : PostedFor platform runId executionContext u plan position intent payload) :
    toolCallId payload =
      toolCallId (toolCall platform runId executionContext (intent, position + 1)) :=
  posted.get?_eq (by decide)

theorem IsAttempt.postedFor (attempt : IsAttempt platform request u) {position : ℕ}
    {payload : JsonObject} (posted : u.posted[position]? = some payload) :
    ∃ runId executionContext plan intent, request.get? "run_id" = some runId ∧
      request.get? "execution_context" = some executionContext ∧
      PostedFor platform runId executionContext u plan position intent payload := by
  rcases attempt.calls with silent | ⟨plan, runId, executionContext, asked, rest, planned, found,
    given, split, calls⟩
  · rw [silent] at posted
    cases posted
  have within : position < u.posted.length := (List.getElem?_eq_some_iff.mp posted).1
  have asks : position < asked.length := by
    rw [← List.length_map (f := untimed), calls, List.length_map] at within
    exact within
  have turn : (plan.toolCalls.zipIdx 1)[position]? = some asked[position] := by
    rw [split, List.getElem?_append_left asks, List.getElem?_eq_getElem asks]
  rw [List.getElem?_zipIdx, Option.map_eq_some_iff] at turn
  obtain ⟨intent, planning, here⟩ := turn
  rw [Nat.add_comm] at here
  refine ⟨runId, executionContext, plan, intent, found, given, planned, planning, ?_⟩
  have same : (u.posted.map untimed)[position]? =
      (asked.map (toolCall platform runId executionContext))[position]? := by
    rw [calls]
  rw [List.getElem?_map, List.getElem?_map, posted, List.getElem?_eq_getElem asks, ← here] at same
  exact Option.some.inj same

/-- Every attempt with this plan posts its first calls, apart from their times. -/
theorem exists_whole {toolCalls : List ToolCallIntent} {attempts : List OutsideTrace}
    (each : ∀ u ∈ attempts, IsAttempt platform request u)
    (replanned : ∀ u ∈ attempts, ∀ plan ∈ u.planned, plan.toolCalls = toolCalls)
    (apart : ∀ runId ∈ request.get? "run_id",
      TellsCallsApart platform (platform.str runId) (toolCalls.zipIdx 1)) :
    ∃ whole : List JsonObject, whole.length ≤ toolCalls.length ∧
      (whole.map toolCallId).Nodup ∧ ∀ u ∈ attempts, u.posted.map untimed <+: whole := by
  by_cases silent : ∀ u ∈ attempts, u.posted = []
  · refine ⟨[], Nat.zero_le _, .nil, fun u listed => ?_⟩
    rw [silent u listed]
    exact List.nil_prefix
  push Not at silent
  obtain ⟨u, listed, loud⟩ := silent
  obtain ⟨-, runId, executionContext, -, -, -, found, given, -, -⟩ :=
    (each u listed).calls.resolve_left loud
  refine ⟨(toolCalls.zipIdx 1).map (toolCall platform runId executionContext), ?_, ?_, ?_⟩
  · rw [List.length_map, List.length_zipIdx]
  · have ids := ((nodup_callIds_iff (nodup_positions toolCalls)).mpr (apart runId found)).map
      ((Option.some_injective Json).comp fun _ _ same => Json.str.inj same)
    rw [List.map_map] at ids ⊢
    exact ids
  · intro v member
    rcases (each v member).calls with quiet | ⟨plan, runId', executionContext', asked, rest,
      planned, found', given', split, calls⟩
    · rw [quiet]
      exact List.nil_prefix
    cases found.symm.trans found'
    cases given.symm.trans given'
    have same := replanned v member plan (planned ▸ List.mem_singleton_self plan)
    rw [same] at split
    rw [split, List.map_append, calls]
    exact List.prefix_append _ _

end

/-- A POST of one attempt and a POST of another, or of the same one, have the same id
exactly when they are for the same position and the same tool, whatever the arguments
are; they are the same request apart from its time exactly when they are for the same
call at the same position. -/
theorem reposted_iff (platform : Platform) (request : JsonObject) (u v : OutsideTrace)
    (first : IsAttempt platform request u) (second : IsAttempt platform request v)
    (i j : ℕ) (payload other : JsonObject) (posted : u.posted[i]? = some payload)
    (posted' : v.posted[j]? = some other) :
    ∃ plan plan' intent intent', u.planned = [plan] ∧ plan.toolCalls[i]? = some intent ∧
      v.planned = [plan'] ∧ plan'.toolCalls[j]? = some intent' ∧
      ((∀ runId ∈ request.get? "run_id", TellsCallsApart platform (platform.str runId)
          [(intent, i + 1), (intent', j + 1)]) →
        (toolCallId payload = toolCallId other ↔ i = j ∧ intent.toolId = intent'.toolId) ∧
        (untimed payload = untimed other ↔ i = j ∧ intent = intent')) := by
  obtain ⟨runId, executionContext, plan, intent, found, given, one⟩ := first.postedFor posted
  obtain ⟨runId', executionContext', plan', intent', found', given', two⟩ :=
    second.postedFor posted'
  cases found.symm.trans found'
  cases given.symm.trans given'
  refine ⟨plan, plan', intent, intent', one.planned, one.call, two.planned, two.call, ?_⟩
  intro apart
  have told := apart runId found
  rw [one.toolCallId_eq, two.toolCallId_eq, toolCallId_toolCall_eq_iff told, one.untimed_eq,
    two.untimed_eq, toolCall_eq_iff told, Prod.mk.injEq, Nat.succ_inj]
  exact ⟨Iff.rfl, and_comm⟩

/-- Over any number of attempts with one plan, each attempt posts an initial segment of
one list of calls, apart from their times; the list has each call that is posted once,
under an id of its own, and no more calls than the plan. -/
theorem attempts_resend (platform : Platform) (request : JsonObject)
    (toolCalls : List ToolCallIntent) (attempts : List OutsideTrace)
    (each : ∀ u ∈ attempts, IsAttempt platform request u)
    (replanned : ∀ u ∈ attempts, ∀ plan ∈ u.planned, plan.toolCalls = toolCalls)
    (apart : ∀ runId ∈ request.get? "run_id",
      TellsCallsApart platform (platform.str runId) (toolCalls.zipIdx 1)) :
    ∃ calls : List JsonObject, calls.length ≤ toolCalls.length ∧
      (calls.map toolCallId).Nodup ∧
      (∀ u ∈ attempts, u.posted.map untimed <+: calls) ∧
      ∀ call ∈ calls, ∃ u ∈ attempts, call ∈ u.posted.map untimed := by
  obtain ⟨whole, length, nodup, bounds⟩ : ∃ whole : List JsonObject,
      whole.length ≤ toolCalls.length ∧ (whole.map toolCallId).Nodup ∧
        ∀ u ∈ attempts, u.posted.map untimed <+: whole :=
    exists_whole each replanned apart
  obtain ⟨calls, within, segments, covered⟩ := Chain.exists_longest bounds
  exact ⟨calls, within.length_le.trans length, nodup.sublist (within.sublist.map _), segments,
    covered⟩

/-! ## A run and its retry -/

/-- The planner still answers, the Backend does not. -/
def unavailableReply : (call : OutsideCall) → call.Reply
  | .plan definition request => outsideReply (.plan definition request)
  | .post _ => .timeoutException
  | .invoke _ => .error .timeoutError

def laterEngine : AgentRuntimeEngine :=
  { completingEngine with
    clock := { completingEngine.clock with requestedAt := fun _ => "2026-09-17T11:00:00Z" } }

def firstAttempt : OutsideTrace :=
  ((completingEngine.runOutside diagnosticDeployment diagnosticDefinition spendingRequest
    diagnosticAuthorization).converse (fun _ => unavailableReply) []).1

def retry : OutsideTrace :=
  ((laterEngine.runOutside diagnosticDeployment diagnosticDefinition spendingRequest
    diagnosticAuthorization).converse (fun _ => outsideReply) []).1

theorem firstAttempt_isAttempt :
    IsAttempt completingEngine.platform spendingRequest firstAttempt :=
  ⟨completingEngine, diagnosticDeployment, diagnosticDefinition, diagnosticAuthorization, _, rfl,
    Dialogue.converse_runs _ [] _⟩

theorem retry_isAttempt : IsAttempt completingEngine.platform spendingRequest retry :=
  ⟨laterEngine, diagnosticDeployment, diagnosticDefinition, diagnosticAuthorization, _, rfl,
    Dialogue.converse_runs _ [] _⟩

theorem echoCalls_apart : ∀ runId ∈ spendingRequest.get? "run_id",
    TellsCallsApart completingEngine.platform (completingEngine.platform.str runId)
      (echoCalls.zipIdx 1) := by
  intro runId found
  cases found
  exact (nodup_callIds_iff (nodup_positions echoCalls)).mp (by decide +kernel)

theorem echoCalls_planned : ∀ u ∈ [firstAttempt, retry], ∀ plan ∈ u.planned,
    plan.toolCalls = echoCalls := by
  decide +kernel

/-- The retry repeats the one POST of the first attempt and goes on with a second one. -/
theorem attempts_resend_retry :
    firstAttempt.posted.length = 1 ∧ retry.posted.length = 2 ∧
      ∃ calls : List JsonObject, calls.length ≤ echoCalls.length ∧
        (calls.map toolCallId).Nodup ∧
        (∀ u ∈ [firstAttempt, retry], u.posted.map untimed <+: calls) ∧
        ∀ call ∈ calls, ∃ u ∈ [firstAttempt, retry], call ∈ u.posted.map untimed := by
  have first : firstAttempt.posted.length = 1 := by decide +kernel
  have second : retry.posted.length = 2 := by decide +kernel
  refine ⟨first, second, ?_⟩
  refine attempts_resend completingEngine.platform spendingRequest echoCalls
    [firstAttempt, retry] ?_ ?_ echoCalls_apart
  · exact List.forall_mem_cons.mpr
      ⟨firstAttempt_isAttempt, List.forall_mem_singleton.mpr retry_isAttempt⟩
  · exact echoCalls_planned

/-- The POST of the first attempt and the second one of the retry are different calls. -/
theorem reposted_iff_retry : ∃ payload other, firstAttempt.posted[0]? = some payload ∧
    retry.posted[1]? = some other ∧ toolCallId payload ≠ toolCallId other := by
  obtain ⟨payload, posted⟩ : ∃ payload, firstAttempt.posted[0]? = some payload :=
    Option.isSome_iff_exists.mp (by decide +kernel)
  obtain ⟨other, posted'⟩ : ∃ other, retry.posted[1]? = some other :=
    Option.isSome_iff_exists.mp (by decide +kernel)
  obtain ⟨plan, plan', intent, intent', planned, call, planned', call', iffs⟩ :=
    reposted_iff completingEngine.platform spendingRequest firstAttempt retry
      firstAttempt_isAttempt retry_isAttempt 0 1 payload other posted posted'
  rw [echoCalls_planned firstAttempt List.mem_cons_self plan
    (planned ▸ List.mem_singleton_self plan)] at call
  rw [echoCalls_planned retry (List.mem_cons_of_mem _ List.mem_cons_self) plan'
    (planned' ▸ List.mem_singleton_self plan')] at call'
  obtain rfl := Option.some.inj call
  obtain rfl := Option.some.inj call'
  have ids := (iffs echoCalls_apart).1
  exact ⟨payload, other, posted, posted', fun equal => absurd (ids.mp equal).1 (by decide)⟩

end AgentRuntimeEngine

end Genesis

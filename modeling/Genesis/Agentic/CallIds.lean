import Genesis.Lib.Lines
import Genesis.Agentic.Boundary
import Mathlib.Data.List.Nodup

/-!
# The ids of the tool calls of a run

The id of a tool call is a digest of the run, the position of the call in the
plan and the tool.  `callSeed_inj` reads the position back from the hashed text,
whatever the run and the tool contain.  `toolCallIds_nodup` concludes that no two
calls of a run share an id unless their digests collide.
-/

namespace Genesis

open Py Session

namespace AgentRuntimeEngine

/-- The text that is hashed for the call at this position of the plan. -/
def callSeed (run : String) (turn : ToolCallIntent × ℕ) : String :=
  s!"{run}:{turn.2}:{turn.1.toolId}"

/-- The first 20 digits of the hash of a text. -/
def callDigest (platform : Platform) (seed : String) : String :=
  String.ofList ((platform.sha256Hex seed).toList.take 20)

theorem toList_callSeed (run : String) (turn : ToolCallIntent × ℕ) :
    (callSeed run turn).toList =
      run.toList ++ ':' :: (Nat.toDigits 10 turn.2 ++ ':' :: turn.1.toolId.toList) := by
  have spelled : callSeed run turn =
      run ++ ":" ++ String.ofList (Nat.toDigits 10 turn.2) ++ ":" ++ turn.1.toolId := rfl
  rw [spelled]
  simp only [String.toList_append, String.toList_ofList, List.append_assoc]
  rfl

/-- Within one run the hashed text determines the position and the tool. -/
theorem callSeed_inj {run : String} {turn other : ToolCallIntent × ℕ} :
    callSeed run turn = callSeed run other ↔
      turn.2 = other.2 ∧ turn.1.toolId = other.1.toolId := by
  rw [← String.toList_inj, toList_callSeed, toList_callSeed, List.append_cancel_left_eq,
    List.cons.injEq, decimal_append_inj (by decide), String.toList_inj]
  exact and_iff_right rfl

/-- The id given to the call at this position. -/
def callId (platform : Platform) (run : String) (turn : ToolCallIntent × ℕ) : String :=
  "toolcall_" ++ callDigest platform (callSeed run turn)

/-- The truncated hash is injective on the texts of these calls. -/
def TellsCallsApart (platform : Platform) (run : String) (turns : List (ToolCallIntent × ℕ)) :
    Prop :=
  Set.InjOn (callDigest platform) {seed | ∃ turn ∈ turns, callSeed run turn = seed}

def toolCallId (payload : JsonObject) : Option Json := payload.get? "tool_call_id"

section

variable {platform : Platform} {engine : AgentRuntimeEngine} {request : JsonObject}
  {run : String} {turns : List (ToolCallIntent × ℕ)} {payloads : List JsonObject}

/-- Calls at different positions have different ids exactly when their digests differ. -/
theorem nodup_callIds_iff (positions : (turns.map Prod.snd).Nodup) :
    (turns.map (callId platform run)).Nodup ↔ TellsCallsApart platform run turns := by
  have distinct : ∀ turn ∈ turns, ∀ other ∈ turns, callSeed run turn = callSeed run other →
      turn = other := by
    intro turn member other member' same
    exact List.inj_on_of_nodup_map positions member member' (callSeed_inj.mp same).1
  rw [List.nodup_map_iff_inj_on (positions.of_map _)]
  refine ⟨?_, ?_⟩
  · rintro apart _ ⟨turn, member, rfl⟩ _ ⟨other, member', rfl⟩ same
    rw [apart turn member other member' (congrArg ("toolcall_" ++ ·) same)]
  · intro apart turn member other member' same
    have digests := (String.append_right_inj _).mp same
    exact distinct turn member other member'
      (apart ⟨turn, member, rfl⟩ ⟨other, member', rfl⟩ digests)

/-- The tool request of this turn. -/
def Built (engine : AgentRuntimeEngine) (request : JsonObject) (turn : ToolCallIntent × ℕ)
    (payload : JsonObject) : Prop :=
  engine.toolRequest request turn.1.toolId turn.1.arguments turn.2 = .ok payload

theorem Built.toolCallId_eq {turn : ToolCallIntent × ℕ} {payload : JsonObject}
    (built : Built engine request turn payload) :
    ∃ runId, request.get? "run_id" = some runId ∧
      toolCallId payload =
        some (.str (callId engine.platform (engine.platform.str runId) turn)) := by
  simp only [Built, toolRequest, except_bind_eq_ok, item_eq_ok_iff] at built
  obtain ⟨runId, found, executionContext, -, built⟩ := built
  cases built
  exact ⟨runId, found, rfl⟩

/-- The requests built for some turns carry the ids of these turns. -/
theorem toolCallIds_eq {runId : Json} (found : request.get? "run_id" = some runId)
    (built : List.Forall₂ (Built engine request) turns payloads) :
    payloads.map toolCallId =
      (turns.map (callId engine.platform (engine.platform.str runId))).map (some ∘ Json.str) := by
  induction built with
  | nil => rfl
  | cons first _ ih =>
    obtain ⟨other, found', id⟩ := first.toolCallId_eq
    cases found.symm.trans found'
    rw [List.map_cons, List.map_cons, List.map_cons, id, ih]
    rfl

/-- Requests built for different positions have different ids, if the hash of
their texts differs. -/
theorem nodup_of_built (positions : (turns.map Prod.snd).Nodup)
    (built : List.Forall₂ (Built engine request) turns payloads)
    (apart : ∀ runId ∈ request.get? "run_id",
      TellsCallsApart engine.platform (engine.platform.str runId) turns) :
    (payloads.map toolCallId).Nodup := by
  cases built with
  | nil => exact .nil
  | cons first rest =>
    obtain ⟨runId, found, -⟩ := first.toolCallId_eq
    rw [toolCallIds_eq found (.cons first rest)]
    have text : Function.Injective (some ∘ Json.str) :=
      (Option.some_injective Json).comp fun _ _ same => Json.str.inj same
    exact ((nodup_callIds_iff positions).mpr (apart runId found)).map text

end

/-- The positions of a plan are distinct. -/
theorem nodup_positions (toolCalls : List ToolCallIntent) :
    ((toolCalls.zipIdx 1).map Prod.snd).Nodup := by
  rw [List.zipIdx_map_snd]
  exact List.nodup_range'

/-- Some of the calls are told apart where all of them are. -/
theorem TellsCallsApart.sublist {platform : Platform} {run : String}
    {turns asked : List (ToolCallIntent × ℕ)} (within : asked.Sublist turns)
    (apart : TellsCallsApart platform run turns) : TellsCallsApart platform run asked := by
  refine Set.InjOn.mono ?_ apart
  rintro _ ⟨turn, member, rfl⟩
  exact ⟨turn, within.subset member, rfl⟩

/-- If the truncated hash is injective on the texts hashed for the calls of a
plan, the ids of these calls are pairwise distinct, and so are the ids in the
requests that a run with this plan sends, however far it gets. -/
theorem toolCallIds_nodup {engine : AgentRuntimeEngine} {request : JsonObject}
    {toolCalls : List ToolCallIntent}
    (apart : ∀ runId ∈ request.get? "run_id",
      TellsCallsApart engine.platform (engine.platform.str runId) (toolCalls.zipIdx 1)) :
    (∀ payloads, List.Forall₂ (Built engine request) (toolCalls.zipIdx 1) payloads →
      (payloads.map toolCallId).Nodup) ∧
    ∀ (definition : AgentDefinition) (authorization : RuntimeAuthorization) (t : AgentTrace)
      (r : Except PyException JsonObject),
      Dialogue.Runs (engine.run definition request authorization) t r →
        (∀ plan ∈ t.plans, plan.toolCalls = toolCalls) → (t.sent.map toolCallId).Nodup := by
  refine ⟨fun payloads built => nodup_of_built (nodup_positions toolCalls) built apart, ?_⟩
  intro definition authorization t r run planned
  rcases runs_run run with ⟨rfl, -⟩ | ⟨outcome, toolResults, course, -⟩
  · exact .nil
  rcases course.tools with ⟨-, sent⟩ | ⟨budget, plan, e, -, -, -, sent⟩ |
    ⟨budget, plan, boundary, u, ended, prepared, loop, plans, sent⟩
  · rw [sent]
    exact .nil
  · rw [sent]
    exact .nil
  · rw [plans, List.forall_mem_singleton] at planned
    subst planned
    obtain ⟨asked, rest, split, exchanges⟩ := loop.exchanges
    have within : asked.Sublist (plan.toolCalls.zipIdx 1) := by
      rw [split]
      exact List.sublist_append_left asked rest
    have built : List.Forall₂ (Built engine request) asked u.sent :=
      (LoopRun.sent_of_exchanges exchanges).imp fun _ _ asks => asks.payload
    rw [sent]
    exact nodup_of_built ((nodup_positions plan.toolCalls).sublist (within.map _)) built
      fun runId found => (apart runId found).sublist within

def echoCalls : List ToolCallIntent :=
  [diagnosticIntent "diagnostic.echo" echo_idLength,
    diagnosticIntent "diagnostic.echo" echo_idLength]

theorem toolCallIds_nodup_echo :
    ((diagnosticTrace [("max_tokens", .int 200)] echoCalls).sent.map toolCallId).Nodup ∧
      (diagnosticTrace [("max_tokens", .int 200)] echoCalls).sent.length = 2 := by
  have apart : ∀ runId ∈ (diagnosticRequest [("max_tokens", .int 200)]).get? "run_id",
      TellsCallsApart diagnosticEngine.platform (diagnosticEngine.platform.str runId)
        (echoCalls.zipIdx 1) := by
    intro runId found
    cases found
    exact (nodup_callIds_iff (nodup_positions echoCalls)).mp (by decide +kernel)
  have planned : ∀ plan ∈ (diagnosticTrace [("max_tokens", .int 200)] echoCalls).plans,
      plan.toolCalls = echoCalls := by
    decide +kernel
  exact ⟨(toolCallIds_nodup apart).2 _ _ _ _ (Dialogue.converse_runs _ _ _) planned,
    by decide +kernel⟩

end AgentRuntimeEngine

end Genesis

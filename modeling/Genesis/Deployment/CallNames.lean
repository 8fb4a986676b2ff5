import Genesis.Deployment.Attempts
import Genesis.Memory.Retrieval

/-!
# Tool call ids across runs

The Backend sees the POSTs of all agent runs and all retrievals.  The text that an
agent run hashes for the id of a call joins the run, the position and the tool with
colons, and a run or a tool may contain colons itself.  `callSeed_eq_iff` says which
texts are the same, and `postedIds_iff` which POSTs have one id: those of one run
for one position and one tool, and those whose run goes on where the tool of the
other begins.  No retrieval has the id of a call of an agent run.
-/

namespace Genesis

open Py

namespace AgentRuntimeEngine

/-- The other run is this one with the position, and a beginning of the tool, of this
call; the rest of the tool is the position and the tool of the other call. -/
inductive Overlaps (run : String) (position : ℕ) : String → String → ℕ → String → Prop
  | after (position' : ℕ) (toolId' : String) :
    Overlaps run position (toString position' ++ ":" ++ toolId') (run ++ ":" ++ toString position)
      position' toolId'
  | within (middle : String) (position' : ℕ) (toolId' : String) :
    Overlaps run position (middle ++ ":" ++ toString position' ++ ":" ++ toolId')
      (run ++ ":" ++ toString position ++ ":" ++ middle) position' toolId'

/-- The text of a call, as characters. -/
def seedChars (run : List Char) (position : ℕ) (toolId : List Char) : List Char :=
  run ++ ':' :: (Nat.toDigits 10 position ++ ':' :: toolId)

theorem toList_colon {before after : String} :
    (before ++ ":" ++ after).toList = before.toList ++ ':' :: after.toList := by
  rw [String.toList_append, String.toList_append, List.append_assoc]
  rfl

theorem toList_position (position : ℕ) :
    (toString position).toList = Nat.toDigits 10 position :=
  String.toList_ofList

section

variable {run run' toolId toolId' : String} {position position' : ℕ}

theorem overlaps_iff :
    Overlaps run position toolId run' position' toolId' ↔
      ∃ middle, run'.toList = run.toList ++ ':' :: middle ∧
        Nat.toDigits 10 position ++ ':' :: toolId.toList =
          seedChars middle position' toolId'.toList := by
  refine ⟨?_, ?_⟩
  · intro overlaps
    cases overlaps with
    | after =>
      refine ⟨Nat.toDigits 10 position, ?_, ?_⟩
      · rw [toList_colon, toList_position]
      · rw [toList_colon, toList_position, seedChars]
    | within middle =>
      refine ⟨Nat.toDigits 10 position ++ ':' :: middle.toList, ?_, ?_⟩
      · rw [toList_colon, toList_colon, toList_position, List.append_assoc, List.cons_append]
      · rw [toList_colon, toList_colon, toList_position, seedChars]
        simp only [List.append_assoc, List.cons_append]
  · rintro ⟨middle, longer, same⟩
    rcases append_separator_eq_iff.mp same with ⟨rfl, tail⟩ | ⟨rest, rfl, tail⟩ | ⟨rest, number, -⟩
    · have run_eq : run' = run ++ ":" ++ toString position := by
        rw [← String.toList_inj, longer, toList_colon, toList_position]
      have tool_eq : toolId = toString position' ++ ":" ++ toolId' := by
        rw [← String.toList_inj, tail, toList_colon, toList_position]
      rw [run_eq, tool_eq]
      exact .after position' toolId'
    · have run_eq : run' = run ++ ":" ++ toString position ++ ":" ++ String.ofList rest := by
        rw [← String.toList_inj, longer, toList_colon, toList_colon, toList_position,
          String.toList_ofList, List.append_assoc, List.cons_append]
      have tool_eq :
          toolId = String.ofList rest ++ ":" ++ toString position' ++ ":" ++ toolId' := by
        rw [← String.toList_inj, tail, toList_colon, toList_colon, toList_position,
          String.toList_ofList, List.append_assoc, List.cons_append]
      rw [run_eq, tool_eq]
      exact .within (String.ofList rest) position' toolId'
    · have member : ':' ∈ Nat.toDigits 10 position :=
        number ▸ List.mem_append_right middle List.mem_cons_self
      exact absurd member (not_mem_toDigits (by decide) position)

/-- Only a tool that contains a colon goes on in another run. -/
theorem Overlaps.colon (overlaps : Overlaps run position toolId run' position' toolId') :
    ':' ∈ toolId.toList := by
  cases overlaps with
  | after | within =>
    rw [toList_colon]
    exact List.mem_append_right _ List.mem_cons_self

end

/-- One position and one tool of one run, or calls of which one overlaps the other. -/
def SameName (run : String) (position : ℕ) (toolId run' : String) (position' : ℕ)
    (toolId' : String) : Prop :=
  (run = run' ∧ position = position' ∧ toolId = toolId') ∨
    Overlaps run position toolId run' position' toolId' ∨
    Overlaps run' position' toolId' run position toolId

/-- The texts that are hashed for two calls are the same exactly when the calls have
the same name. -/
theorem callSeed_eq_iff {run run' : String} {turn other : ToolCallIntent × ℕ} :
    callSeed run turn = callSeed run' other ↔
      SameName run turn.2 turn.1.toolId run' other.2 other.1.toolId := by
  rw [SameName, overlaps_iff, overlaps_iff, ← String.toList_inj, toList_callSeed, toList_callSeed,
    append_separator_eq_iff, decimal_append_inj (by decide), String.toList_inj, String.toList_inj]
  rfl

/-- Without colons in the tools the name tells the run, the position and the tool. -/
theorem sameName_iff {run toolId run' toolId' : String} {position position' : ℕ}
    (plain : ':' ∉ toolId.toList) (plain' : ':' ∉ toolId'.toList) :
    SameName run position toolId run' position' toolId' ↔
      run = run' ∧ position = position' ∧ toolId = toolId' := by
  refine ⟨?_, .inl⟩
  rintro (same | overlaps | overlaps)
  · exact same
  · exact absurd overlaps.colon plain
  · exact absurd overlaps.colon plain'

/-- The truncated hash tells the texts of two calls apart. -/
def TellsTwoApart (platform : Platform) (run : String) (turn : ToolCallIntent × ℕ) (run' : String)
    (other : ToolCallIntent × ℕ) : Prop :=
  callDigest platform (callSeed run turn) = callDigest platform (callSeed run' other) →
    callSeed run turn = callSeed run' other

section

variable {platform : Platform}

/-- The two kinds of ids have different lengths. -/
theorem callId_ne_search (digits : ∀ text, 24 ≤ (platform.sha256Hex text).length) (run : String)
    (turn : ToolCallIntent × ℕ) (args : RetrieveArguments) (correlation : String) :
    callId platform run turn ≠ BackendContextProvider.toolCallId platform args correlation := by
  intro same
  have texts := (String.append_right_inj _).mp same
  have lengths := congrArg List.length (String.ofList_injective texts)
  have short := digits (callSeed run turn)
  have long := digits (BackendContextProvider.seed args.runId correlation args.query)
  rw [← String.length_toList] at short long
  rw [List.length_take, List.length_take] at lengths
  omega

end

/-- Two POSTs of agent runs, of one request or of two, have one id exactly when their
calls have the same name: if their tools contain no colon, when they are for one
position and one tool of one run.  No POST of a retrieval has the id of one of them. -/
theorem postedIds_iff (platform : Platform)
    (digits : ∀ text, 24 ≤ (platform.sha256Hex text).length) (request request' : JsonObject)
    (u v : OutsideTrace) (first : IsAttempt platform request u)
    (second : IsAttempt platform request' v) (i j : ℕ) (payload other : JsonObject)
    (posted : u.posted[i]? = some payload) (posted' : v.posted[j]? = some other) :
    ∃ runId runId' intent intent', payload.get? "run_id" = some runId ∧
      payload.get? "tool_id" = some (.str intent.toolId) ∧
      other.get? "run_id" = some runId' ∧ other.get? "tool_id" = some (.str intent'.toolId) ∧
      (TellsTwoApart platform (platform.str runId) (intent, i + 1) (platform.str runId')
          (intent', j + 1) →
        (toolCallId payload = toolCallId other ↔
          SameName (platform.str runId) (i + 1) intent.toolId (platform.str runId') (j + 1)
            intent'.toolId) ∧
        (':' ∉ intent.toolId.toList → ':' ∉ intent'.toolId.toList →
          (toolCallId payload = toolCallId other ↔
            platform.str runId = platform.str runId' ∧ i = j ∧
              intent.toolId = intent'.toolId))) ∧
      ∀ (provider : BackendContextProvider) (args : RetrieveArguments)
        (t : List BackendToolClient.PostEvent) (r : Except PyException JsonObject),
        Dialogue.Runs (BackendContextProvider.retrieve platform provider args) t r →
          ∀ event ∈ t, BackendContextProvider.postedId event ≠ toolCallId payload := by
  obtain ⟨runId, executionContext, plan, intent, -, -, one⟩ := first.postedFor posted
  obtain ⟨runId', executionContext', plan', intent', -, -, two⟩ := second.postedFor posted'
  refine ⟨runId, runId', intent, intent', one.get?_eq (by decide), one.get?_eq (by decide),
    two.get?_eq (by decide), two.get?_eq (by decide), ?_, ?_⟩
  · intro apart
    have ids : toolCallId payload = toolCallId other ↔
        SameName (platform.str runId) (i + 1) intent.toolId (platform.str runId') (j + 1)
          intent'.toolId := by
      rw [one.toolCallId_eq, two.toolCallId_eq, toolCallId_toolCall, toolCallId_toolCall,
        Option.some.injEq, Json.str.injEq, callId_eq_iff]
      exact Iff.trans ⟨apart, congrArg (callDigest platform)⟩ callSeed_eq_iff
    refine ⟨ids, fun plain plain' => ?_⟩
    rw [ids, sameName_iff plain plain', Nat.succ_inj]
  · intro provider args t r run event listed same
    rcases BackendContextProvider.runs_retrieve run with
      ⟨rfl, -⟩ | ⟨correlation, reply, found, -, -⟩
    · cases listed
    · rw [BackendContextProvider.postedId_eq found run listed, one.toolCallId_eq,
        toolCallId_toolCall, Option.some.injEq, Json.str.injEq] at same
      exact callId_ne_search digits _ _ args correlation same.symm

def echoCall : ToolCallIntent := diagnosticIntent "diagnostic.echo" echo_idLength

def callFields (payload : JsonObject) : Option Json × Option Json :=
  (payload.get? "run_id", payload.get? "tool_id")

/-- Two calls of a run and its retry, and any retrieval, have different ids. -/
theorem postedIds_iff_retry : ∃ payload other, firstAttempt.posted[0]? = some payload ∧
    retry.posted[1]? = some other ∧ toolCallId payload ≠ toolCallId other ∧
    ∀ (provider : BackendContextProvider) (args : RetrieveArguments)
      (t : List BackendToolClient.PostEvent) (r : Except PyException JsonObject),
      Dialogue.Runs (BackendContextProvider.retrieve completingEngine.platform provider args) t r →
        ∀ event ∈ t, BackendContextProvider.postedId event ≠ toolCallId payload := by
  have digits : ∀ text, 24 ≤ (completingEngine.platform.sha256Hex text).length := by
    intro text
    change 24 ≤ (if text = "run_runtime_001:1:diagnostic.echo" then _ else _ : String).length
    split <;> decide
  have names : (firstAttempt.posted[0]?).map callFields =
        some (some (.str "run_runtime_001"), some (.str "diagnostic.echo")) ∧
      (retry.posted[1]?).map callFields =
        some (some (.str "run_runtime_001"), some (.str "diagnostic.echo")) := by
    decide +kernel
  obtain ⟨payload, posted, fields⟩ := Option.map_eq_some_iff.mp names.1
  obtain ⟨other, posted', fields'⟩ := Option.map_eq_some_iff.mp names.2
  obtain ⟨runId, runId', intent, intent', found, tool, found', tool', ids, searches⟩ :=
    postedIds_iff completingEngine.platform digits spendingRequest spendingRequest firstAttempt
      retry firstAttempt_isAttempt retry_isAttempt 0 1 payload other posted posted'
  refine ⟨payload, other, posted, posted', ?_, searches⟩
  unfold callFields at fields fields'
  rw [found, tool, Prod.mk.injEq, Option.some.injEq, Option.some.injEq, Json.str.injEq] at fields
  rw [found', tool', Prod.mk.injEq, Option.some.injEq, Option.some.injEq,
    Json.str.injEq] at fields'
  obtain ⟨rfl, named⟩ := fields
  obtain ⟨rfl, named'⟩ := fields'
  have told : callDigest completingEngine.platform (callSeed "run_runtime_001" (echoCall, 1)) ≠
      callDigest completingEngine.platform (callSeed "run_runtime_001" (echoCall, 2)) := by
    decide +kernel
  have seed : callSeed "run_runtime_001" (intent, 0 + 1) =
      callSeed "run_runtime_001" (echoCall, 1) := callSeed_inj.mpr ⟨rfl, named⟩
  have seed' : callSeed "run_runtime_001" (intent', 1 + 1) =
      callSeed "run_runtime_001" (echoCall, 2) := callSeed_inj.mpr ⟨rfl, named'⟩
  have apart : TellsTwoApart completingEngine.platform "run_runtime_001" (intent, 0 + 1)
      "run_runtime_001" (intent', 1 + 1) := by
    rw [TellsTwoApart, seed, seed']
    exact fun same => absurd same told
  rw [named, named'] at ids
  intro same
  exact absurd ((((ids apart).2 (by decide) (by decide)).mp same).2.1) (by decide)

end AgentRuntimeEngine

end Genesis

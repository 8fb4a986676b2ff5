import Genesis.Agentic.ToolClient
import Genesis.Context.Identity
import Genesis.Lib.Lines

/-!
# Retrieval through the Backend

`BackendContextProvider.retrieve` asks the Backend for a context bundle by one
tool call.  `runs_retrieve` lists its runs; what it returns is the output of a
successful result of its own call (`retrieved_of_runs`).

The id of the call is a digest of the run, the correlation id and the query.
`sameTexts_iff` says when the hashed text tells the three; the size of the
answer asked for is not in it.
-/

namespace Genesis

open Py

/-- The arguments of `retrieve`. -/
structure RetrieveArguments where
  runId : String
  query : String
  executionContext : JsonObject
  limit : ℤ := 12
  maxCharacters : ℤ := 12000

structure BackendContextProvider where
  toolClient : BackendToolClient
  contracts : CanonicalContractCatalog

namespace BackendContextProvider

/-! ## The tool request -/

/-- `str(execution_context["correlation_id"])`. -/
def correlationId (platform : Platform) (args : RetrieveArguments) : Except PyException String := do
  let value ← item args.executionContext "correlation_id"
  pure (platform.str value)

/-- The text that is hashed for the id of the call. -/
def seed (runId correlationId query : String) : String := s!"{runId}:{correlationId}:{query}"

def toolCallId (platform : Platform) (args : RetrieveArguments) (correlationId : String) :
    String :=
  "toolcall_" ++ ContextManager.shortDigest platform (seed args.runId correlationId args.query)

/-- The arguments of the tool. -/
def searchArguments (args : RetrieveArguments) : JsonObject :=
  [("query", .str args.query), ("limit", .int args.limit),
    ("max_characters", .int args.maxCharacters)]

def toolRequest (platform : Platform) (args : RetrieveArguments) (correlationId : String) :
    JsonObject :=
  [("tool_call_id", .str (toolCallId platform args correlationId)), ("run_id", .str args.runId),
    ("tool_id", .str "source.search_context"), ("execution_context", .obj args.executionContext),
    ("arguments", .obj (searchArguments args))]

/-! ## The result -/

/-- The error raised for a result that is not successful. -/
def retrievalFailure (platform : Platform) (correlationId : String) (result : JsonObject) :
    Except PyException JsonObject := do
  let error ← asDict ((result.get? "error").getD (.obj []))
  .error (.contextRetrievalError
    { code := platform.str ((error.get? "code").getD (.str "CONTEXT_RETRIEVAL_FAILED"))
      message :=
        platform.str ((error.get? "message").getD (.str "Backend context retrieval failed."))
      correlationId })

/-- The bundle in the output of a successful result. -/
def readOutput (provider : BackendContextProvider) (correlationId : String) :
    Option Json → Except PyException JsonObject
  | some (.obj output) => do
    let validated ← provider.contracts.validate CONTEXT_BUNDLE_SCHEMA output
    let correlation ← item validated "correlation_id"
    raiseUnless (correlation = .str correlationId) (.contextRetrievalError
      { code := "CONTEXT_CORRELATION_MISMATCH"
        message := "ContextBundle correlation_id does not match the request."
        correlationId })
    pure validated
  | _ =>
    .error (.contextRetrievalError
      { code := "CONTEXT_RESPONSE_INVALID"
        message := "Backend ToolResult output is not a ContextBundle object."
        correlationId })

/-- Everything `retrieve` does with the result of its call. -/
def readResult (platform : Platform) (provider : BackendContextProvider) (correlationId : String)
    (result : JsonObject) : Except PyException JsonObject := do
  let status ← item result "status"
  if status = .str "SUCCESS" then provider.readOutput correlationId (result.get? "output")
  else retrievalFailure platform correlationId result

/-- `retrieve`. -/
def retrieve (platform : Platform) (provider : BackendContextProvider) (args : RetrieveArguments) :
    Dialogue ToolPost (fun _ => HttpReply) (Except PyException JsonObject) :=
  match correlationId platform args with
  | .error exc => .done (.error exc)
  | .ok correlationId =>
    (provider.toolClient.execute (toolRequest platform args correlationId) correlationId).bind
      fun reply => .done (reply.bind (readResult platform provider correlationId))

/-! ## Its runs -/

section

variable {platform : Platform} {provider : BackendContextProvider} {args : RetrieveArguments}
  {t : List BackendToolClient.PostEvent} {r : Except PyException JsonObject}

/-- A retrieval posts nothing and raises, or it makes one POST of its tool request
and reads the reply. -/
theorem runs_retrieve (run : Dialogue.Runs (retrieve platform provider args) t r) :
    (t = [] ∧ ∃ exc, r = .error exc) ∨
      ∃ correlation reply, correlationId platform args = .ok correlation ∧
        t = [⟨provider.toolClient.post (toolRequest platform args correlation) correlation,
          reply⟩] ∧
        r = (provider.toolClient.readReply correlation reply).bind
          (readResult platform provider correlation) := by
  unfold retrieve at run
  split at run
  · obtain ⟨rfl, rfl⟩ := Dialogue.Runs.done_iff.mp run
    exact .inl ⟨rfl, _, rfl⟩
  next correlation found =>
  obtain ⟨t₁, t₂, reply, rfl, executed, ended⟩ := Dialogue.Runs.bind_iff.mp run
  obtain ⟨rfl, rfl⟩ := Dialogue.Runs.done_iff.mp ended
  rw [List.append_nil]
  rcases BackendToolClient.runs_execute executed with ⟨rfl, exc, rfl⟩ | ⟨answer, rfl, rfl⟩
  · exact .inl ⟨rfl, exc, rfl⟩
  · exact .inr ⟨correlation, answer, found, rfl, rfl⟩

/-- The bundle is the output of an accepted, successful result of the event, it
satisfies the schema and has the correlation id of the call. -/
structure Retrieved (provider : BackendContextProvider) (correlation : String)
    (event : BackendToolClient.PostEvent) (bundle : JsonObject) : Prop where
  output : ∃ result, BackendToolClient.Accepted provider.toolClient correlation event result ∧
    result.get? "status" = some (.str "SUCCESS") ∧ result.get? "output" = some (.obj bundle)
  schema : provider.contracts.validate CONTEXT_BUNDLE_SCHEMA bundle = .ok bundle
  correlationId : bundle.get? "correlation_id" = some (.str correlation)

theorem readResult_eq_ok {correlation : String} {result bundle : JsonObject}
    (accepted : readResult platform provider correlation result = .ok bundle) :
    result.get? "status" = some (.str "SUCCESS") ∧ result.get? "output" = some (.obj bundle) ∧
      provider.contracts.validate CONTEXT_BUNDLE_SCHEMA bundle = .ok bundle ∧
      bundle.get? "correlation_id" = some (.str correlation) := by
  simp only [readResult, except_bind_eq_ok, item_eq_ok_iff] at accepted
  obtain ⟨status, found, accepted⟩ := accepted
  split at accepted
  next success =>
    subst success
    unfold readOutput at accepted
    split at accepted
    next output given =>
      simp only [↓check_bind_eq_ok, except_bind_eq_ok, item_eq_ok_iff,
        raiseUnless_eq_ok_iff] at accepted
      obtain ⟨validated, valid, _, correlation, rfl, built⟩ := accepted
      cases built
      cases CanonicalContractCatalog.eq_of_validate valid
      exact ⟨found, given, valid, correlation⟩
    · cases accepted
  · simp only [retrievalFailure, except_bind_eq_ok] at accepted
    obtain ⟨_, -, impossible⟩ := accepted
    cases impossible

/-- A retrieval returns only what its own call brought. -/
theorem retrieved_of_runs {bundle : JsonObject}
    (run : Dialogue.Runs (retrieve platform provider args) t (.ok bundle)) :
    ∃ correlation event, correlationId platform args = .ok correlation ∧ t = [event] ∧
      event.call = provider.toolClient.post (toolRequest platform args correlation) correlation ∧
      Retrieved provider correlation event bundle := by
  rcases runs_retrieve run with ⟨-, exc, impossible⟩ | ⟨correlation, reply, found, rfl, returned⟩
  · cases impossible
  cases answered : provider.toolClient.readReply correlation reply with
  | error exc =>
    rw [answered] at returned
    cases returned
  | ok result =>
    rw [answered] at returned
    obtain ⟨success, output, schema, correlated⟩ := readResult_eq_ok returned.symm
    exact ⟨correlation, _, found, rfl, rfl,
      ⟨result, BackendToolClient.accepted_of_readReply answered, success, output⟩, schema,
      correlated⟩

end

/-! ## What the id of the call identifies -/

/-- The run, the correlation id and the query are the same. -/
structure SameTexts (args args' : RetrieveArguments) (correlation correlation' : String) :
    Prop where
  runId : args.runId = args'.runId
  correlationId : correlation = correlation'
  query : args.query = args'.query

/-- As many colons in the one run and correlation id as in the other. -/
structure SameColons (args args' : RetrieveArguments) (correlation correlation' : String) :
    Prop where
  runId : args.runId.toList.count ':' = args'.runId.toList.count ':'
  correlationId : correlation.toList.count ':' = correlation'.toList.count ':'

theorem toList_seed (runId correlation query : String) :
    (seed runId correlation query).toList =
      runId.toList ++ ':' :: (correlation.toList ++ ':' :: query.toList) := by
  have spelled : seed runId correlation query = runId ++ ":" ++ correlation ++ ":" ++ query := rfl
  rw [spelled]
  simp only [String.toList_append, List.append_assoc]
  rfl

section

variable {platform : Platform} {args args' : RetrieveArguments} {correlation correlation' : String}

/-- The hashed text tells the three texts apart that have equally many colons. -/
theorem sameTexts_iff :
    SameTexts args args' correlation correlation' ↔
      seed args.runId correlation args.query = seed args'.runId correlation' args'.query ∧
        SameColons args args' correlation correlation' := by
  refine ⟨?_, ?_⟩
  · rintro ⟨runId, rfl, query⟩
    rw [runId, query]
    exact ⟨rfl, congrArg (·.toList.count ':') runId, rfl⟩
  · rintro ⟨same, colons⟩
    rw [← String.toList_inj, toList_seed, toList_seed, append_separator_inj colons.runId,
      append_separator_inj colons.correlationId] at same
    obtain ⟨runId, correlationId, query⟩ := same
    exact ⟨String.toList_inj.mp runId, String.toList_inj.mp correlationId,
      String.toList_inj.mp query⟩

theorem toolCallId_eq_iff
    (apart : ContextManager.TellsApart platform (seed args.runId correlation args.query)
      (seed args'.runId correlation' args'.query)) :
    toolCallId platform args correlation = toolCallId platform args' correlation' ↔
      seed args.runId correlation args.query = seed args'.runId correlation' args'.query := by
  rw [toolCallId, toolCallId, String.append_right_inj]
  exact ⟨apart, fun same => by rw [same]⟩

/-- The tool call id a POST carries. -/
def postedId (event : BackendToolClient.PostEvent) : Option Json :=
  event.call.payload.get? "tool_call_id"

theorem postedId_eq {provider : BackendContextProvider} {t : List BackendToolClient.PostEvent}
    {r : Except PyException JsonObject}
    (found : correlationId platform args = .ok correlation)
    (run : Dialogue.Runs (retrieve platform provider args) t r)
    {event : BackendToolClient.PostEvent} (posted : event ∈ t) :
    postedId event = some (.str (toolCallId platform args correlation)) := by
  rcases runs_retrieve run with ⟨rfl, -⟩ | ⟨other, reply, found', rfl, -⟩
  · cases posted
  · cases found.symm.trans found'
    rw [List.mem_singleton.mp posted]
    rfl

end

/-- Two retrievals whose run ids and correlation ids have equally many colons have
one tool call id exactly when they have the same run id, correlation id and query,
if the truncated hash tells their hashed texts apart.  The same holds of the ids
in the POSTs their runs make. -/
theorem toolCallId_identifies {platform : Platform} {args args' : RetrieveArguments}
    {correlation correlation' : String}
    (found : correlationId platform args = .ok correlation)
    (found' : correlationId platform args' = .ok correlation')
    (apart : ContextManager.TellsApart platform (seed args.runId correlation args.query)
      (seed args'.runId correlation' args'.query)) :
    (toolCallId platform args correlation = toolCallId platform args' correlation' ∧
        SameColons args args' correlation correlation' ↔
      SameTexts args args' correlation correlation') ∧
    ∀ (provider provider' : BackendContextProvider) (t t' : List BackendToolClient.PostEvent)
      (r r' : Except PyException JsonObject),
      Dialogue.Runs (retrieve platform provider args) t r →
        Dialogue.Runs (retrieve platform provider' args') t' r' →
          ∀ event ∈ t, ∀ event' ∈ t',
            (postedId event = postedId event' ∧ SameColons args args' correlation correlation' ↔
              SameTexts args args' correlation correlation') := by
  have identifies : toolCallId platform args correlation = toolCallId platform args' correlation' ∧
      SameColons args args' correlation correlation' ↔
        SameTexts args args' correlation correlation' := by
    rw [toolCallId_eq_iff apart, sameTexts_iff]
  refine ⟨identifies, ?_⟩
  intro provider provider' t t' r r' run run' event posted event' posted'
  rw [postedId_eq found run posted, postedId_eq found' run' posted', Option.some.injEq,
    Json.str.injEq]
  exact identifies

/-! ## Two retrievals with one id -/

def openProvider : BackendContextProvider where
  toolClient := { contracts := ⟨fun _ => none, fun _ => none⟩, token := "" }
  contracts := ⟨fun _ => some fun _ => none⟩

/-- SHA-256 as it is on the texts hashed here. -/
def searchPlatform : Platform :=
  .hashing
    [("run_research_001:corr_research_001:retention",
        "c4cdc65d1bfcfa5ccfe99e1154a9615bba8a807495bdd89de54628d5fb8af56b"),
      ("run_research_001:corr_research_001:deletion",
        "0c5ad01c1f6f56292c2cf348fe5a5ac3e32d0daaae96b2174f5f838ebc5d1f07"),
      ("run:1:corr:retention",
        "20bb969f9bdcb4508e963e976cf9bdc011dfa1383f80877bffe4958d8425652e")]

/-- A search for one word in this run. -/
def wordSearch (runId correlation query : String) (limit : ℤ) : RetrieveArguments where
  runId := runId
  query := query
  executionContext := [("correlation_id", .str correlation)]
  limit := limit

/-- The run of a retrieval whose call times out. -/
def timedOut (args : RetrieveArguments) :
    List BackendToolClient.PostEvent × Except PyException JsonObject :=
  (retrieve searchPlatform openProvider args).converse (fun _ _ => .timeoutException) []

/-- The POST of that run. -/
def searchPost (args : RetrieveArguments) (correlation : String) : BackendToolClient.PostEvent where
  call := openProvider.toolClient.post (toolRequest searchPlatform args correlation) correlation
  reply := .timeoutException

/-- A search in the run of the unit test, for so many items. -/
def researchSearch (query : String) (limit : ℤ) : RetrieveArguments :=
  wordSearch "run_research_001" "corr_research_001" query limit

/-- Searches of different sizes for one word post one id, and one for another word another. -/
theorem toolCallId_identifies_search :
    ∃ event ∈ (timedOut (researchSearch "retention" 12)).1,
      ∃ event' ∈ (timedOut (researchSearch "retention" 20)).1,
        ∃ other ∈ (timedOut (researchSearch "deletion" 12)).1,
          postedId event = some (.str "toolcall_c4cdc65d1bfcfa5ccfe99e11") ∧
            postedId event = postedId event' ∧ postedId event ≠ postedId other := by
  have found : ∀ query limit,
      correlationId searchPlatform (researchSearch query limit) = .ok "corr_research_001" :=
    fun _ _ => rfl
  have posted : ∀ query limit, searchPost (researchSearch query limit) "corr_research_001" ∈
      (timedOut (researchSearch query limit)).1 := fun _ _ => List.mem_singleton.mpr rfl
  have identifies := (toolCallId_identifies (found "retention" 12) (found "retention" 20)
    fun _ => rfl).2 _ _ _ _ _ _ (Dialogue.converse_runs _ _ _) (Dialogue.converse_runs _ _ _) _
      (posted "retention" 12) _ (posted "retention" 20)
  have distinguishes := (toolCallId_identifies (found "retention" 12) (found "deletion" 12)
    fun same => absurd same (by decide +kernel)).2 _ _ _ _ _ _ (Dialogue.converse_runs _ _ _)
      (Dialogue.converse_runs _ _ _) _ (posted "retention" 12) _ (posted "deletion" 12)
  refine ⟨_, posted "retention" 12, _, posted "retention" 20, _, posted "deletion" 12, ?_, ?_, ?_⟩
  · decide +kernel
  · exact (identifies.mpr ⟨rfl, rfl, rfl⟩).1
  · intro same
    exact absurd (distinguishes.mp ⟨same, rfl, rfl⟩).query (by decide)

/-- Retrievals of different sizes, and retrievals whose texts differ by a colon
that moved, have one id. -/
theorem toolCallId_counterexample :
    (¬ ∀ (platform : Platform) (args args' : RetrieveArguments) (correlation correlation' : String),
      correlationId platform args = .ok correlation →
        correlationId platform args' = .ok correlation' →
          ContextManager.TellsApart platform (seed args.runId correlation args.query)
            (seed args'.runId correlation' args'.query) →
            toolCallId platform args correlation = toolCallId platform args' correlation' →
              SameTexts args args' correlation correlation' ∧
                searchArguments args = searchArguments args') ∧
    ¬ ∀ (platform : Platform) (args args' : RetrieveArguments) (correlation correlation' : String),
      correlationId platform args = .ok correlation →
        correlationId platform args' = .ok correlation' →
          ContextManager.TellsApart platform (seed args.runId correlation args.query)
            (seed args'.runId correlation' args'.query) →
            toolCallId platform args correlation = toolCallId platform args' correlation' →
              SameTexts args args' correlation correlation' := by
  refine ⟨?_, ?_⟩
  · intro identifies
    have same := (identifies searchPlatform (researchSearch "retention" 12)
      (researchSearch "retention" 20) _ _ rfl rfl (fun _ => rfl) rfl).2
    exact absurd same (by decide)
  · intro identifies
    have same := identifies searchPlatform (wordSearch "run:1" "corr" "retention" 12)
      (wordSearch "run" "1:corr" "retention" 12) _ _ rfl rfl (fun _ => rfl) rfl
    exact absurd same.runId (by decide)

end BackendContextProvider

end Genesis

import Genesis.Agentic.ToolClient

/-!
# The classification of a tool failure

A tool call fails at the Backend boundary in two ways: it returns a ToolResult
that carries an error, or the client raises a `BackendToolClientError`.  Both
carry a code and say whether the call may be retried.  The engine reads the two
off the ToolResult; the exception meets the handler for every `Exception`, which
names a failure of its own.  `classification_preserved_iff` says which failures
keep their classification in the result of the run.
-/

namespace Genesis

open Py Session

namespace AgentRuntimeEngine

/-- A non-successful ToolResult with a code and a retryable flag in its error. -/
structure CarriesError (toolResult : JsonObject) (code : String) (retryable : Bool) : Prop where
  status : ∃ status, toolResult.get? "status" = some (.str status) ∧ ¬ IsSuccess (.str status)
  error : ∃ error : JsonObject, toolResult.get? "error" = some (.obj error) ∧
    error.get? "code" = some (.str code) ∧ error.get? "retryable" = some (.bool retryable)

/-- The tool call fails at the Backend boundary with this code and flag. -/
inductive FailsWith : AgentEvent → String → Bool → Prop
  | returned {payload toolResult : JsonObject} {correlationId code : String} {retryable : Bool} :
    CarriesError toolResult code retryable →
    FailsWith ⟨.execute payload correlationId, .ok toolResult⟩ code retryable
  | raised {payload : JsonObject} {correlationId : String} (error : BackendToolClientError) :
    FailsWith ⟨.execute payload correlationId, .error (.backendToolClientError error)⟩ error.code
      error.retryable

/-- The error of a failed result has this code and flag. -/
def Reports (result : JsonObject) (code : String) (retryable : Bool) : Prop :=
  ∃ error : JsonObject, result.get? "error" = some (.obj error) ∧
    error.get? "code" = some (.str code) ∧ error.get? "retryable" = some (.bool retryable)

/-- The exception an unsuccessful tool call ends the run with. -/
inductive Stops (platform : Platform) : AgentEvent → PyException → Prop
  | raised {payload : JsonObject} {correlationId : String} {e : PyException} :
    Stops platform ⟨.execute payload correlationId, .error e⟩ e
  | failed {payload toolResult : JsonObject} {correlationId : String} {e : PyException} :
    checkToolResult platform toolResult = .error e →
    Stops platform ⟨.execute payload correlationId, .ok toolResult⟩ e

section

variable {engine : AgentRuntimeEngine} {platform : Platform} {definition : AgentDefinition}
  {request result toolResult : JsonObject} {authorization : RuntimeAuthorization}
  {boundary : ToolBoundary} {turns : List (ToolCallIntent × ℕ)} {t : AgentTrace}
  {event : AgentEvent} {code : String} {retryable : Bool} {toolResults : List JsonObject}

/-! ## Where an unsuccessful call stops the run -/

theorem FailsWith.unsuccessful (fails : FailsWith event code retryable) : Unsuccessful event := by
  cases fails with
  | returned carries =>
    obtain ⟨status, found, fails⟩ := carries.status
    intro success
    obtain ⟨other, found', holds⟩ := success
    rw [found] at found'
    cases found'
    exact fails holds
  | raised => exact trivial

/-- The loop ends with the exception of the call that fails. -/
theorem LoopRun.stops {r : Except PyException Unit}
    (loop : LoopRun engine request boundary turns t r) (member : event ∈ t)
    (failed : Unsuccessful event) : ∃ e, r = .error e ∧ Stops engine.platform event e := by
  induction loop with
  | finished | denied | malformed => cases member
  | raised =>
    cases List.mem_singleton.mp member
    exact ⟨_, rfl, .raised⟩
  | failed _ checked =>
    cases List.mem_singleton.mp member
    exact ⟨_, rfl, .failed checked⟩
  | next _ success _ ih =>
    rcases List.mem_cons.mp member with rfl | later
    · exact absurd (checkToolResult_eq_ok_iff.mp success) failed
    · exact ih later

/-- So does the body of the run. -/
theorem Course.stops {r : Except PyException JsonObject}
    (course : Course engine definition request authorization t r toolResults)
    (member : event ∈ t) (failed : Unsuccessful event) :
    ∃ e, r = .error e ∧ Stops engine.platform event e := by
  obtain ⟨plan, boundary, tools, e, -, inLoop, loop, rfl⟩ :=
    course.stopped_of_unsuccessful member failed
  obtain ⟨e', ended, stops⟩ := loop.stops inLoop failed
  cases ended
  exact ⟨_, rfl, stops⟩

/-! ## What the result reports -/

theorem checkToolResult_of_carriesError (carries : CarriesError toolResult code retryable) :
    checkToolResult platform toolResult = .error (.runtimeFailure
      { code
        message := "Backend ToolExecutor did not return a successful result."
        retryable }) := by
  obtain ⟨status, found, unsuccessful⟩ := carries.status
  obtain ⟨error, hasError, hasCode, hasRetryable⟩ := carries.error
  have present : item toolResult "status" = .ok (.str status) := item_eq_ok_iff.mpr found
  have failure : (toolFailure platform toolResult : Except PyException Unit) =
      .error (.runtimeFailure
        { code
          message := "Backend ToolExecutor did not return a successful result."
          retryable }) := by
    have fields : asDict (.obj error) = .ok error := rfl
    rw [toolFailure, hasError, Option.getD_some, fields]
    dsimp only [bind, Except.bind]
    rw [hasCode, hasRetryable]
    rfl
  rw [checkToolResult, present, ← failure]
  exact if_neg unsuccessful

theorem failureResult_reports {failure : RuntimeFailure}
    (built : engine.failureResult request failure toolResults = .ok result) :
    Reports result failure.code failure.retryable := by
  simp only [failureResult, except_bind_eq_ok] at built
  obtain ⟨identity, identified, _, -, correlationId, -, built⟩ := built
  cases built
  refine ⟨[("code", .str failure.code), ("message", .str failure.message),
    ("correlation_id", correlationId), ("retryable", .bool failure.retryable)], ?_, rfl, rfl⟩
  rw [Dict.get?_append, resultIdentity_get?_eq_none identified (by decide)]
  rfl

/-- A returned result of a run that raised reports what the handlers make of it. -/
theorem conclude_reports {exc : PyException}
    (returned : engine.conclude request (.error exc) toolResults = .ok result) :
    result.get? "status" = some (.str "FAILED") ∧
      Reports result (handled exc).code (handled exc).retryable := by
  unfold conclude at returned
  dsimp only at returned
  split at returned
  · rw [except_bind_eq_ok] at returned
    obtain ⟨built, failed, contract⟩ := returned
    cases CanonicalContractCatalog.eq_of_validate contract
    exact ⟨(failureResult_eq_ok failed).1, failureResult_reports failed⟩
  · cases returned

/-- A result reports one classification. -/
theorem Reports.iff_eq {code' : String} {retryable' : Bool}
    (reports : Reports result code retryable) :
    Reports result code' retryable' ↔ code' = code ∧ retryable' = retryable := by
  obtain ⟨error, hasError, hasCode, hasRetryable⟩ := reports
  refine ⟨?_, ?_⟩
  · intro again
    obtain ⟨error', hasError', hasCode', hasRetryable'⟩ := again
    rw [hasError] at hasError'
    cases hasError'
    rw [hasCode] at hasCode'
    rw [hasRetryable] at hasRetryable'
    cases hasCode'
    cases hasRetryable'
    exact ⟨rfl, rfl⟩
  · intro same
    obtain ⟨rfl, rfl⟩ := same
    exact ⟨error, hasError, hasCode, hasRetryable⟩

/-- The classification that the handler for every exception gives. -/
def IsCatchAll (code : String) (retryable : Bool) : Prop :=
  code = "RUNTIME_EXECUTION_FAILED" ∧ retryable = false

/-- A failed tool call keeps its classification exactly when it is a ToolResult,
or is classified the way the handlers classify every exception. -/
theorem reports_iff_of_run
    (run : Dialogue.Runs (engine.run definition request authorization) t (.ok result))
    (member : event ∈ t) (fails : FailsWith event code retryable) :
    result.get? "status" = some (.str "FAILED") ∧
      (Reports result code retryable ↔ event.received?.isSome ∨ IsCatchAll code retryable) := by
  rcases runs_run run with ⟨rfl, -⟩ | ⟨outcome, toolResults, course, returned⟩
  · cases member
  obtain ⟨e, rfl, stops⟩ := course.stops member fails.unsuccessful
  obtain ⟨status, reports⟩ := conclude_reports returned.symm
  refine ⟨status, ?_⟩
  rw [reports.iff_eq]
  cases fails with
  | returned carries =>
    cases stops with
    | failed checked =>
      rw [checkToolResult_of_carriesError carries] at checked
      cases checked
      exact ⟨fun _ => .inl rfl, fun _ => ⟨rfl, rfl⟩⟩
  | raised error =>
    cases stops with
    | raised =>
      refine ⟨fun same => .inr same, ?_⟩
      intro h
      rcases h with impossible | same
      · cases impossible
      · exact same

end

end AgentRuntimeEngine

/-! ## The failures of the client -/

namespace BackendToolClient

/-- The codes `execute` raises. -/
def errorCodes : List String :=
  ["BACKEND_TOOL_TIMEOUT", "BACKEND_TOOL_HTTP_ERROR", "BACKEND_TOOL_UNAVAILABLE",
    "BACKEND_TOOL_INVALID_RESPONSE", "BACKEND_TOOL_CORRELATION_MISMATCH"]

/-- If this is a client error, it has one of the codes. -/
def HasOwnCode (exc : PyException) : Prop :=
  ∀ error, exc = .backendToolClientError error → error.code ∈ errorCodes

/-- The HTTP library does not raise the client's own exception. -/
def RaisesForeign (event : PostEvent) : Prop :=
  ∀ error, .backendToolClientError error ∉ event.reply.exception?

section

variable {client : BackendToolClient} {payload : JsonObject} {correlationId : String}

theorem hasOwnCode_of_ne {exc : PyException}
    (foreign : ∀ error, exc ≠ .backendToolClientError error) : HasOwnCode exc :=
  fun error same => absurd same (foreign error)

theorem check_hasOwnCode {firstError : JsonObject → Option (String × String)} {contract : String} :
    RaisesOnly HasOwnCode (ToolBoundaryContracts.check firstError contract payload) := by
  unfold ToolBoundaryContracts.check
  split
  · refine RaisesOnly.error_iff.mpr (hasOwnCode_of_ne ?_)
    intro _ same
    cases same
  · exact .ok ()

theorem item_hasOwnCode {d : JsonObject} {key : String} : RaisesOnly HasOwnCode (item d key) := by
  apply item_raisesOnly
  apply hasOwnCode_of_ne
  intro _ same
  cases same

theorem checkRequest_hasOwnCode :
    RaisesOnly HasOwnCode (client.checkRequest payload correlationId) := by
  have assertion : HasOwnCode .assertionError := by
    intro _ same
    cases same
  have untyped : HasOwnCode .attributeError := by
    intro _ same
    cases same
  unfold checkRequest
  refine check_hasOwnCode.bind fun _ _ => item_hasOwnCode.bind fun _ _ => ?_
  refine (raiseUnless_raisesOnly assertion).bind fun _ _ => ?_
  refine (asDict_raisesOnly untyped).bind fun _ _ => item_hasOwnCode.bind fun _ _ => ?_
  apply raiseUnless_raisesOnly
  apply hasOwnCode_of_ne
  intro _ same
  cases same

/-- A client error whose code is listed. -/
theorem hasOwnCode_of_mem {error : BackendToolClientError} (member : error.code ∈ errorCodes) :
    HasOwnCode (.backendToolClientError error) := by
  intro _ same
  cases same
  exact member

theorem readReply_hasOwnCode {reply : HttpReply}
    (foreign : ∀ error, .backendToolClientError error ∉ reply.exception?) :
    RaisesOnly HasOwnCode (client.readReply correlationId reply) := by
  cases reply with
  | timeoutException => exact RaisesOnly.error_iff.mpr (hasOwnCode_of_mem (by simp [errorCodes]))
  | requestError => exact RaisesOnly.error_iff.mpr (hasOwnCode_of_mem (by simp [errorCodes]))
  | raised exc =>
    refine RaisesOnly.error_iff.mpr (hasOwnCode_of_ne ?_)
    intro error same
    exact foreign error (congrArg some same)
  | response statusCode json =>
    simp only [readReply]
    split
    · unfold readBody
      split
      next exc =>
        split
        · exact RaisesOnly.error_iff.mpr (hasOwnCode_of_mem (by simp [errorCodes]))
        · refine RaisesOnly.error_iff.mpr (hasOwnCode_of_ne ?_)
          intro error same
          exact foreign error (congrArg some same)
      · refine check_hasOwnCode.bind fun _ _ => item_hasOwnCode.bind fun _ _ => ?_
        refine (raiseUnless_raisesOnly (hasOwnCode_of_mem ?_)).bind fun _ _ => .ok _
        simp [errorCodes]
      · exact RaisesOnly.error_iff.mpr (hasOwnCode_of_mem (by simp [errorCodes]))
    · exact RaisesOnly.error_iff.mpr (hasOwnCode_of_mem (by simp [errorCodes]))

/-- A client error of a served tool call has one of the codes. -/
theorem execute_hasOwnCode {t : List PostEvent} {r : Except PyException JsonObject}
    (foreign : ∀ event ∈ t, RaisesForeign event)
    (run : Dialogue.Runs (client.execute payload correlationId) t r) : RaisesOnly HasOwnCode r := by
  unfold execute at run
  split at run
  next exc refused =>
    obtain ⟨rfl, rfl⟩ := Dialogue.Runs.done_iff.mp run
    exact RaisesOnly.error_iff.mpr (checkRequest_hasOwnCode exc refused)
  · obtain ⟨t₁, t₂, reply, rfl, asked, ended⟩ := Dialogue.Runs.bind_iff.mp run
    obtain ⟨rfl, rfl⟩ := Dialogue.Runs.done_iff.mp ended
    cases Dialogue.Runs.question_iff.mp asked
    exact readReply_hasOwnCode (foreign _ List.mem_cons_self)

/-- So has every client error among the replies the engine gets. -/
theorem replies_hasOwnCode {t : AgentTrace} {u : BackendTrace}
    (serves : Dialogue.Serves client.serve t u) (foreign : ∀ event ∈ posts u, RaisesForeign event)
    {error : BackendToolClientError}
    (member : (⟨.execute payload correlationId, .error (.backendToolClientError error)⟩ :
      AgentEvent) ∈ t) : error.code ∈ errorCodes := by
  induction serves with
  | nil => cases member
  | cons served _ ih =>
    rw [posts_append] at foreign
    rcases List.mem_cons.mp member with same | later
    · cases same
      have own := execute_hasOwnCode
        (fun event inHead => foreign event (List.mem_append_left _ inHead))
        (runs_serve_execute served)
      exact own _ rfl error rfl
    · exact ih (fun event inTail => foreign event (List.mem_append_right _ inTail)) later

end

/-! ## Failures end to end -/

open AgentRuntimeEngine

/-- A tool failure keeps its code and flag in the result exactly when it arrives
as a ToolResult, or happens to be classified as every exception is; with the
Backend client, exactly when it arrives as a ToolResult. -/
theorem classification_preserved_iff (engine : AgentRuntimeEngine) (definition : AgentDefinition)
    (request : JsonObject) (authorization : RuntimeAuthorization) (result : JsonObject) :
    (∀ t : AgentTrace, Dialogue.Runs (engine.run definition request authorization) t (.ok result) →
      ∀ event ∈ t, ∀ code retryable, FailsWith event code retryable →
        result.get? "status" = some (.str "FAILED") ∧
          (Reports result code retryable ↔
            event.received?.isSome ∨ IsCatchAll code retryable)) ∧
    ∀ (client : BackendToolClient) (u : BackendTrace),
      Dialogue.Runs ((engine.run definition request authorization).handle client.serve) u
          (.ok result) →
        (∀ event ∈ posts u, RaisesForeign event) →
        ∃ t : AgentTrace, Dialogue.Serves client.serve t u ∧
          Dialogue.Runs (engine.run definition request authorization) t (.ok result) ∧
          ∀ event ∈ t, ∀ code retryable, FailsWith event code retryable →
            (Reports result code retryable ↔ event.received?.isSome) := by
  refine ⟨?_, ?_⟩
  · intro t run event member code retryable fails
    exact reports_iff_of_run run member fails
  · intro client u run foreign
    obtain ⟨t, outer, serves⟩ := Dialogue.Runs.of_handle run
    refine ⟨t, serves, outer, ?_⟩
    intro event member code retryable fails
    rw [(reports_iff_of_run outer member fails).2]
    refine ⟨?_, .inl⟩
    intro h
    rcases h with returned | catchAll
    · exact returned
    cases fails with
    | returned => rfl
    | raised error =>
      have own := replies_hasOwnCode serves foreign member
      rw [catchAll.1] at own
      exact absurd own (by decide)

/-! ## A failure returned and a failure raised -/

/-- The tool request and the correlation id of a tool call. -/
def executed? : AgentEvent → Option (JsonObject × String)
  | ⟨.execute payload correlationId, _⟩ => some (payload, correlationId)
  | _ => none

/-- The diagnostic run in which the one tool call ends like this. -/
def failingRun (reply : Except PyException JsonObject) :
    AgentTrace × Except PyException JsonObject :=
  (diagnosticEngine.run diagnosticDefinition (diagnosticRequest [("max_tokens", .int 200)])
    diagnosticAuthorization).converse
    (fun past call =>
      match call with
      | .execute _ _ => reply
      | other => diagnosticReply (diagnosticPlan [diagnosticIntent "diagnostic.echo" echo_idLength])
        past other)
    []

def echoPayload : JsonObject :=
  ((diagnosticEngine.toolRequest (diagnosticRequest [("max_tokens", .int 200)]) "diagnostic.echo"
    (diagnosticIntent "diagnostic.echo" echo_idLength).arguments 1).toOption).getD []

/-- The tool call of the run, once it is known to have been made. -/
theorem mem_failingRun {reply : Except PyException JsonObject}
    (made : (failingRun reply).1.filterMap executed? = [(echoPayload, "corr_runtime_001")]) :
    (⟨.execute echoPayload "corr_runtime_001", reply⟩ : AgentEvent) ∈ (failingRun reply).1 := by
  have listed : (echoPayload, "corr_runtime_001") ∈ (failingRun reply).1.filterMap executed? := by
    rw [made]
    exact List.mem_cons_self
  obtain ⟨⟨call, given⟩, member, asked⟩ := List.mem_filterMap.mp listed
  obtain ⟨past, replied⟩ := Dialogue.reply_of_mem_converse member
  cases call with
  | plan | complete => cases asked
  | execute payload correlationId =>
    cases asked
    dsimp only at replied
    subst replied
    exact member

/-- A tool result of a rate-limited tool. -/
def rateLimited : JsonObject :=
  [("status", .str "FAILED"),
    ("error", .obj [("code", .str "RATE_LIMITED"), ("retryable", .bool true)])]

theorem classification_preserved_rateLimited :
    ∃ result, (failingRun (.ok rateLimited)).2 = .ok result ∧
      Reports result "RATE_LIMITED" true := by
  have run : Dialogue.Runs _ (failingRun (.ok rateLimited)).1 (failingRun (.ok rateLimited)).2 :=
    Dialogue.converse_runs _ _ _
  have returned : (failingRun (.ok rateLimited)).2.isOk = true := by decide +kernel
  have carries : CarriesError rateLimited "RATE_LIMITED" true :=
    ⟨⟨"FAILED", rfl, by decide⟩, _, rfl, rfl, rfl⟩
  cases ended : (failingRun (.ok rateLimited)).2 with
  | error e =>
    rw [ended] at returned
    cases returned
  | ok result =>
    rw [ended] at run
    have kept := (classification_preserved_iff _ _ _ _ result).1 _ run _
      (mem_failingRun (by decide +kernel)) _ _ (.returned carries)
    exact ⟨result, rfl, kept.2.mpr (.inl rfl)⟩

def timedOut : BackendToolClientError where
  code := "BACKEND_TOOL_TIMEOUT"
  message := "ALOS Backend did not respond before the client timeout."
  correlationId := "corr_runtime_001"
  retryable := true

/-- What the Backend client replies with when the Backend does not respond. -/
def timedOutReply : Except PyException JsonObject := .error (.backendToolClientError timedOut)

theorem runs_timedOut :
    ∃ posts, Dialogue.Runs (diagnosticClient.execute echoPayload "corr_runtime_001") posts
      timedOutReply := by
  have ended : ((diagnosticClient.execute echoPayload "corr_runtime_001").converse
      (fun _ _ => HttpReply.timeoutException) []).2 = timedOutReply := by decide +kernel
  have raises := Dialogue.converse_runs (fun _ _ => HttpReply.timeoutException) []
    (diagnosticClient.execute echoPayload "corr_runtime_001")
  rw [ended] at raises
  exact ⟨_, raises⟩

theorem executed_timedOut :
    (failingRun timedOutReply).1.filterMap executed? = [(echoPayload, "corr_runtime_001")] := by
  decide +kernel

/-- Every tool call of the run is replied to as the client replies. -/
theorem served_timedOut {payload : JsonObject} {correlationId : String}
    {given : Except PyException JsonObject}
    (member : (⟨.execute payload correlationId, given⟩ : AgentEvent) ∈
      (failingRun timedOutReply).1) :
    ∃ posts, Dialogue.Runs (diagnosticClient.execute payload correlationId) posts given := by
  have listed : (payload, correlationId) ∈ (failingRun timedOutReply).1.filterMap executed? :=
    List.mem_filterMap.mpr ⟨_, member, rfl⟩
  rw [executed_timedOut, List.mem_singleton] at listed
  cases listed
  obtain ⟨past, replied⟩ := Dialogue.reply_of_mem_converse member
  cases replied
  exact runs_timedOut

/-- The timeout that the client raises is reported as another failure, not to be retried. -/
theorem classification_preserved_counterexample :
    ¬ ∀ (client : BackendToolClient) (engine : AgentRuntimeEngine) (definition : AgentDefinition)
      (request : JsonObject) (authorization : RuntimeAuthorization) (t : AgentTrace)
      (result : JsonObject),
      Dialogue.Runs (engine.run definition request authorization) t (.ok result) →
        (∀ payload correlationId reply,
          (⟨.execute payload correlationId, reply⟩ : AgentEvent) ∈ t →
            ∃ posts, Dialogue.Runs (client.execute payload correlationId) posts reply) →
        ∀ event ∈ t, ∀ code retryable, FailsWith event code retryable →
          Reports result code retryable := by
  intro preserved
  have run : Dialogue.Runs _ (failingRun timedOutReply).1 (failingRun timedOutReply).2 :=
    Dialogue.converse_runs _ _ _
  have reported : ((failingRun timedOutReply).2.toOption.bind fun result =>
      result.get? "error") =
        some (.obj [("code", .str "RUNTIME_EXECUTION_FAILED"),
          ("message", .str "Agent runtime failed safely."),
          ("correlation_id", .str "corr_runtime_001"), ("retryable", .bool false)]) := by
    decide +kernel
  cases returned : (failingRun timedOutReply).2 with
  | error e =>
    rw [returned] at reported
    cases reported
  | ok result =>
    rw [returned] at run reported
    obtain ⟨error, hasError, hasCode, -⟩ := preserved diagnosticClient _ _ _ _ _ result run
      (fun _ _ _ member => served_timedOut member) _ (mem_failingRun executed_timedOut) _ _
        (.raised timedOut)
    have hasError' : result.get? "error" = some _ := reported
    rw [hasError] at hasError'
    cases hasError'
    exact absurd hasCode (by decide)

end BackendToolClient

end Genesis

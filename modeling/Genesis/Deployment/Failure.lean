import Genesis.Deployment.Research
import Genesis.Research.Failure

/-!
# Why a deployed research raises

`research_raises` lists the exceptions that a deployed research can end in: value
errors, the typed errors of the tool boundary and of the retrieval, under the
correlation id of the execution context, the refusal of the model request it
prepared, what the HTTP library or the provider raised, and nothing else as long as
the schemas require the values that the code indexes.

The libraries that work on a document once it is parsed are taken to raise nothing of
their own: the schema library resolves every reference of its schemas, and no document
exhausts the stack.
-/

namespace Genesis

open Py Session

/-! ## A retrieval -/

namespace BackendContextProvider

/-- The values that are read off a tool result. -/
structure ShapedResult (result : JsonObject) : Prop where
  fields : ∀ field ∈ ["correlation_id", "status"], (result.get? field).isSome = true
  error : ∀ error ∈ result.get? "error", error.dict?.isSome = true

/-- A schema accepts a tool result or a bundle that lacks a value the provider reads. -/
def AcceptsUnshaped (provider : BackendContextProvider) : Prop :=
  (∃ result, provider.toolClient.contracts.resultError result = none ∧ ¬ ShapedResult result) ∨
    ResearchEngine.AcceptsUnshaped provider.contracts

/-- Why a retrieval under this correlation id raises. -/
inductive Reason (provider : BackendContextProvider) (correlation : String)
    (t : List BackendToolClient.PostEvent) : PyException → Prop
  | value {exc : PyException} (kind : IsValueError exc) : Reason provider correlation t exc
  | boundary (error : ToolContractError) : Reason provider correlation t (.toolContractError error)
  | client {error : BackendToolClientError} (correlated : error.correlationId = correlation) :
    Reason provider correlation t (.backendToolClientError error)
  | retrieval {error : ContextRetrievalError} (correlated : error.correlationId = correlation) :
    Reason provider correlation t (.contextRetrievalError error)
  | transport {call : ToolPost} {reply : HttpReply} {exc : PyException}
    (member : ⟨call, reply⟩ ∈ t) (raised : exc ∈ reply.exception?) :
    Reason provider correlation t exc
  | unshaped {exc : PyException} (accepts : AcceptsUnshaped provider) :
    Reason provider correlation t exc

section

variable {platform : Platform} {provider : BackendContextProvider} {args : RetrieveArguments}
  {correlation : String} {t : List BackendToolClient.PostEvent} {exc : PyException}

/-- Of a request under its own correlation id, the checks raise contract errors only. -/
theorem checkRequest_raisesOnly {value : Json}
    (found : args.executionContext.get? "correlation_id" = some value) :
    RaisesOnly (Reason provider correlation t)
      (provider.toolClient.checkRequest (toolRequest platform args correlation) correlation) := by
  unfold BackendToolClient.checkRequest ToolBoundaryContracts.validateRequest
    ToolBoundaryContracts.check
  refine RaisesOnly.bind ?_ fun _ _ => ?_
  · split
    · exact RaisesOnly.error_iff.mpr (.boundary _)
    · exact .ok ()
  have present : item (toolRequest platform args correlation) "execution_context" =
      .ok (.obj args.executionContext) := rfl
  rw [present]
  refine RaisesOnly.bind (.ok _) fun _ same => ?_
  cases same
  refine RaisesOnly.bind (.ok ()) fun _ _ => ?_
  refine RaisesOnly.bind (.ok args.executionContext) fun _ same => ?_
  cases same
  rw [item_eq_ok_iff.mpr found]
  exact RaisesOnly.bind (.ok value) fun _ _ => raiseUnless_raisesOnly (.boundary _)

/-- What the client makes of a reply. -/
theorem readReply_raisesOnly {call : ToolPost} {reply : HttpReply} (asked : t = [⟨call, reply⟩]) :
    RaisesOnly (Reason provider correlation t)
      (provider.toolClient.readReply correlation reply) := by
  subst asked
  cases reply with
  | timeoutException => exact RaisesOnly.error_iff.mpr (.client rfl)
  | requestError => exact RaisesOnly.error_iff.mpr (.client rfl)
  | raised exc => exact RaisesOnly.error_iff.mpr (.transport List.mem_cons_self rfl)
  | response statusCode json =>
    dsimp only [BackendToolClient.readReply]
    split
    · unfold BackendToolClient.readBody
      split
      · split
        · exact RaisesOnly.error_iff.mpr (.client rfl)
        · exact RaisesOnly.error_iff.mpr (.transport List.mem_cons_self rfl)
      next document =>
        unfold BackendToolClient.readDocument ToolBoundaryContracts.validateResult
        refine RaisesOnly.bind ?_ fun _ accepted => ?_
        · unfold ToolBoundaryContracts.check
          split
          · exact RaisesOnly.error_iff.mpr (.boundary _)
          · exact .ok ()
        rw [BackendToolClient.check_eq_ok_iff] at accepted
        by_cases shaped : ShapedResult document
        · refine RaisesOnly.bind
            (ResearchEngine.item_raisesOnly_of_mem shaped.fields (by decide)) fun _ _ => ?_
          exact RaisesOnly.bind (raiseUnless_raisesOnly (.client rfl)) fun _ _ => .ok _
        · exact fun _ _ => .unshaped (.inl ⟨document, accepted, shaped⟩)
      · exact RaisesOnly.error_iff.mpr (.client rfl)
    · exact RaisesOnly.error_iff.mpr (.client rfl)

/-- What the provider makes of an accepted result. -/
theorem readResult_raisesOnly {result : JsonObject}
    (accepted : provider.toolClient.contracts.resultError result = none) :
    RaisesOnly (Reason provider correlation t)
      (readResult platform provider correlation result) := by
  by_cases shaped : ShapedResult result
  swap
  · exact fun _ _ => .unshaped (.inl ⟨result, accepted, shaped⟩)
  unfold readResult
  refine RaisesOnly.bind
    (ResearchEngine.item_raisesOnly_of_mem shaped.fields (by decide)) fun _ _ => ?_
  split
  · unfold readOutput
    split
    next bundle _ =>
      refine RaisesOnly.bind (CanonicalContractCatalog.validate_raisesOnly.mono fun _ => .value)
        fun _ valid => ?_
      cases CanonicalContractCatalog.eq_of_validate valid
      by_cases lacking : ResearchEngine.ShapedBundle bundle
      · refine RaisesOnly.bind
          (ResearchEngine.item_raisesOnly_of_mem lacking.fields (by decide)) fun _ _ => ?_
        exact RaisesOnly.bind (raiseUnless_raisesOnly (.retrieval rfl)) fun _ _ => .ok _
      · exact fun _ _ => .unshaped (.inr ⟨bundle, valid, lacking⟩)
    · exact RaisesOnly.error_iff.mpr (.retrieval rfl)
  · unfold retrievalFailure
    refine RaisesOnly.bind ?_ fun _ _ => RaisesOnly.error_iff.mpr (.retrieval rfl)
    cases found : result.get? "error" with
    | none => exact .ok []
    | some error =>
      obtain ⟨fields, dict⟩ := Option.isSome_iff_exists.mp (shaped.error error found)
      rw [Option.getD_some, asDict_eq_ok_iff.mpr (Json.dict?_eq_some_iff.mp dict)]
      exact .ok fields

/-- A retrieval raises for one of these reasons, under the correlation id it is given. -/
theorem reason_of_runs {value : Json}
    (found : args.executionContext.get? "correlation_id" = some value)
    (run : Dialogue.Runs (retrieve platform provider args) t (.error exc)) :
    Reason provider (platform.str value) t exc := by
  have correlation : correlationId platform args = .ok (platform.str value) := by
    rw [correlationId, item_eq_ok_iff.mpr found]
    rfl
  unfold retrieve at run
  rw [correlation] at run
  dsimp only at run
  obtain ⟨t₁, t₂, outcome, rfl, executed, ended⟩ := Dialogue.Runs.bind_iff.mp run
  obtain ⟨rfl, same⟩ := Dialogue.Runs.done_iff.mp ended
  rw [List.append_nil]
  rcases BackendToolClient.runs_execute_iff.mp executed with
    ⟨e, refused, rfl, rfl⟩ | ⟨-, reply, rfl, rfl⟩
  · cases same
    exact checkRequest_raisesOnly found exc refused
  · cases answered : provider.toolClient.readReply (platform.str value) reply with
    | error e =>
      rw [answered] at same
      cases same
      exact readReply_raisesOnly rfl exc answered
    | ok result =>
      rw [answered] at same
      have schema := (BackendToolClient.readReply_eq_ok answered).2.1
      exact readResult_raisesOnly schema exc same.symm

end

end BackendContextProvider

/-! ## A research -/

namespace ResearchEngine

/-- The text of the correlation id in the execution context of the request. -/
def Correlates (engine : ResearchEngine) (payload : JsonObject) (correlationId : String) : Prop :=
  ∃ context : JsonObject, ∃ value, payload.get? "execution_context" = some (.obj context) ∧
    context.get? "correlation_id" = some value ∧ correlationId = engine.platform.str value

/-- The exceptions a deployed research can end in, and where each comes from. -/
inductive Escapes (engine : ResearchEngine) (deployment : ResearchDeployment)
    (payload : JsonObject) (u : OutsideTrace) : PyException → Prop
  | value {exc : PyException} (kind : IsValueError exc) : Escapes engine deployment payload u exc
  | boundary (error : ToolContractError) :
    Escapes engine deployment payload u (.toolContractError error)
  | client {error : BackendToolClientError}
    (correlated : Correlates engine payload error.correlationId) :
    Escapes engine deployment payload u (.backendToolClientError error)
  | retrieval {error : ContextRetrievalError}
    (correlated : Correlates engine payload error.correlationId) :
    Escapes engine deployment payload u (.contextRetrievalError error)
  | transport {call : ToolPost} {reply : HttpReply} {exc : PyException}
    (member : ⟨.post call, reply⟩ ∈ u) (raised : exc ∈ reply.exception?) :
    Escapes engine deployment payload u exc
  | refused {executionContext bundle : JsonObject} {model : ModelRequest} {evidence : Dict Json}
    {exc : PyException} (sources : Sources engine deployment payload bundle u)
    (context : ResearchEngine.executionContext payload = .ok executionContext)
    (prepared : engine.prepare payload executionContext (.obj bundle) = .ok (model, evidence))
    (refused : deployment.gateway.selectRoute model = .error exc) :
    Escapes engine deployment payload u exc
  | provider {call : ProviderCall} {exc : PyException} (member : ⟨.invoke call, .error exc⟩ ∈ u) :
    Escapes engine deployment payload u exc
  | request {exc : PyException}
    (accepted : engine.contracts.validate RESEARCH_REQUEST_SCHEMA payload = .ok payload)
    (lacking : ¬ ShapedRequest payload) : Escapes engine deployment payload u exc
  | bundle {exc : PyException} (accepts : AcceptsUnshaped engine.contracts) :
    Escapes engine deployment payload u exc
  | unshaped {exc : PyException} (accepts : deployment.provider.AcceptsUnshaped) :
    Escapes engine deployment payload u exc

section

variable {engine : ResearchEngine} {deployment : ResearchDeployment}
  {payload context : JsonObject} {u : OutsideTrace} {exc : PyException} {runId query : String}

/-- A retrieval that was served with an exception. -/
theorem escapes_of_retrieval {v : OutsideTrace}
    (found : payload.get? "execution_context" = some (.obj context))
    (fields : ∀ field ∈ CONTEXT_FIELDS, (context.get? field).isSome = true)
    (within : v ⊆ u)
    (served : Dialogue.Runs (deployment.serve engine.platform (.retrieve runId query context)) v
      (.error exc)) :
    Escapes engine deployment payload u exc := by
  obtain ⟨value, correlation⟩ :=
    Option.isSome_iff_exists.mp (fields "correlation_id" (by decide))
  unfold ResearchDeployment.serve at served
  obtain ⟨v₁, v₂, outcome, rfl, handled, ended⟩ := Dialogue.Runs.bind_iff.mp served
  obtain ⟨rfl, same⟩ := Dialogue.Runs.done_iff.mp ended
  obtain ⟨t, retrieving, serves⟩ := Dialogue.Runs.of_handle handled
  cases outcome with
  | ok document => cases same
  | error e =>
    cases same
    have correlated : Correlates engine payload (engine.platform.str value) :=
      ⟨context, value, found, correlation, rfl⟩
    cases BackendContextProvider.reason_of_runs correlation retrieving with
    | value kind => exact .value kind
    | boundary error => exact .boundary error
    | client same => exact .client (same ▸ correlated)
    | retrieval same => exact .retrieval (same ▸ correlated)
    | transport member raised =>
      obtain ⟨w, inside, posted⟩ := serves.runs_of_mem member
      cases Dialogue.Runs.question_iff.mp posted
      exact .transport (within (List.mem_append_left _ (inside List.mem_cons_self))) raised
    | unshaped accepts => exact .unshaped accepts

/-- A gateway that replies with an exception has refused what was prepared, or the provider
raised it. -/
theorem Prepared.escapes {t : ResearchTrace} {executionContext bundle : JsonObject}
    {model : ModelRequest} {evidence : Dict Json}
    (prepared : Prepared engine payload t executionContext bundle model evidence)
    (serves : Dialogue.Serves (deployment.serve engine.platform)
      (t ++ [⟨.complete model, .error exc⟩]) u) : Escapes engine deployment payload u exc := by
  obtain ⟨v, w, rfl, acquiring, completing⟩ := Dialogue.Serves.of_append serves
  have sources := prepared.acquired.sources prepared.context acquiring
  cases completing with
  | cons completed rest =>
    cases rest
    rw [List.append_nil]
    rcases GovernedModelGateway.runs_handle_complete.mp completed with
      ⟨e, refused, rfl, same⟩ | ⟨routeId, -, invoked⟩
    · cases same
      rw [List.append_nil]
      exact .refused sources prepared.context prepared.prepared refused
    · cases Dialogue.Runs.question_iff.mp invoked
      exact .provider (List.mem_append_right v List.mem_cons_self)

theorem escapes_of_runs {outcome : Except PyException JsonObject × Unit}
    (run : Dialogue.Runs (engine.researchOutside deployment payload) u outcome)
    (raised : outcome.1 = .error exc) : Escapes engine deployment payload u exc := by
  obtain ⟨t, outer, serves⟩ := Dialogue.Runs.of_handle run
  obtain ⟨r, ⟨⟩⟩ := outcome
  cases raised
  cases reason_of_runs outer with
  | value kind => exact .value kind
  | retrieval found fields member =>
    obtain ⟨v, within, served⟩ := serves.runs_of_mem member
    exact escapes_of_retrieval found fields within served
  | @gateway model member =>
    have asked : model ∈ ResearchTrace.completions t :=
      List.mem_filterMap.mpr ⟨_, member, rfl⟩
    rcases runs_research outer with ⟨unasked, -⟩ |
      ⟨before, executionContext, bundle, model, evidence, reply, prepared, rfl, -⟩
    · rw [unasked] at asked
      cases asked
    · obtain ⟨-, rfl⟩ := prepared.eq_of_mem member
      exact prepared.escapes serves
  | request accepted lacking => exact .request accepted lacking
  | bundle accepts => exact .bundle accepts

end

/-- Whatever Backend and provider reply, a research that raises ends in one of these
exceptions. -/
theorem research_raises (engine : ResearchEngine) (deployment : ResearchDeployment)
    (payload : JsonObject) (u : OutsideTrace) (outcome : Except PyException JsonObject × Unit)
    (exc : PyException)
    (run : Dialogue.Runs (engine.researchOutside deployment payload) u outcome)
    (raised : outcome.1 = .error exc) : Escapes engine deployment payload u exc :=
  escapes_of_runs run raised

/-! ## A Backend that is silent -/

def silentReply : (call : OutsideCall) → call.Reply
  | .plan _ _ => .error .timeoutError
  | .post _ => .timeoutException
  | .invoke _ => .error .timeoutError

def silentRun : OutsideTrace × Except PyException JsonObject × Unit :=
  (searchingEngine.researchOutside policyDeployed bundlelessRequest).converse
    (fun _ => silentReply) []

/-- The error of the tool client, under the correlation id of the request. -/
def silentError : BackendToolClientError where
  code := "BACKEND_TOOL_TIMEOUT"
  message := "ALOS Backend did not respond before the client timeout."
  correlationId := "corr_research_001"
  retryable := true

theorem research_raises_silent :
    silentRun.2.1 = .error (.backendToolClientError silentError) ∧
      Escapes searchingEngine policyDeployed bundlelessRequest silentRun.1
        (.backendToolClientError silentError) := by
  have raised : silentRun.2.1 = .error (.backendToolClientError silentError) := by
    decide +kernel
  exact ⟨raised, research_raises searchingEngine policyDeployed bundlelessRequest silentRun.1
    silentRun.2 (.backendToolClientError silentError) (Dialogue.converse_runs _ [] _) raised⟩

end ResearchEngine

end Genesis

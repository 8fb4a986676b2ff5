import Genesis.Agentic.Outcome

/-!
# Runs that return a result

Which runs of `AgentRuntimeEngine.run` end in a result of the canonical schema.
Every exception of the body of its `try` is caught, whatever the ports reply
with, unless it is a cancellation; but the result that reports it lists the
received tool results again and is validated outside the `try`.
`AgentRuntimeEngine.run_returns_iff` puts the two together.
-/

namespace Genesis

open Py Session

/-- The exception is caught by `except Exception`. -/
def Caught (e : PyException) : Prop := e.isException = true

/-- The JSON parser and the schema engine raise nothing but exceptions. -/
structure Platform.RaisesExceptions (platform : Platform) : Prop where
  jsonLoads : ∀ text, RaisesOnly Caught (platform.jsonLoads text)
  schemaAccepts : ∀ schema payload, RaisesOnly Caught (platform.schemaAccepts schema payload)

namespace AgentRuntimeEngine

/-! ## What the checks raise -/

section

variable {engine : AgentRuntimeEngine} {platform : Platform} {definition : AgentDefinition}
  {request : JsonObject} {authorization : RuntimeAuthorization} {budget : ExecutionBudget}
  {plan : ExecutionPlan} {boundary : ToolBoundary} {response : ModelResponse}
  {toolResults : List JsonObject}

theorem failUnless_raisesOnly {condition : Prop} [Decidable condition] {code message : String} :
    RaisesOnly Caught (failUnless condition code message) :=
  raiseUnless_raisesOnly rfl

theorem item_caught {d : JsonObject} {key : String} : RaisesOnly Caught (item d key) :=
  item_raisesOnly rfl

theorem subscript_caught {value : Json} {key : String} :
    RaisesOnly Caught (subscript value key) :=
  subscript_raisesOnly rfl rfl

theorem asDict_caught {value : Json} : RaisesOnly Caught (asDict value) := asDict_raisesOnly rfl

theorem frozenset_caught {value : Json} : RaisesOnly Caught (frozenset value) :=
  frozenset_raisesOnly rfl

theorem validateAuthorization_raisesOnly :
    RaisesOnly Caught (validateAuthorization platform definition request authorization) := by
  have budgeted (context : JsonObject) : RaisesOnly Caught (executionBudget platform context) := by
    unfold executionBudget
    split
    · exact ExecutionBudget.modelValidate_raisesOnly rfl
    · exact RaisesOnly.error_iff.mpr rfl
  unfold validateAuthorization
  refine item_caught.bind fun _ _ => failUnless_raisesOnly.bind fun _ _ =>
    failUnless_raisesOnly.bind fun _ _ => ?_
  refine item_caught.bind fun _ _ => failUnless_raisesOnly.bind fun _ _ =>
    item_caught.bind fun _ _ => failUnless_raisesOnly.bind fun _ _ => ?_
  refine item_caught.bind fun _ _ => failUnless_raisesOnly.bind fun _ _ =>
    item_caught.bind fun _ _ => ?_
  exact asDict_caught.bind fun context _ => budgeted context

theorem validateJsonSchema_raisesOnly (raising : platform.RaisesExceptions) {schema : JsonObject}
    {payload : Json} {code : String} :
    RaisesOnly Caught (validateJsonSchema platform schema payload code) :=
  (raising.schemaAccepts _ _).bind fun _ _ => failUnless_raisesOnly

theorem toolBoundary_raisesOnly :
    RaisesOnly Caught
      (toolBoundary platform definition request authorization budget plan) := by
  have limits : RaisesOnly Caught (enforcePlanLimits plan.toolCalls budget) :=
    failUnless_raisesOnly.bind fun _ _ => failUnless_raisesOnly
  refine limits.bind fun _ _ => frozenset_caught.bind fun _ _ => ?_
  exact item_caught.bind fun _ _ => subscript_caught.bind fun _ _ => .ok _

theorem checkToolResult_raisesOnly {toolResult : JsonObject} :
    RaisesOnly Caught (checkToolResult platform toolResult) := by
  refine item_caught.bind fun status _ => ?_
  split
  · split
    · exact .ok ()
    · exact asDict_caught.bind fun _ _ => RaisesOnly.error_iff.mpr rfl
  · exact RaisesOnly.error_iff.mpr rfl

theorem modelRequest_raisesOnly {messages : List JsonObject} :
    RaisesOnly Caught (modelRequest platform definition request budget boundary messages) := by
  unfold modelRequest
  split
  · exact RaisesOnly.error_iff.mpr rfl
  · refine item_caught.bind fun _ _ => item_caught.bind fun _ _ =>
      subscript_caught.bind fun _ _ => ?_
    unfold ModelRequest.ofFields
    split
    · exact RaisesOnly.error_iff.mpr rfl
    · exact construct_raisesOnly rfl

theorem resultIdentity_raisesOnly : RaisesOnly Caught (resultIdentity request) := by
  unfold resultIdentity
  refine item_caught.bind fun _ _ => item_caught.bind fun _ _ => item_caught.bind fun _ _ => ?_
  refine subscript_caught.bind fun _ _ => item_caught.bind fun _ _ => ?_
  exact item_caught.bind fun _ _ => item_caught.bind fun _ _ => .ok _

theorem validate_caught {catalog : CanonicalContractCatalog} {schemaId : String}
    {payload : JsonObject} : RaisesOnly Caught (catalog.validate schemaId payload) := by
  refine CanonicalContractCatalog.validate_raisesOnly.mono fun e isValueError => ?_
  cases e <;> first | rfl | cases isValueError

theorem completedResult_raisesOnly (raising : engine.platform.RaisesExceptions) :
    RaisesOnly Caught
      (engine.completedResult definition request budget response toolResults) := by
  have parsed : RaisesOnly Caught (parseOutput engine.platform response) := by
    unfold parseOutput
    split
    · exact RaisesOnly.error_iff.mpr rfl
    · exact raising.jsonLoads _
  refine failUnless_raisesOnly.bind fun _ _ => parsed.bind fun output _ => ?_
  refine (validateJsonSchema_raisesOnly raising).bind fun _ _ => ?_
  exact (resultIdentity_raisesOnly.bind fun _ _ => .ok _).bind fun _ _ => validate_caught

/-! ## What the body of the run raises -/

theorem toolLoop_propagates {turns : List (ToolCallIntent × ℕ)} :
    Propagates Caught (engine.toolLoop request boundary turns) := by
  induction turns with
  | nil => exact .pure ()
  | cons turn rest ih =>
    have allowed : RaisesOnly Caught (checkIntent boundary turn.1) :=
      failUnless_raisesOnly.bind fun _ _ => failUnless_raisesOnly.bind fun _ _ =>
        failUnless_raisesOnly
    have built : RaisesOnly Caught
        (engine.toolRequest request turn.1.toolId turn.1.arguments turn.2) :=
      item_caught.bind fun _ _ => item_caught.bind fun _ _ => .ok _
    refine (Propagates.compute allowed).bind fun _ => (Propagates.compute built).bind fun _ => ?_
    refine (Propagates.await _).bind fun toolResult => (Propagates.update _).bind fun _ => ?_
    exact (Propagates.compute checkToolResult_raisesOnly).bind fun _ => ih

/-- The body of the `try` raises no cancellation of its own. -/
theorem attempt_propagates (raising : engine.platform.RaisesExceptions) :
    Propagates Caught (engine.attempt definition request authorization) := by
  have input : RaisesOnly Caught (validateInput engine.platform definition request) :=
    item_caught.bind fun _ _ => validateJsonSchema_raisesOnly raising
  refine (Propagates.compute validateAuthorization_raisesOnly).bind fun budget => ?_
  refine (Propagates.compute input).bind fun _ => (Propagates.await _).bind fun plan => ?_
  refine (Propagates.compute toolBoundary_raisesOnly).bind fun boundary => ?_
  refine toolLoop_propagates.bind fun _ => Propagates.read.bind fun toolResults => ?_
  refine (Propagates.compute modelRequest_raisesOnly).bind fun model => ?_
  refine (Propagates.await _).bind fun response => ?_
  exact Propagates.compute (completedResult_raisesOnly raising)

end

/-! ## Results -/

/-- The request carries everything a result copies from it. -/
structure Identified (request : JsonObject) : Prop where
  fields : ∀ key ∈ ["run_id", "root_run_id", "agent_id", "agent_version", "capability_id"],
    ∃ value, request.get? key = some value
  correlated : ∃ (context : JsonObject) (correlationId : Json),
    request.get? "execution_context" = some (.obj context) ∧
      context.get? "correlation_id" = some correlationId

/-- The run returns a result of the canonical schema. -/
def Returns (engine : AgentRuntimeEngine) (r : Except PyException JsonObject) : Prop :=
  ∃ result, r = .ok result ∧
    engine.contracts.validate AGENT_RUN_RESULT_SCHEMA result = .ok result

section

variable {engine : AgentRuntimeEngine} {definition : AgentDefinition}
  {request : JsonObject} {authorization : RuntimeAuthorization} {budget : ExecutionBudget}
  {boundary : ToolBoundary} {toolResults : List JsonObject} {t : AgentTrace}

theorem identified_iff :
    Identified request ↔ ∃ identity, resultIdentity request = .ok identity := by
  simp only [resultIdentity, except_bind_eq_ok, item_eq_ok_iff, subscript_eq_ok_iff]
  refine ⟨?_, ?_⟩
  · intro identified
    obtain ⟨context, correlationId, container, correlated⟩ := identified.correlated
    obtain ⟨runId, run⟩ := identified.fields "run_id" (by decide)
    obtain ⟨rootRunId, root⟩ := identified.fields "root_run_id" (by decide)
    obtain ⟨agentId, agent⟩ := identified.fields "agent_id" (by decide)
    obtain ⟨agentVersion, version⟩ := identified.fields "agent_version" (by decide)
    obtain ⟨capabilityId, capability⟩ := identified.fields "capability_id" (by decide)
    exact ⟨_, _, container, runId, run, rootRunId, root, correlationId,
      ⟨context, rfl, correlated⟩, agentId, agent, agentVersion, version, capabilityId, capability,
      rfl⟩
  · intro built
    obtain ⟨_, _, container, runId, run, rootRunId, root, correlationId,
      ⟨context, rfl, correlated⟩, agentId, agent, agentVersion, version, capabilityId, capability,
      -⟩ := built
    refine ⟨?_, context, correlationId, container, correlated⟩
    simp only [List.forall_mem_cons]
    exact ⟨⟨_, run⟩, ⟨_, root⟩, ⟨_, agent⟩, ⟨_, version⟩, ⟨_, capability⟩, nofun⟩

theorem exists_failureResult (identified : Identified request) (failure : RuntimeFailure) :
    ∃ result, engine.failureResult request failure toolResults = .ok result := by
  obtain ⟨identity, built⟩ := identified_iff.mp identified
  obtain ⟨context, correlationId, container, correlated⟩ := identified.correlated
  simp only [failureResult, except_bind_eq_ok, item_eq_ok_iff, subscript_eq_ok_iff]
  exact ⟨_, identity, built, _, container, correlationId, ⟨context, rfl, correlated⟩, rfl⟩

/-- A course that ends in a result has built it from an identified request. -/
theorem Course.returned {result : JsonObject}
    (course : Course engine definition request authorization t (.ok result) toolResults) :
    Identified request ∧
      engine.contracts.validate AGENT_RUN_RESULT_SCHEMA result = .ok result := by
  generalize ended : Except.ok result = r at course
  cases course with
  | refused | unplanned | overplanned | stopped | unasked | unanswered => cases ended
  | answered =>
    have completed := ended.symm
    simp only [completedResult, successResult, except_bind_eq_ok] at completed
    obtain ⟨_, -, _, -, _, -, built, ⟨identity, identified, -⟩, contract⟩ := completed
    cases CanonicalContractCatalog.eq_of_validate contract
    rw [← ended]
    exact ⟨identified_iff.mpr ⟨identity, identified⟩, contract⟩

/-- So has a run that returns, whether it completed or failed. -/
theorem returned_of_course {outcome : Except PyException JsonObject} {result : JsonObject}
    (course : Course engine definition request authorization t outcome toolResults)
    (returned : engine.conclude request outcome toolResults = .ok result) :
    Identified request ∧
      engine.contracts.validate AGENT_RUN_RESULT_SCHEMA result = .ok result := by
  cases outcome with
  | ok body =>
    cases returned
    exact course.returned
  | error exc =>
    simp only [conclude] at returned
    split at returned
    · simp only [failureResult, except_bind_eq_ok] at returned
      obtain ⟨failed, ⟨identity, identified, -⟩, contract⟩ := returned
      cases CanonicalContractCatalog.eq_of_validate contract
      exact ⟨identified_iff.mpr ⟨identity, identified⟩, contract⟩
    · cases returned

/-! ## Replies that end a run -/

/-- The loop ends with the exception a tool call replied with. -/
theorem LoopRun.raised_of_reply {turns : List (ToolCallIntent × ℕ)} {r : Except PyException Unit}
    {event : AgentEvent} {e : PyException} (loop : LoopRun engine request boundary turns t r)
    (member : event ∈ t) (replied : event.reply = .error e) : r = .error e := by
  induction loop with
  | finished | denied | malformed => cases member
  | raised =>
    cases List.mem_singleton.mp member
    cases replied
    rfl
  | failed =>
    cases List.mem_singleton.mp member
    cases replied
  | next _ _ _ ih =>
    rcases List.mem_cons.mp member with rfl | later
    · cases replied
    · exact ih later

/-- The plan before the loop is no exception either. -/
theorem LoopRun.raised_of_planned {turns : List (ToolCallIntent × ℕ)}
    {r : Except PyException Unit} {plan : ExecutionPlan} {event : AgentEvent} {e : PyException}
    (loop : LoopRun engine request boundary turns t r)
    (member : event ∈ (⟨.plan definition request, .ok plan⟩ : AgentEvent) :: t)
    (replied : event.reply = .error e) : r = .error e := by
  rcases List.mem_cons.mp member with rfl | inLoop
  · cases replied
  · exact loop.raised_of_reply inLoop replied

/-- So does the body of the run. -/
theorem Course.raised_of_reply {outcome : Except PyException JsonObject} {event : AgentEvent}
    {e : PyException}
    (course : Course engine definition request authorization t outcome toolResults)
    (member : event ∈ t) (replied : event.reply = .error e) : outcome = .error e := by
  cases course with
  | refused => cases member
  | unplanned =>
    cases List.mem_singleton.mp member
    cases replied
    rfl
  | overplanned =>
    cases List.mem_singleton.mp member
    cases replied
  | stopped _ loop =>
    cases loop.raised_of_planned member replied
    rfl
  | unasked _ loop => cases loop.raised_of_planned member replied
  | unanswered _ loop =>
    rcases List.mem_append.mp member with inBody | last
    · cases loop.raised_of_planned inBody replied
    · cases List.mem_singleton.mp last
      cases replied
      rfl
  | answered _ loop =>
    rcases List.mem_append.mp member with inBody | last
    · cases loop.raised_of_planned inBody replied
    · cases List.mem_singleton.mp last
      cases replied

end

/-! ## When a run returns -/

/-- The condition under which a run returns a result. -/
structure Returnable (tools : ToolBoundaryContracts) (request : JsonObject) (t : AgentTrace) :
    Prop where
  identified : Identified request
  uncancelled : RepliesOnly Caught t
  toolResults : ∀ toolResult ∈ t.received, tools.validateResult toolResult = .ok ()

/-- The result schema accepts the result of a failed run whose tool results are valid. -/
def AcceptsFailures (engine : AgentRuntimeEngine) (tools : ToolBoundaryContracts) : Prop :=
  ∀ request failure toolResults result,
    engine.failureResult request failure toolResults = .ok result →
      (∀ toolResult ∈ toolResults, tools.validateResult toolResult = .ok ()) →
        engine.contracts.validate AGENT_RUN_RESULT_SCHEMA result = .ok result

/-- The result schema accepts no result that lists an invalid tool result. -/
def ChecksToolResults (engine : AgentRuntimeEngine) (tools : ToolBoundaryContracts) : Prop :=
  ∀ (result : JsonObject) (toolResults : List JsonObject),
    result.get? "tool_results" = some (.arr (toolResults.map Json.obj)) →
      engine.contracts.validate AGENT_RUN_RESULT_SCHEMA result = .ok result →
        ∀ toolResult ∈ toolResults, tools.validateResult toolResult = .ok ()

/-- Whatever the planner, the tool client and the gateway do, a run on an
accepted request returns a result if no await is cancelled and every tool result
it receives is valid; and if the result schema checks the tool results, only then. -/
theorem run_returns_iff {engine : AgentRuntimeEngine} {definition : AgentDefinition}
    {request : JsonObject} {authorization : RuntimeAuthorization} {t : AgentTrace}
    {r : Except PyException JsonObject} {tools : ToolBoundaryContracts}
    (raising : engine.platform.RaisesExceptions) (failures : AcceptsFailures engine tools)
    (accepted : engine.contracts.validate AGENT_RUN_REQUEST_SCHEMA request = .ok request)
    (run : Dialogue.Runs (engine.run definition request authorization) t r) :
    (Returnable tools request t → Returns engine r) ∧
      (ChecksToolResults engine tools → Returns engine r → Returnable tools request t) := by
  unfold AgentRuntimeEngine.run at run
  rw [accepted] at run
  obtain ⟨t₁, t₂, ⟨outcome, toolResults⟩, rfl, body, ended⟩ := Dialogue.Runs.bind_iff.mp run
  obtain ⟨rfl, rfl⟩ := Dialogue.Runs.done_iff.mp ended
  rw [List.append_nil]
  have course := course_of_runs body
  refine ⟨?_, ?_⟩
  · intro returnable
    cases outcome with
    | ok result => exact ⟨result, rfl, course.returned.2⟩
    | error exc =>
      have caught : exc.isException = true :=
        attempt_propagates raising _ _ _ _ body returnable.uncancelled exc rfl
      have reported : ∃ result,
          engine.failureResult request (handled exc) toolResults = .ok result :=
        exists_failureResult returnable.identified (handled exc)
      obtain ⟨result, failed⟩ := reported
      have valid : ∀ toolResult ∈ toolResults, tools.validateResult toolResult = .ok () := by
        rw [course.toolResults_eq]
        exact returnable.toolResults
      have contract := failures _ _ _ _ failed valid
      refine ⟨result, ?_, contract⟩
      simp only [conclude]
      rw [if_pos caught, failed]
      exact contract
  · intro checks returns
    obtain ⟨result, returned, contract⟩ := returns
    refine ⟨(returned_of_course course returned).1, ?_, ?_⟩
    · intro event member e replied
      cases course.raised_of_reply member replied
      simp only [conclude] at returned
      split at returned
      · next caught => exact caught
      · cases returned
    · exact checks result _ (toolResults_of_course course returned) contract

/-- Schemas that ask of a tool result, and of each one a run lists, that it has a status. -/
def statusTools : ToolBoundaryContracts where
  requestError _ := none
  resultError toolResult :=
    if (toolResult.get? "status").isSome then none else some ("status", "is required")

def listsStatus : Json → Bool
  | .obj toolResult => (Dict.get? toolResult "status").isSome
  | _ => false

def statusError (result : JsonObject) : Option (String × String) :=
  match result.get? "tool_results" with
  | some (.arr toolResults) =>
    if toolResults.all listsStatus then none else some ("tool_results", "status is required")
  | _ => some ("tool_results", "is required")

def statusCatalog : CanonicalContractCatalog where
  documents schemaId :=
    some (if schemaId = AGENT_RUN_RESULT_SCHEMA then statusError else fun _ => none)

def statusEngine : AgentRuntimeEngine := { completingEngine with contracts := statusCatalog }

theorem statusEngine_raisesExceptions : statusEngine.platform.RaisesExceptions := by
  refine ⟨fun text => ?_, fun schema payload => .ok true⟩
  change RaisesOnly Caught (if _ then _ else _)
  split
  · exact .ok _
  · exact RaisesOnly.error_iff.mpr rfl

theorem statusEngine_validate_iff {result : JsonObject} {toolResults : List JsonObject}
    (listed : result.get? "tool_results" = some (.arr (toolResults.map Json.obj))) :
    statusEngine.contracts.validate AGENT_RUN_RESULT_SCHEMA result = .ok result ↔
      ∀ toolResult ∈ toolResults, statusTools.validateResult toolResult = .ok () := by
  have checked (toolResult : JsonObject) : statusTools.validateResult toolResult = .ok () ↔
      listsStatus (.obj toolResult) = true := by
    by_cases has : (Dict.get? toolResult "status").isSome = true <;>
      simp [ToolBoundaryContracts.validateResult, ToolBoundaryContracts.check, statusTools,
        listsStatus, has]
  have accepted : statusEngine.contracts.validate AGENT_RUN_RESULT_SCHEMA result = .ok result ↔
      (toolResults.map Json.obj).all listsStatus = true := by
    have document : statusEngine.contracts.documents AGENT_RUN_RESULT_SCHEMA =
        some statusError := rfl
    rw [CanonicalContractCatalog.validate, document]
    dsimp only
    rw [statusError, listed]
    dsimp only
    cases (toolResults.map Json.obj).all listsStatus <;> simp
  rw [accepted, List.all_map, List.all_eq_true]
  exact forall₂_congr fun toolResult _ => (checked toolResult).symm

theorem statusEngine_acceptsFailures : AcceptsFailures statusEngine statusTools :=
  fun _ _ _ _ failed valid =>
    (statusEngine_validate_iff (failureResult_eq_ok failed).2).mpr valid

theorem statusEngine_checksToolResults : ChecksToolResults statusEngine statusTools :=
  fun _ _ listed accepted => (statusEngine_validate_iff listed).mp accepted

/-- A tool client that replies to every request with this dictionary. -/
def toolReply (toolResult : JsonObject) :
    AgentTrace → (call : AgentCall) → Except PyException call.Reply
  | _, .execute _ _ => .ok toolResult
  | past, call =>
    diagnosticReply (diagnosticPlan [diagnosticIntent "diagnostic.echo" echo_idLength]) past call

def toolRun (toolResult : JsonObject) : AgentTrace × Except PyException JsonObject :=
  (statusEngine.run diagnosticDefinition (diagnosticRequest [("max_tokens", .int 200)])
    diagnosticAuthorization).converse (toolReply toolResult) []

theorem toolRun_uncancelled (toolResult : JsonObject) :
    RepliesOnly Caught (toolRun toolResult).1 := by
  intro event member e replied
  obtain ⟨call, reply⟩ := event
  obtain ⟨before, same⟩ := Dialogue.reply_of_mem_converse member
  dsimp only at same replied
  cases call <;> cases same.symm.trans replied

theorem diagnosticRequest_identified (budget : JsonObject) :
    Identified (diagnosticRequest budget) :=
  identified_iff.mpr ⟨_, rfl⟩

/-- The run returns when its tool client replies with a failed result, and does
not when it replies with an empty dictionary. -/
theorem run_returns_iff_diagnostic :
    Returns statusEngine (toolRun [("status", .str "FAILED")]).2 ∧
      ¬ Returns statusEngine (toolRun []).2 := by
  refine ⟨?_, ?_⟩
  · apply (run_returns_iff statusEngine_raisesExceptions statusEngine_acceptsFailures rfl
      (Dialogue.converse_runs _ _ _)).1
    have received : (toolRun [("status", .str "FAILED")]).1.received =
        [[("status", .str "FAILED")]] := by
      decide +kernel
    refine ⟨diagnosticRequest_identified _, toolRun_uncancelled _, ?_⟩
    intro toolResult member
    rw [toolRun] at received
    rw [received] at member
    cases List.mem_singleton.mp member
    rfl
  · intro returns
    have returnable := (run_returns_iff statusEngine_raisesExceptions statusEngine_acceptsFailures
      rfl (Dialogue.converse_runs _ _ _)).2 statusEngine_checksToolResults returns
    have received : (toolRun []).1.received = [[]] := by
      decide +kernel
    have valid := returnable.toolResults [] (by rw [toolRun] at received; rw [received]; decide)
    cases valid

/-- A tool client that replies with an empty dictionary makes the run raise. -/
theorem returns_counterexample :
    ¬ ∀ (engine : AgentRuntimeEngine) (definition : AgentDefinition) (request : JsonObject)
      (authorization : RuntimeAuthorization) (tools : ToolBoundaryContracts) (t : AgentTrace)
      (r : Except PyException JsonObject), engine.platform.RaisesExceptions →
        AcceptsFailures engine tools →
          engine.contracts.validate AGENT_RUN_REQUEST_SCHEMA request = .ok request →
            Identified request → RepliesOnly Caught t →
              Dialogue.Runs (engine.run definition request authorization) t r →
                Returns engine r := by
  intro total
  have returns := total statusEngine _ _ _ statusTools _ (toolRun []).2
    statusEngine_raisesExceptions statusEngine_acceptsFailures rfl
    (diagnosticRequest_identified _) (toolRun_uncancelled []) (Dialogue.converse_runs _ _ _)
  have raised : (toolRun []).2.isOk = false := by
    decide +kernel
  obtain ⟨result, returned, -⟩ := returns
  rw [returned] at raised
  cases raised

end AgentRuntimeEngine

end Genesis

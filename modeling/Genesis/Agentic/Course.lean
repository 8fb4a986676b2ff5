import Genesis.Agentic.Engine

/-!
# The courses a run can take

`LoopRun` and `Course` list every way the tool loop and the body of the `try` of
`AgentRuntimeEngine.run` can go: one rule for each place where they stop, with
the checks passed so far and the trace left behind.  `runs_toolLoop` and
`course_of_runs` show that there is no other, so a property of all runs is a
case analysis over these rules.
-/

namespace Genesis

open Py Session

namespace AgentRuntimeEngine

variable {engine : AgentRuntimeEngine} {definition : AgentDefinition} {request : JsonObject}
  {authorization : RuntimeAuthorization} {boundary : ToolBoundary}
  {turns : List (ToolCallIntent × ℕ)} {t : AgentTrace}

/-! ## The tool loop -/

/-- The loop gets as far as asking for the intent of this turn. -/
structure Asks (engine : AgentRuntimeEngine) (request : JsonObject) (boundary : ToolBoundary)
    (turn : ToolCallIntent × ℕ) (payload : JsonObject) : Prop where
  allowed : checkIntent boundary turn.1 = .ok ()
  payload : engine.toolRequest request turn.1.toolId turn.1.arguments turn.2 = .ok payload

/-- The runs of the tool loop: the turns left, the trace, and how the loop ends. -/
inductive LoopRun (engine : AgentRuntimeEngine) (request : JsonObject)
    (boundary : ToolBoundary) :
    List (ToolCallIntent × ℕ) → AgentTrace → Except PyException Unit → Prop
  | finished : LoopRun engine request boundary [] [] (.ok ())
  | denied {turn : ToolCallIntent × ℕ} {rest : List (ToolCallIntent × ℕ)} {e : PyException} :
    checkIntent boundary turn.1 = .error e →
    LoopRun engine request boundary (turn :: rest) [] (.error e)
  | malformed {turn : ToolCallIntent × ℕ} {rest : List (ToolCallIntent × ℕ)} {e : PyException} :
    engine.toolRequest request turn.1.toolId turn.1.arguments turn.2 = .error e →
    LoopRun engine request boundary (turn :: rest) [] (.error e)
  | raised {turn : ToolCallIntent × ℕ} {rest : List (ToolCallIntent × ℕ)} {payload : JsonObject}
    {e : PyException} :
    Asks engine request boundary turn payload →
    LoopRun engine request boundary (turn :: rest)
      [⟨.execute payload boundary.correlationId, .error e⟩] (.error e)
  | failed {turn : ToolCallIntent × ℕ} {rest : List (ToolCallIntent × ℕ)} {payload : JsonObject}
    {toolResult : JsonObject} {e : PyException} :
    Asks engine request boundary turn payload →
    checkToolResult engine.platform toolResult = .error e →
    LoopRun engine request boundary (turn :: rest)
      [⟨.execute payload boundary.correlationId, .ok toolResult⟩] (.error e)
  | next {turn : ToolCallIntent × ℕ} {rest : List (ToolCallIntent × ℕ)} {payload : JsonObject}
    {toolResult : JsonObject} {t : AgentTrace} {r : Except PyException Unit} :
    Asks engine request boundary turn payload →
    checkToolResult engine.platform toolResult = .ok () →
    LoopRun engine request boundary rest t r →
    LoopRun engine request boundary (turn :: rest)
      (⟨.execute payload boundary.correlationId, .ok toolResult⟩ :: t) r

/-- The loop takes one of its runs and appends what it received to `tool_results`. -/
theorem runs_toolLoop {s s' : List JsonObject} {r : Except PyException Unit}
    (run : Runs (engine.toolLoop request boundary turns) s t r s') :
    LoopRun engine request boundary turns t r ∧ s' = s ++ t.received := by
  induction turns generalizing s t with
  | nil =>
    rcases runs_pure.mp run with ⟨rfl, rfl, rfl⟩
    exact ⟨.finished, (List.append_nil _).symm⟩
  | cons turn rest ih =>
    rcases runs_compute_bind.mp run with ⟨e, denied, rfl, rfl, rfl⟩ | ⟨_, allowed, run⟩
    · exact ⟨.denied denied, (List.append_nil _).symm⟩
    rcases runs_compute_bind.mp run with ⟨e, malformed, rfl, rfl, rfl⟩ | ⟨payload, built, run⟩
    · exact ⟨.malformed malformed, (List.append_nil _).symm⟩
    have asks : Asks engine request boundary turn payload := ⟨allowed, built⟩
    rcases runs_await_bind.mp run with ⟨e, rfl, rfl, rfl⟩ | ⟨toolResult, u, rfl, replied⟩
    · exact ⟨.raised asks, (List.append_nil _).symm⟩
    have checked := runs_update_bind.mp replied
    rcases runs_compute_bind.mp checked with ⟨e, failed, rfl, rfl, rfl⟩ | ⟨_, success, later⟩
    · exact ⟨.failed asks failed, rfl⟩
    rcases ih later with ⟨tail, state⟩
    refine ⟨.next asks success tail, ?_⟩
    rw [state, List.append_assoc]
    rfl

namespace LoopRun

variable {r : Except PyException Unit}

/-- An event of the loop: the tool request of this turn, with any reply. -/
structure Exchange (engine : AgentRuntimeEngine) (request : JsonObject) (boundary : ToolBoundary)
    (turn : ToolCallIntent × ℕ) (event : AgentEvent) : Prop where
  asked : ∃ payload, Asks engine request boundary turn payload ∧
    event.call = .execute payload boundary.correlationId

/-- The loop asks for the turns in order, up to some point. -/
theorem exchanges (loop : LoopRun engine request boundary turns t r) :
    ∃ asked rest, turns = asked ++ rest ∧
      List.Forall₂ (Exchange engine request boundary) asked t := by
  induction loop with
  | finished => exact ⟨[], [], rfl, .nil⟩
  | denied | malformed => exact ⟨[], _, rfl, .nil⟩
  | raised asks | failed asks => exact ⟨[_], _, rfl, .cons ⟨_, asks, rfl⟩ .nil⟩
  | next asks _ _ ih =>
    rcases ih with ⟨asked, rest, split, exchanges⟩
    refine ⟨_ :: asked, rest, ?_, .cons ⟨_, asks, rfl⟩ exchanges⟩
    rw [split]
    rfl

/-- The event is a tool request whose result lets the run go on. -/
structure Answered (engine : AgentRuntimeEngine) (request : JsonObject) (boundary : ToolBoundary)
    (turn : ToolCallIntent × ℕ) (event : AgentEvent) : Prop where
  answered : ∃ payload toolResult, Asks engine request boundary turn payload ∧
    checkToolResult engine.platform toolResult = .ok () ∧
      event = ⟨.execute payload boundary.correlationId, .ok toolResult⟩

/-- A loop that ends normally has asked for every turn, with success. -/
theorem answered (loop : LoopRun engine request boundary turns t (.ok ())) :
    List.Forall₂ (Answered engine request boundary) turns t := by
  generalize ended : (Except.ok () : Except PyException Unit) = r at loop
  induction loop with
  | finished => exact .nil
  | denied | malformed | raised | failed => cases ended
  | next asks success _ ih => exact .cons ⟨_, _, asks, success, rfl⟩ (ih ended)

/-- The loop calls neither the planner nor the model gateway. -/
theorem plans_eq_nil (loop : LoopRun engine request boundary turns t r) : t.plans = [] := by
  induction loop with
  | finished | denied | malformed | raised | failed => rfl
  | next _ _ _ ih => exact ih

theorem completions_eq_nil (loop : LoopRun engine request boundary turns t r) :
    t.completions = [] := by
  induction loop with
  | finished | denied | malformed | raised | failed => rfl
  | next _ _ _ ih => exact ih

/-- The first turn is asked for unless it is denied or its request cannot be built. -/
theorem sent_eq_nil_iff {turn : ToolCallIntent × ℕ} {rest : List (ToolCallIntent × ℕ)}
    (loop : LoopRun engine request boundary (turn :: rest) t r) :
    t.sent = [] ↔ ¬ ∃ payload, Asks engine request boundary turn payload := by
  cases loop with
  | denied denied =>
    refine ⟨fun _ ⟨_, asks⟩ => ?_, fun _ => rfl⟩
    rw [asks.allowed] at denied
    cases denied
  | malformed malformed =>
    refine ⟨fun _ ⟨_, asks⟩ => ?_, fun _ => rfl⟩
    rw [asks.payload] at malformed
    cases malformed
  | raised asks | failed asks | next asks =>
    exact ⟨nofun, fun never => absurd ⟨_, asks⟩ never⟩

end LoopRun

/-! ## The body of the run -/

/-- The checks before the plan have passed. -/
structure Admitted (engine : AgentRuntimeEngine) (definition : AgentDefinition)
    (request : JsonObject) (authorization : RuntimeAuthorization) (budget : ExecutionBudget) :
    Prop where
  authorized : validateAuthorization engine.platform definition request authorization = .ok budget
  input : validateInput engine.platform definition request = .ok ()

/-- The run reaches the tool loop with this plan. -/
structure Prepared (engine : AgentRuntimeEngine) (definition : AgentDefinition)
    (request : JsonObject) (authorization : RuntimeAuthorization) (budget : ExecutionBudget)
    (plan : ExecutionPlan) (boundary : ToolBoundary) : Prop where
  admitted : Admitted engine definition request authorization budget
  boundary :
    toolBoundary engine.platform definition request authorization budget plan = .ok boundary

/-- The courses of the body of the `try`: trace, outcome, `tool_results`. -/
inductive Course (engine : AgentRuntimeEngine) (definition : AgentDefinition)
    (request : JsonObject) (authorization : RuntimeAuthorization) :
    AgentTrace → Except PyException JsonObject → List JsonObject → Prop
  | refused {e : PyException} :
    Course engine definition request authorization [] (.error e) []
  | unplanned {budget : ExecutionBudget} {e : PyException} :
    Admitted engine definition request authorization budget →
    Course engine definition request authorization
      [⟨.plan definition request, .error e⟩] (.error e) []
  | overplanned {budget : ExecutionBudget} {plan : ExecutionPlan} {e : PyException} :
    Admitted engine definition request authorization budget →
    toolBoundary engine.platform definition request authorization budget plan = .error e →
    Course engine definition request authorization
      [⟨.plan definition request, .ok plan⟩] (.error e) []
  | stopped {budget : ExecutionBudget} {plan : ExecutionPlan} {boundary : ToolBoundary}
    {t : AgentTrace} {e : PyException} :
    Prepared engine definition request authorization budget plan boundary →
    LoopRun engine request boundary (plan.toolCalls.zipIdx 1) t (.error e) →
    Course engine definition request authorization
      (⟨.plan definition request, .ok plan⟩ :: t) (.error e) t.received
  | unasked {budget : ExecutionBudget} {plan : ExecutionPlan} {boundary : ToolBoundary}
    {t : AgentTrace} {e : PyException} :
    Prepared engine definition request authorization budget plan boundary →
    LoopRun engine request boundary (plan.toolCalls.zipIdx 1) t (.ok ()) →
    Course engine definition request authorization
      (⟨.plan definition request, .ok plan⟩ :: t) (.error e) t.received
  | unanswered {budget : ExecutionBudget} {plan : ExecutionPlan} {boundary : ToolBoundary}
    {t : AgentTrace} {e : PyException} {model : ModelRequest} :
    Prepared engine definition request authorization budget plan boundary →
    LoopRun engine request boundary (plan.toolCalls.zipIdx 1) t (.ok ()) →
    Course engine definition request authorization
      (⟨.plan definition request, .ok plan⟩ :: t ++ [⟨.complete model, .error e⟩])
      (.error e) t.received
  | answered {budget : ExecutionBudget} {plan : ExecutionPlan} {boundary : ToolBoundary}
    {t : AgentTrace} {model : ModelRequest} {response : ModelResponse} :
    Prepared engine definition request authorization budget plan boundary →
    LoopRun engine request boundary (plan.toolCalls.zipIdx 1) t (.ok ()) →
    modelRequest engine.platform definition request budget boundary
      (modelMessages engine.platform plan t.received) = .ok model →
    Course engine definition request authorization
      (⟨.plan definition request, .ok plan⟩ :: t ++ [⟨.complete model, .ok response⟩])
      (engine.completedResult definition request budget response t.received) t.received

/-- Every run of the body takes one of the courses. -/
theorem course_of_runs {r : Except PyException JsonObject} {toolResults : List JsonObject}
    (run : Runs (engine.attempt definition request authorization) [] t r toolResults) :
    Course engine definition request authorization t r toolResults := by
  rcases runs_compute_bind.mp run with ⟨e, -, rfl, rfl, rfl⟩ | ⟨budget, authorized, body⟩
  · exact .refused
  rcases runs_compute_bind.mp body with ⟨e, -, rfl, rfl, rfl⟩ | ⟨_, input, planning⟩
  · exact .refused
  have admitted : Admitted engine definition request authorization budget := ⟨authorized, input⟩
  rcases runs_await_bind.mp planning with ⟨e, rfl, rfl, rfl⟩ | ⟨plan, u, rfl, planned⟩
  · exact .unplanned admitted
  rcases runs_compute_bind.mp planned with ⟨e, exceeds, rfl, rfl, rfl⟩ | ⟨boundary, within, looping⟩
  · exact .overplanned admitted exceeds
  have prepared : Prepared engine definition request authorization budget plan boundary :=
    ⟨admitted, within⟩
  rcases runs_bind.mp looping with ⟨e, rfl, head⟩ | ⟨_, s, t₁, t₂, rfl, head, looped⟩
  · rcases runs_toolLoop head with ⟨loop, rfl⟩
    exact .stopped prepared loop
  rcases runs_toolLoop head with ⟨loop, rfl⟩
  have reading := runs_read_bind.mp looped
  rcases runs_compute_bind.mp reading with ⟨e, -, rfl, rfl, rfl⟩ | ⟨model, asked, asking⟩
  · rw [List.append_nil]
    exact .unasked prepared loop
  rcases runs_await_bind.mp asking with ⟨e, rfl, rfl, rfl⟩ | ⟨response, t₃, rfl, ending⟩
  · exact .unanswered prepared loop
  rcases runs_compute.mp ending with ⟨rfl, rfl, rfl⟩
  exact .answered prepared loop asked

/-- A run rejects its request without any call, or follows a course and concludes. -/
theorem runs_run {requestPayload : JsonObject} {r : Except PyException JsonObject}
    (run : Dialogue.Runs (engine.run definition requestPayload authorization) t r) :
    (t = [] ∧ ∃ exc, r = .error exc) ∨
      ∃ outcome toolResults,
        Course engine definition requestPayload authorization t outcome toolResults ∧
          r = engine.conclude requestPayload outcome toolResults := by
  unfold AgentRuntimeEngine.run at run
  split at run
  · rcases Dialogue.Runs.done_iff.mp run with ⟨rfl, rfl⟩
    exact .inl ⟨rfl, _, rfl⟩
  · next request valid =>
    cases CanonicalContractCatalog.eq_of_validate valid
    rcases Dialogue.Runs.bind_iff.mp run with ⟨t₁, t₂, ⟨outcome, toolResults⟩, rfl, body, ended⟩
    rcases Dialogue.Runs.done_iff.mp ended with ⟨rfl, rfl⟩
    rw [List.append_nil]
    exact .inr ⟨outcome, toolResults, course_of_runs body, rfl⟩

end AgentRuntimeEngine

end Genesis

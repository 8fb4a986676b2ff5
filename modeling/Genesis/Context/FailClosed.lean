import Genesis.Context.Authority

/-!
# Failing closed

Every guard of `ContextManager.build` fails with a `ContextFailure`.  Two models
are constructed outside the guards: the generated segments, whose content has a
maximal length, and the bundle itself.  `ContextManager.build_failsClosed_iff`
says for which arguments one of them raises instead.
-/

namespace Genesis

open Py ContextSafetyGuard

/-! ## Validation raises value errors -/

/-- The exceptions `build` turns into a failure. -/
abbrev IsValueError (e : PyException) : Prop := e.isValueError = true

section

variable {platform : Platform} {model key : String} {raw : JsonObject}

theorem forbidExtra_raisesOnly {known : List String} :
    RaisesOnly IsValueError (forbidExtra model known raw) := by
  unfold forbidExtra
  split
  · exact .ok ()
  · exact RaisesOnly.error_iff.mpr rfl

theorem strField_raisesOnly : RaisesOnly IsValueError (strField model raw key) := by
  unfold strField
  split
  · exact .ok _
  · exact RaisesOnly.error_iff.mpr rfl

theorem strTupleField_raisesOnly {default : Option (List String)} :
    RaisesOnly IsValueError (strTupleField model raw key default) := by
  unfold strTupleField
  split
  · exact .ok _
  · split
    · exact .ok _
    · exact RaisesOnly.error_iff.mpr rfl
  · exact RaisesOnly.error_iff.mpr rfl

theorem AuthorityContext.modelValidate_raisesOnly :
    RaisesOnly IsValueError (modelValidate raw) := by
  unfold modelValidate
  refine forbidExtra_raisesOnly.bind fun _ _ => ?_
  refine strField_raisesOnly.bind fun _ _ => ?_
  refine strTupleField_raisesOnly.bind fun _ _ => ?_
  refine strField_raisesOnly.bind fun _ _ => ?_
  split
  · exact RaisesOnly.error_iff.mpr rfl
  · exact construct_raisesOnly rfl

theorem ExecutionContextView.modelField_raisesOnly {α : Type}
    {validate : JsonObject → Except PyException α}
    (inner : ∀ fields, RaisesOnly IsValueError (validate fields)) :
    RaisesOnly IsValueError (modelField validate raw key) := by
  unfold modelField
  split
  · exact inner _
  · exact RaisesOnly.error_iff.mpr rfl

theorem ExecutionContextView.modelValidate_raisesOnly :
    RaisesOnly IsValueError (modelValidate platform raw) := by
  unfold modelValidate
  dsimp only
  refine forbidExtra_raisesOnly.bind fun _ _ => ?_
  refine strField_raisesOnly.bind fun _ _ => ?_
  refine strField_raisesOnly.bind fun _ _ => ?_
  refine strField_raisesOnly.bind fun _ _ => ?_
  refine strField_raisesOnly.bind fun _ _ => ?_
  refine (modelField_raisesOnly fun _ => AuthorityContext.modelValidate_raisesOnly).bind
    fun _ _ => ?_
  refine strTupleField_raisesOnly.bind fun _ _ => ?_
  refine strTupleField_raisesOnly.bind fun _ _ => ?_
  refine strTupleField_raisesOnly.bind fun _ _ => ?_
  refine strField_raisesOnly.bind fun _ _ => ?_
  refine strField_raisesOnly.bind fun _ _ => ?_
  refine (modelField_raisesOnly fun _ => ExecutionBudget.modelValidate_raisesOnly rfl).bind
    fun _ _ => ?_
  split
  · exact RaisesOnly.error_iff.mpr rfl
  · exact construct_raisesOnly rfl

end

/-! ## Guards raise structured failures -/

/-- A `ContextFailure` under this correlation id. -/
def Structured (correlationId : String) (e : PyException) : Prop :=
  ∃ failure, e = .contextFailure failure ∧ failure.correlationId = correlationId

section

variable {context : ExecutionContextView} {boundary : BackendContextAuthorization}
  {correlationId : String}

theorem require_raisesOnly {condition : Prop} [Decidable condition] {failure : ContextFailure}
    (same : failure.correlationId = correlationId) :
    RaisesOnly (Structured correlationId) (require condition failure) :=
  raiseUnless_raisesOnly ⟨failure, rfl, same⟩

theorem requireSubset_raisesOnly {kind : String} {requested authorized : List String} :
    RaisesOnly (Structured correlationId)
      (requireSubset kind requested authorized correlationId) := by
  unfold requireSubset
  dsimp only
  split
  · exact .ok ()
  · exact RaisesOnly.error_iff.mpr ⟨_, rfl, rfl⟩

theorem ContextSafetyGuard.validateExecutionContext_raisesOnly :
    RaisesOnly (Structured context.correlationId) (validateExecutionContext context boundary) := by
  unfold validateExecutionContext
  refine (require_raisesOnly rfl).bind fun _ _ => ?_
  refine (require_raisesOnly rfl).bind fun _ _ => ?_
  refine requireSubset_raisesOnly.bind fun _ _ => ?_
  refine requireSubset_raisesOnly.bind fun _ _ => ?_
  refine requireSubset_raisesOnly.bind fun _ _ => ?_
  refine requireSubset_raisesOnly.bind fun _ _ => ?_
  refine (require_raisesOnly rfl).bind fun _ _ => ?_
  exact require_raisesOnly rfl

theorem ContextSafetyGuard.validateEvidence_raisesOnly {item : ContextSegment}
    {evidence : EvidenceReference} :
    RaisesOnly (Structured context.correlationId) (validateEvidence context item evidence) := by
  unfold validateEvidence
  refine (require_raisesOnly rfl).bind fun _ _ => ?_
  refine requireSubset_raisesOnly.bind fun _ _ => ?_
  refine (require_raisesOnly rfl).bind fun _ _ => ?_
  refine (require_raisesOnly rfl).bind fun _ _ => ?_
  refine (require_raisesOnly rfl).bind fun _ _ => ?_
  refine (require_raisesOnly rfl).bind fun _ _ => ?_
  refine (require_raisesOnly rfl).bind fun _ _ => ?_
  exact require_raisesOnly rfl

theorem ContextSafetyGuard.validateEvidence?_raisesOnly {item : ContextSegment} :
    RaisesOnly (Structured context.correlationId) (validateEvidence? context item) := by
  unfold validateEvidence?
  split
  · exact .ok ()
  · exact validateEvidence_raisesOnly

theorem ContextSafetyGuard.validateSegments_raisesOnly {segments : List ContextSegment}
    {activeScopeRefs : List String} :
    RaisesOnly (Structured context.correlationId)
      (validateSegments segments context boundary activeScopeRefs) := by
  refine RaisesOnly.forM fun item _ => ?_
  unfold validateSegment
  refine requireSubset_raisesOnly.bind fun _ _ => ?_
  refine requireSubset_raisesOnly.bind fun _ _ => ?_
  refine requireSubset_raisesOnly.bind fun _ _ => ?_
  refine (require_raisesOnly rfl).bind fun _ _ => ?_
  refine validateEvidence?_raisesOnly.bind fun _ _ => ?_
  refine (require_raisesOnly rfl).bind fun _ _ => ?_
  exact require_raisesOnly rfl

theorem ContextBudgetManager.select_raisesOnly {segments : List ContextSegment}
    {maximumCharacters : ℤ} :
    RaisesOnly (Structured correlationId) (select segments maximumCharacters correlationId) := by
  unfold select
  split
  · exact RaisesOnly.error_iff.mpr ⟨_, rfl, rfl⟩
  · dsimp only
    split
    · exact RaisesOnly.error_iff.mpr ⟨_, rfl, rfl⟩
    · exact .ok _

end

namespace ContextManager

theorem onValueError_raisesOnly {α : Type} {x : Except PyException α}
    {failure : PyException → ContextFailure} {correlationId : String}
    (value : RaisesOnly IsValueError x)
    (same : ∀ exc, (failure exc).correlationId = correlationId) :
    RaisesOnly (Structured correlationId) (onValueError x failure) := by
  cases x with
  | ok a => exact .ok a
  | error exc =>
    have kind := value exc rfl
    rw [onValueError, if_pos kind]
    exact RaisesOnly.error_iff.mpr ⟨_, rfl, same exc⟩

/-- `str(execution_context.get("correlation_id", "corr_unknown"))`. -/
def reportedCorrelationId (manager : ContextManager) (args : BuildArguments) : String :=
  manager.platform.str ((args.executionContext.get? "correlation_id").getD (.str "corr_unknown"))

/-- A build raises only structured failures, under the correlation id it was given. -/
def FailsClosed (manager : ContextManager) (args : BuildArguments) : Prop :=
  RaisesOnly (Structured (manager.reportedCorrelationId args)) (manager.build args)

section

variable {manager : ContextManager} {args : BuildArguments} {context : ExecutionContextView}

theorem executionContextView_raisesOnly :
    RaisesOnly (Structured (manager.reportedCorrelationId args))
      (manager.executionContextView args.executionContext) := by
  refine onValueError_raisesOnly ?_ fun _ => rfl
  exact CanonicalContractCatalog.validate_raisesOnly.bind fun _ _ =>
    ExecutionContextView.modelValidate_raisesOnly

/-- The typed view has the correlation id of the document. -/
theorem reportedCorrelationId_eq
    (view : manager.executionContextView args.executionContext = .ok context) :
    manager.reportedCorrelationId args = context.correlationId := by
  have found := (executionContextView_identifies view).correlationId
  rw [reportedCorrelationId, found]
  rfl

/-! ## Construction outside the guards -/

/-- The guards before the construction of the generated segments pass. -/
structure Guarded (manager : ContextManager) (args : BuildArguments)
    (context : ExecutionContextView) : Prop where
  view : manager.executionContextView args.executionContext = .ok context
  bounds : Bounds context args.authorization
  goal : normalizedGoal args.goal ≠ ""
  scope : args.scope.allRefs ⊆ context.scopeRefs
  tools : fromKeys args.requestedToolIds ⊆ context.allowedToolIds
  segments : ∀ item ∈ args.segments,
    Admits context args.authorization args.scope.allRefs item

/-- The generated segments can be constructed, and the bundle too once the budget
holds the required segments and the canonical schema accepts the projection. -/
structure Constructible (manager : ContextManager) (args : BuildArguments)
    (context : ExecutionContextView) : Prop where
  goal : (normalizedGoal args.goal).length ≤ 200000
  payload : (authorityPayload manager.platform context).length ≤ 200000
  capability : ∀ header selection,
    requiredSegments manager.platform context (normalizedGoal args.goal) = .ok header →
    ContextBudgetManager.select (header ++ args.segments) args.maximumCharacters
      context.correlationId = .ok selection →
    (∃ validated, manager.contracts.validate CONTEXT_BUNDLE_SCHEMA
      (manager.bundleFields args context selection).canonicalContextBundle = .ok validated) →
    IdLength args.capabilityId

/-- What `build` does once its guards have passed. -/
def assemble (manager : ContextManager) (args : BuildArguments) (context : ExecutionContextView) :
    Except PyException RuntimeContextBundle := do
  let header ← requiredSegments manager.platform context (normalizedGoal args.goal)
  let selection ← ContextBudgetManager.select (header ++ args.segments) args.maximumCharacters
    context.correlationId
  let fields := manager.bundleFields args context selection
  let validatedBundle ← onValueError
    (manager.contracts.validate CONTEXT_BUNDLE_SCHEMA fields.canonicalContextBundle)
    fun exc =>
      { code := "CONTEXT_BUNDLE_CONTRACT_INVALID"
        message := "Built ContextBundle does not satisfy the canonical contract."
        correlationId := context.correlationId
        details := [("reason", .str (manager.platform.strOfException exc))] }
  RuntimeContextBundle.ofFields { fields with canonicalContextBundle := validatedBundle }

/-- A build is its guards, and then the assembly. -/
theorem build_eq : manager.build args = (do
    let context ← manager.executionContextView args.executionContext
    validateExecutionContext context args.authorization
    require (normalizedGoal args.goal ≠ "")
      { code := "CONTEXT_GOAL_REQUIRED", message := "Goal is required."
        correlationId := context.correlationId }
    requireSubset "scope" args.scope.allRefs context.scopeRefs context.correlationId
    requireSubset "tool" (fromKeys args.requestedToolIds) context.allowedToolIds
      context.correlationId
    validateSegments args.segments context args.authorization args.scope.allRefs
    manager.assemble args context) := rfl

theorem Guarded.build_eq (guarded : Guarded manager args context) :
    manager.build args = manager.assemble args context := by
  have goal : require (normalizedGoal args.goal ≠ "")
      { code := "CONTEXT_GOAL_REQUIRED", message := "Goal is required.",
        correlationId := context.correlationId } = .ok () :=
    raiseUnless_eq_ok_iff.mpr guarded.goal
  rw [ContextManager.build_eq, guarded.view]
  dsimp only [bind, Except.bind]
  rw [validateExecutionContext_eq_ok_iff.mpr guarded.bounds]
  dsimp only
  rw [goal]
  dsimp only
  rw [requireSubset_eq_ok_iff.mpr guarded.scope]
  dsimp only
  rw [requireSubset_eq_ok_iff.mpr guarded.tools]
  dsimp only
  rw [validateSegments_eq_ok_iff.mpr guarded.segments]

theorem requiredSegments_raisesOnly {platform : Platform} {goal : String} :
    RaisesOnly (fun e => e = .validationError "ContextSegment")
      (requiredSegments platform context goal) :=
  RaisesOnly.mapM fun _ _ => construct_raisesOnly rfl

/-- The generated segments have been constructed, so their texts are not too long. -/
theorem length_of_requiredSegments {platform : Platform} {goal : String}
    {header : List ContextSegment}
    (generated : requiredSegments platform context goal = .ok header) :
    goal.length ≤ 200000 ∧ (authorityPayload platform context).length ≤ 200000 := by
  have texts : ∀ fields ∈ requiredFields platform context goal,
      fields.content.length ≤ 200000 := by
    rw [← requiredSegments_eq_ok_iff.mp generated]
    intro fields member
    obtain ⟨item, -, rfl⟩ := List.mem_map.mp member
    exact item.wellFormed.2.2.1.2
  simp only [requiredFields, List.forall_mem_cons] at texts
  exact ⟨texts.2.2.1, texts.2.1⟩

/-- What the construction of a value of a model raises is no structured failure. -/
theorem not_structured_validationError {correlationId model : String} :
    ¬ Structured correlationId (.validationError model) := by
  intro structured
  obtain ⟨_, impossible, _⟩ := structured
  cases impossible

theorem Constructible.assemble_raisesOnly (nonempty : normalizedGoal args.goal ≠ "")
    (constructible : Constructible manager args context) :
    RaisesOnly (Structured context.correlationId) (manager.assemble args context) := by
  have goal : 1 ≤ (normalizedGoal args.goal).length := one_le_length_iff.mpr nonempty
  obtain ⟨header, generated⟩ :=
    exists_requiredSegments constructible.payload ⟨goal, constructible.goal⟩
  unfold assemble
  rw [generated]
  refine (RaisesOnly.ok header).bind fun _ returned => ?_
  cases returned
  refine ContextBudgetManager.select_raisesOnly.bind fun selection selected => ?_
  refine RaisesOnly.bind
    (onValueError_raisesOnly CanonicalContractCatalog.validate_raisesOnly fun _ => rfl)
    fun validated contract => ?_
  -- the schema has accepted the projection, so the capability id is one
  have accepted := onValueError_eq_ok_iff.mp contract
  have capability := constructible.capability header selection generated selected ⟨_, accepted⟩
  have wellFormed : (manager.bundleFields args context selection).WellFormed :=
    ⟨contextId_length, goal, capability⟩
  rw [RuntimeContextBundle.ofFields, construct, dif_pos wellFormed]
  exact .ok _

/-- An assembly that fails closed has constructed all its models. -/
theorem Constructible.of_raisesOnly
    (only : RaisesOnly (Structured context.correlationId) (manager.assemble args context)) :
    Constructible manager args context := by
  cases generation : requiredSegments manager.platform context (normalizedGoal args.goal) with
  | error e =>
    have raised : manager.assemble args context = .error e := by
      rw [assemble, generation]
      rfl
    have kind := requiredSegments_raisesOnly e generation
    have structured := only e raised
    rw [kind] at structured
    exact absurd structured not_structured_validationError
  | ok header =>
    obtain ⟨goal, payload⟩ := length_of_requiredSegments generation
    refine ⟨goal, payload, ?_⟩
    intro header' selection generated selected contract
    cases Except.ok.inj (generation.symm.trans generated)
    obtain ⟨validated, accepted⟩ := contract
    by_contra short
    have assembled : manager.assemble args context =
        .error (.validationError "RuntimeContextBundle") := by
      have invalid : ¬ BundleFields.WellFormed
          { manager.bundleFields args context selection with
            canonicalContextBundle := validated } := fun wellFormed => short wellFormed.2.2
      rw [assemble, generation]
      dsimp only [bind, Except.bind]
      rw [selected]
      dsimp only
      rw [accepted, onValueError]
      dsimp only
      rw [RuntimeContextBundle.ofFields, construct, dif_neg invalid]
    exact not_structured_validationError (only _ assembled)

end

/-- A build fails closed exactly when, for arguments that pass its guards, the
generated texts have at most the maximal length of a segment and the capability
id has the length of an id. -/
theorem build_failsClosed_iff (manager : ContextManager) (args : BuildArguments) :
    FailsClosed manager args ↔
      ∀ context, Guarded manager args context → Constructible manager args context := by
  refine ⟨?_, ?_⟩
  · intro closed context guarded
    rw [FailsClosed, reportedCorrelationId_eq guarded.view, guarded.build_eq] at closed
    exact .of_raisesOnly closed
  · intro constructible
    rw [FailsClosed, build_eq]
    refine executionContextView_raisesOnly.bind fun context view => ?_
    rw [reportedCorrelationId_eq view]
    refine validateExecutionContext_raisesOnly.bind fun _ bounds => ?_
    refine (require_raisesOnly rfl).bind fun _ goal => ?_
    refine requireSubset_raisesOnly.bind fun _ scope => ?_
    refine requireSubset_raisesOnly.bind fun _ tools => ?_
    refine validateSegments_raisesOnly.bind fun _ segments => ?_
    have nonempty := raiseUnless_eq_ok_iff.mp goal
    have guarded : Guarded manager args context :=
      ⟨view, validateExecutionContext_eq_ok_iff.mp bounds, nonempty,
        requireSubset_eq_ok_iff.mp scope, requireSubset_eq_ok_iff.mp tools,
        validateSegments_eq_ok_iff.mp segments⟩
    exact (constructible context guarded).assemble_raisesOnly nonempty

/-! ## An unstructured failure -/

/-- A goal that is one word of this length. -/
def longGoal (length : ℕ) : String := String.ofList (List.replicate length 'a')

theorem splitChars_replicate (length : ℕ) (word : List Char) (nonempty : word ≠ []) :
    splitChars word (List.replicate length 'a') = [word ++ List.replicate length 'a'] := by
  induction length generalizing word with
  | zero =>
    rw [List.replicate_zero, splitChars, List.isEmpty_eq_false_iff.mpr nonempty, List.append_nil]
    rfl
  | succ length ih =>
    have letter : ¬ isSpace 'a' = true := by decide
    rw [List.replicate_succ, splitChars, if_neg letter, ih _ (by simp), List.append_assoc]
    rfl

theorem normalizedGoal_longGoal (length : ℕ) :
    normalizedGoal (longGoal (length + 1)) = longGoal (length + 1) := by
  have letter : ¬ isSpace 'a' = true := by decide
  have words : split (longGoal (length + 1)) = [longGoal (length + 1)] := by
    rw [split, longGoal, String.toList_ofList, List.replicate_succ, splitChars, if_neg letter,
      splitChars_replicate _ _ (by simp)]
    rfl
  rw [normalizedGoal, words, join, List.map_singleton, List.intercalate_singleton,
    String.ofList_toList]

/-- A goal of 200001 characters passes every guard, and the build raises the
`ValidationError` of the segment it generates from it. -/
theorem failsClosed_counterexample :
    ¬ ∀ (manager : ContextManager) (args : BuildArguments), FailsClosed manager args := by
  intro closed
  have long := closed contextManager
    { contextArguments [] with goal := longGoal (200000 + 1) }
  have length : (normalizedGoal (longGoal (200000 + 1))).length = 200001 := by
    rw [normalizedGoal_longGoal, longGoal, String.length_ofList, List.length_replicate]
  have nonempty : normalizedGoal (longGoal (200000 + 1)) ≠ "" := by
    rw [← one_le_length_iff, length]
    omega
  have guarded : Guarded contextManager
      { contextArguments [] with goal := longGoal (200000 + 1) } contextView :=
    { view := by rfl
      bounds := validateExecutionContext_eq_ok_iff.mp (by decide +kernel)
      goal := nonempty
      scope := by decide
      tools := by decide
      segments := List.forall_mem_nil _ }
  rw [FailsClosed, reportedCorrelationId_eq guarded.view, guarded.build_eq] at long
  have goal := (Constructible.of_raisesOnly long).goal
  have excess : (normalizedGoal (longGoal (200000 + 1))).length ≤ 200000 := goal
  omega

end ContextManager

end Genesis

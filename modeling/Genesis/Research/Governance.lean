import Genesis.Research.Isolation

/-!
# What governs a research run

The backend governs a run through its execution context: the correlation id the
run is traced by and the budget it may spend.  The engine takes the correlation
id from the request and builds a budget of its own.

- `research_oneCorrelation_iff`: the ids of a run agree exactly when the request
  repeats the id of its execution context.
- `research_containedBudget_iff`: the model call is within the issued budget
  exactly when the budget limits tokens and steps only, and its token limit is an
  `int` or too high to matter.
-/

namespace Genesis

open Py Session

namespace ResearchEngine

/-- The id is the correlation id of the context, the bundle, the result, its evidence
bundle and the model request. -/
structure OneCorrelation (executionContext bundle result : JsonObject) (model : ModelRequest)
    (id : String) : Prop where
  inContext : executionContext.get? "correlation_id" = some (.str id)
  inBundle : bundle.get? "correlation_id" = some (.str id)
  inResult : result.get? "correlation_id" = some (.str id)
  inEvidenceBundle :
    field? ((result.get? "evidence_bundle").getD .null) "correlation_id" = some (.str id)
  sent : model.correlationId = id

/-- The budget of the request is contained in the issued one, and so are its tokens. -/
structure ContainedBudget (budget : ExecutionBudget) (model : ModelRequest) : Prop where
  contains : budget.contains model.budget = true
  tokens : ∀ maximum ∈ budget.maxTokens, model.requestedMaxTokens ≤ maximum

/-- The limits of the budget are among those the engine sets. -/
def LimitsTokensAndSteps (budget : ExecutionBudget) : Prop :=
  ∀ field, (budget.value field).isSome → field = .maxTokens ∨ field = .maxSteps

/-- `isinstance(raw.get("max_tokens"), int)`. -/
def IntLimit (raw : JsonObject) : Prop :=
  (∃ n, raw.get? "max_tokens" = some (.int n)) ∨ ∃ b, raw.get? "max_tokens" = some (.bool b)

section

variable {engine : ResearchEngine} {platform : Platform}
  {payload request executionContext bundle raw result : JsonObject} {t : ResearchTrace}
  {evidence : Dict Json} {model : ModelRequest} {budget : ExecutionBudget}

/-- What the engine puts into the model request. -/
theorem governance_of_modelRequest
    (built : modelRequest platform request executionContext bundle = .ok model) :
    (∃ correlationId, request.get? "correlation_id" = some correlationId ∧
      model.correlationId = platform.str correlationId) ∧
    model.requestedMaxTokens = (maxTokens executionContext).toNat ∧
    model.budget.toExecutionBudgetFields =
      { maxTokens := some (maxTokens executionContext).toNat, maxSteps := some 1 } := by
  simp only [modelRequest, except_bind_eq_ok, item_eq_ok_iff, ExecutionBudget.ofFields_eq_ok_iff,
    ModelRequest.ofFields_eq_ok_iff] at built
  obtain ⟨_, -, _, -, correlationId, correlated, _, -, own, limits, _, -, fields⟩ := built
  rw [fields]
  exact ⟨⟨correlationId, correlated, rfl⟩, rfl, limits⟩

/-! ## The correlation id -/

/-- Only a text is equal to a text. -/
theorem eq_str_of_pyEq {value : Json} {text : String} (same : value.pyEq (.str text) = true) :
    value = .str text := by
  cases value with
  | str s =>
    rw [Json.pyEq] at same
    rw [eq_of_beq same]
  | _ => simp [Json.pyEq, Json.number?] at same

/-- A result has the correlation id of the request, at both of its places. -/
theorem correlation_of_conclude {response : ModelResponse}
    (concluded : engine.conclude payload executionContext evidence response = .ok result) :
    result.get? "correlation_id" = payload.get? "correlation_id" ∧
      field? ((result.get? "evidence_bundle").getD .null) "correlation_id" =
        payload.get? "correlation_id" := by
  obtain ⟨draft, findings, recommendations, -, -, -, built⟩ := conclude_eq_ok concluded
  simp only [resultDocument, except_bind_eq_ok, item_eq_ok_iff] at built
  obtain ⟨_, -, _, -, _, -, _, -, _, -, correlationId, correlated, same⟩ := built
  cases same
  rw [correlated]
  exact ⟨rfl, rfl⟩

end

/-- The ids a run is correlated by are one id exactly when the request and its execution
context have the same one. -/
theorem research_oneCorrelation_iff {engine : ResearchEngine}
    {payload executionContext bundle result : JsonObject} {t : ResearchTrace}
    {model : ModelRequest} (run : Runs (engine.research payload) () t (.ok result) ())
    (context : payload.get? "execution_context" = some (.obj executionContext))
    (supplied : Supplied payload t.retrieved bundle) (asked : model ∈ t.completions) :
    (∃ id, OneCorrelation executionContext bundle result model id) ↔
      ∃ id, payload.get? "correlation_id" = some (.str id) ∧
        executionContext.get? "correlation_id" = some (.str id) := by
  obtain ⟨before, executionContext', bundle', model', evidence, response, prepared, rfl,
    concluded⟩ := runs_research_ok run
  cases context.symm.trans (executionContext_eq_ok prepared.context)
  obtain rfl := prepared.supplied_iff.mp supplied
  rw [prepared.completions_eq] at asked
  cases List.mem_singleton.mp asked
  obtain ⟨inResult, inEvidence⟩ := correlation_of_conclude concluded
  refine ⟨?_, ?_⟩
  · intro h
    rcases h with ⟨id, one⟩
    exact ⟨id, inResult.symm.trans one.inResult, one.inContext⟩
  · intro h
    rcases h with ⟨id, own, inContext⟩
    obtain ⟨-, -, built⟩ := prepare_eq_ok prepared.prepared
    obtain ⟨⟨correlationId, correlated, sent⟩, -, -⟩ := governance_of_modelRequest built
    cases correlated.symm.trans own
    obtain ⟨actual, inBundle, expected, compared, same⟩ :=
      validateContextIdentity_eq_ok_iff.mp (identity_of_prepare prepared.prepared)
        "correlation_id" (by decide)
    cases compared.symm.trans inContext
    cases eq_str_of_pyEq same
    exact ⟨id, inContext, inBundle, inResult.trans own, inEvidence.trans own, sent⟩

def governedContext (budget : JsonObject) : JsonObject :=
  policyContext.set "execution_budget" (.obj budget)

/-- A request of the example with this correlation id of its own and this budget. -/
def governedRequest (correlationId : String) (budget : JsonObject) : JsonObject :=
  ((policyRequest (policyBundle "tenant_research_001" "INTERNAL")).set "correlation_id"
    (.str correlationId)).set "execution_context" (.obj (governedContext budget))

/-- The run of this request. -/
def governedTrace (correlationId : String) (budget : JsonObject) : ResearchTrace :=
  (answeredRun policyEngine (governedRequest correlationId budget)).1

def governedResult (correlationId : String) (budget : JsonObject) : JsonObject :=
  answeredResult policyEngine (governedRequest correlationId budget)

theorem runs_governed {correlationId : String} {budget : JsonObject}
    (returned : (answeredRun policyEngine (governedRequest correlationId budget)).2.1 =
      .ok (governedResult correlationId budget)) :
    Runs (policyEngine.research (governedRequest correlationId budget)) ()
      (governedTrace correlationId budget) (.ok (governedResult correlationId budget)) () :=
  runs_answeredRun returned

def tokenLimit : JsonObject := [("max_tokens", .int 1000), ("max_steps", .int 2)]

theorem runs_tokenLimit :
    Runs (policyEngine.research (governedRequest "corr_research_001" tokenLimit)) ()
      (governedTrace "corr_research_001" tokenLimit)
      (.ok (governedResult "corr_research_001" tokenLimit)) () :=
  runs_governed (by decide +kernel)

theorem research_oneCorrelation_governed :
    ∃ model ∈ (governedTrace "corr_research_001" tokenLimit).completions,
      ∃ id, OneCorrelation (governedContext tokenLimit)
        (policyBundle "tenant_research_001" "INTERNAL")
        (governedResult "corr_research_001" tokenLimit) model id := by
  obtain ⟨model, asked⟩ := exists_completion runs_tokenLimit
  refine ⟨model, asked, ?_⟩
  exact (research_oneCorrelation_iff runs_tokenLimit rfl (.inl rfl) asked).mpr
    ⟨"corr_research_001", rfl, rfl⟩

/-- The result of a request with an id of its own is not correlated with its context. -/
theorem oneCorrelation_counterexample :
    ¬ ∀ (engine : ResearchEngine) (payload executionContext bundle result : JsonObject)
      (t : ResearchTrace) (model : ModelRequest),
      Runs (engine.research payload) () t (.ok result) () →
        payload.get? "execution_context" = some (.obj executionContext) →
          Supplied payload t.retrieved bundle → model ∈ t.completions →
            ∃ id, OneCorrelation executionContext bundle result model id := by
  intro correlates
  have returned :
      (answeredRun policyEngine (governedRequest "corr_other_002" tokenLimit)).2.1 =
        .ok (governedResult "corr_other_002" tokenLimit) := by
    decide +kernel
  obtain ⟨model, asked⟩ := exists_completion (runs_governed returned)
  obtain ⟨id, one⟩ := correlates _ _ (governedContext tokenLimit)
    (policyBundle "tenant_research_001" "INTERNAL") _ _ model (runs_governed returned) rfl
    (.inl rfl) asked
  have own : (governedResult "corr_other_002" tokenLimit).get?
      "correlation_id" = some (.str "corr_other_002") := by
    decide +kernel
  have same : Json.str "corr_research_001" = .str "corr_other_002" :=
    Option.some.inj (one.inContext.trans (one.inResult.symm.trans own))
  exact absurd same (by decide)

/-! ## The budget -/

section

variable {platform : Platform} {executionContext raw : JsonObject} {budget : ExecutionBudget}

/-- The tokens the engine asks for respect a token limit exactly when the engine reads it
as an `int`, or the limit is no lower than its own. -/
theorem maxTokens_le_iff {maximum : ℕ}
    (budgeted : executionContext.get? "execution_budget" = some (.obj raw))
    (valid : ExecutionBudget.modelValidate platform raw = .ok budget)
    (limited : maximum ∈ budget.maxTokens) :
    (maxTokens executionContext).toNat ≤ maximum ↔ (maximum < 2000 → IntLimit raw) := by
  have read := ExecutionBudget.maxTokens_of_modelValidate valid
  rw [limited] at read
  obtain ⟨value, present, lax⟩ := ExecutionBudget.exists_of_natField read
  have document : (Json.obj raw).dict? = some raw := rfl
  cases value with
  | int n =>
    have same : n = (maximum : ℤ) := Option.some.inj lax
    simp [maxTokens, IntLimit, budgeted, document, present, same]
  | bool b =>
    have same : (if b then 1 else 0) = (maximum : ℤ) := Option.some.inj lax
    simp [maxTokens, IntLimit, budgeted, document, present, same]
  | null => cases lax
  | _ => simp [maxTokens, IntLimit, budgeted, document, present]

/-- The engine sets a limit on tokens and on steps, and no other. -/
theorem values_of_fields {model : ModelRequest} {maximum : ℕ}
    (fields : model.budget.toExecutionBudgetFields =
      { maxTokens := some maximum, maxSteps := some 1 }) :
    model.budget.value .maxTokens = some (maximum : ℚ) ∧ model.budget.value .maxSteps = some 1 ∧
      ∀ field, field ≠ .maxTokens → field ≠ .maxSteps → model.budget.value field = none := by
  rw [fields]
  refine ⟨rfl, congrArg some Nat.cast_one, ?_⟩
  intro field notTokens notSteps
  cases field with
  | maxTokens => exact absurd rfl notTokens
  | maxSteps => exact absurd rfl notSteps
  | _ => rfl

/-- So another budget contains that of the request if it has no other limit either, and
leaves room for the tokens. -/
theorem contains_iff_of_fields {model : ModelRequest} {maximum : ℕ}
    (fields : model.budget.toExecutionBudgetFields =
      { maxTokens := some maximum, maxSteps := some 1 }) :
    budget.contains model.budget = true ↔
      LimitsTokensAndSteps budget ∧ ∀ limit ∈ budget.maxTokens, maximum ≤ limit := by
  obtain ⟨sentTokens, sentSteps, unlimited⟩ := values_of_fields fields
  rw [ExecutionBudget.contains, List.all_eq_true]
  refine ⟨?_, ?_⟩
  · intro within
    refine ⟨?_, ?_⟩
    · intro field set
      by_contra other
      obtain ⟨notTokens, notSteps⟩ := not_or.mp other
      obtain ⟨limit, value⟩ := Option.isSome_iff_exists.mp set
      have held := within field field.mem_all
      rw [unlimited field notTokens notSteps, value] at held
      cases held
    · intro limit set
      have value : budget.value .maxTokens = some (limit : ℚ) := Option.mem_map_of_mem _ set
      have held := within .maxTokens (BudgetField.mem_all _)
      rw [sentTokens, value] at held
      exact_mod_cast of_decide_eq_true held
  · intro h field _
    rcases h with ⟨only, tokens⟩
    cases value : budget.value field with
    | none => rfl
    | some limit =>
      rcases only field (by rw [value]; rfl) with rfl | rfl
      · obtain ⟨n, set, rfl⟩ := Option.map_eq_some_iff.mp value
        rw [sentTokens]
        have le := tokens n set
        exact decide_eq_true (by exact_mod_cast le)
      · obtain ⟨n, set, rfl⟩ := Option.map_eq_some_iff.mp value
        rw [sentSteps]
        have le := ExecutionBudget.one_le_of_mem_maxSteps set
        exact decide_eq_true (by exact_mod_cast le)

end

/-- The model call of a run is within the budget the backend has issued exactly when the
budget limits nothing but tokens and steps, and a token limit below the engine's own is
written as an `int`. -/
theorem research_containedBudget_iff {engine : ResearchEngine}
    {payload executionContext raw : JsonObject} {t : ResearchTrace}
    {r : Except PyException JsonObject} {model : ModelRequest} {budget : ExecutionBudget}
    (run : Runs (engine.research payload) () t r ())
    (context : payload.get? "execution_context" = some (.obj executionContext))
    (budgeted : executionContext.get? "execution_budget" = some (.obj raw))
    (valid : ExecutionBudget.modelValidate engine.platform raw = .ok budget)
    (asked : model ∈ t.completions) :
    ContainedBudget budget model ↔ LimitsTokensAndSteps budget ∧
      ∀ maximum ∈ budget.maxTokens, maximum < 2000 → IntLimit raw := by
  rcases runs_research run with ⟨silent, -⟩ |
    ⟨before, executionContext', bundle, model', evidence, reply, prepared, rfl, -⟩
  · rw [silent] at asked
    cases asked
  cases context.symm.trans (executionContext_eq_ok prepared.context)
  rw [prepared.completions_eq] at asked
  cases List.mem_singleton.mp asked
  obtain ⟨-, -, built⟩ := prepare_eq_ok prepared.prepared
  obtain ⟨-, requested, fields⟩ := governance_of_modelRequest built
  have tokens_iff : (∀ limit ∈ budget.maxTokens, (maxTokens executionContext).toNat ≤ limit) ↔
      ∀ limit ∈ budget.maxTokens, limit < 2000 → IntLimit raw :=
    forall₂_congr fun _ limited => maxTokens_le_iff budgeted valid limited
  have contained : budget.contains model.budget = true ↔ LimitsTokensAndSteps budget ∧
      ∀ limit ∈ budget.maxTokens, (maxTokens executionContext).toNat ≤ limit :=
    contains_iff_of_fields fields
  rw [← tokens_iff]
  refine ⟨?_, ?_⟩
  · intro contains
    exact contained.mp contains.contains
  · intro within
    refine ⟨contained.mpr within, ?_⟩
    rw [requested]
    exact within.2

/-- `tokenLimit`, validated. -/
def tokenBudget : ExecutionBudget :=
  ⟨{ maxTokens := some 1000, maxSteps := some 2 }, by decide +kernel⟩

theorem research_containedBudget_governed :
    ∃ model ∈ (governedTrace "corr_research_001" tokenLimit).completions,
      ContainedBudget tokenBudget model := by
  obtain ⟨model, asked⟩ := exists_completion runs_tokenLimit
  refine ⟨model, asked, ?_⟩
  have budgeted : (governedContext tokenLimit).get? "execution_budget" = some (.obj tokenLimit) :=
    rfl
  have valid :
      ExecutionBudget.modelValidate policyEngine.platform tokenLimit = .ok tokenBudget := by
    decide +kernel
  apply (research_containedBudget_iff runs_tokenLimit rfl budgeted valid asked).mpr
  refine ⟨?_, ?_⟩
  · intro field set
    cases field with
    | maxTokens => exact .inl rfl
    | maxSteps => exact .inr rfl
    | _ => cases set
  · intro maximum _ _
    exact .inl ⟨1000, rfl⟩

/-- A limit on tokens and on cost. -/
def costLimit : JsonObject := [("max_tokens", .int 1000), ("max_cost", .int 5)]

/-- `costLimit`, validated. -/
def costBudget : ExecutionBudget :=
  ⟨{ maxTokens := some 1000, maxCost := some 5 }, by decide +kernel⟩

/-- The model request of a run with a cost limit has none. -/
theorem containedBudget_counterexample :
    ¬ ∀ (engine : ResearchEngine) (payload executionContext raw : JsonObject) (t : ResearchTrace)
      (r : Except PyException JsonObject) (model : ModelRequest) (budget : ExecutionBudget),
      Runs (engine.research payload) () t r () →
        payload.get? "execution_context" = some (.obj executionContext) →
          executionContext.get? "execution_budget" = some (.obj raw) →
            ExecutionBudget.modelValidate engine.platform raw = .ok budget →
              model ∈ t.completions → ContainedBudget budget model := by
  intro contained
  have returned :
      (answeredRun policyEngine (governedRequest "corr_research_001" costLimit)).2.1 =
        .ok (governedResult "corr_research_001" costLimit) := by
    decide +kernel
  obtain ⟨model, asked⟩ := exists_completion (runs_governed returned)
  have within := contained _ _ (governedContext costLimit) costLimit _ _ model costBudget
    (runs_governed returned) rfl rfl (by decide +kernel) asked
  have unlimited : ∀ asked ∈ (governedTrace "corr_research_001" costLimit).completions,
      asked.budget.maxCost = none := by
    decide +kernel
  have uncosted : model.budget.value .maxCost = none := unlimited model asked
  have held := List.all_eq_true.mp within.contains .maxCost (BudgetField.mem_all _)
  rw [uncosted] at held
  cases held

end ResearchEngine

end Genesis

import Genesis.Research.Isolation

/-!
# Disclosure to the provider

`ResearchEngine` deployed with a `GovernedModelGateway`.  The gateway compares the
classification of a model request with its policy, and a research request has the
label of its execution context, whatever the bundle in its prompt contains.  So
the ceiling of the policy holds for a bundle exactly when the label dominates
what the bundle contains.
-/

namespace Genesis

open Py Session

/-! ## The deployment -/

/-- The calls of a research engine behind a governed gateway. -/
inductive DeployedCall : Type
  | retrieve (runId query : String) (executionContext : JsonObject)
  | invoke (call : ProviderCall)

abbrev DeployedCall.Reply : DeployedCall → Type
  | .retrieve _ _ _ => Json
  | .invoke _ => ModelResponse

abbrev DeployedEvent : Type :=
  Dialogue.Event DeployedCall fun call => Except PyException call.Reply

abbrev DeployedTrace : Type := List DeployedEvent

def DeployedEvent.retrieved? : DeployedEvent → Option Json
  | ⟨.retrieve _ _ _, .ok context⟩ => some context
  | _ => none

def DeployedEvent.invocation? : DeployedEvent → Option ProviderCall
  | ⟨.invoke call, _⟩ => some call
  | _ => none

namespace DeployedTrace

def retrieved (u : DeployedTrace) : List Json := u.filterMap DeployedEvent.retrieved?

/-- The invocations of a provider adapter. -/
def invocations (u : DeployedTrace) : List ProviderCall := u.filterMap DeployedEvent.invocation?

variable {u v : DeployedTrace}

theorem invocations_append : invocations (u ++ v) = invocations u ++ invocations v :=
  List.filterMap_append

end DeployedTrace

/-- `adapter.complete` as a call of the deployment. -/
def invokeProvider (call : ProviderCall) :
    Dialogue DeployedCall (fun call => Except PyException call.Reply)
      (Except PyException ModelResponse) :=
  .question (DeployedCall.invoke call)

theorem runs_invokeProvider {call : ProviderCall} {u : DeployedTrace}
    {r : Except PyException ModelResponse} :
    Dialogue.Runs (invokeProvider call) u r ↔ u = [⟨.invoke call, r⟩] :=
  Dialogue.Runs.question_iff

/-- The provider of the context is asked as it is, the model through the gateway. -/
def GovernedModelGateway.serve (gateway : GovernedModelGateway) : (call : ResearchCall) →
    Dialogue DeployedCall (fun call => Except PyException call.Reply)
      (Except PyException call.Reply)
  | .retrieve runId query executionContext =>
    .question (DeployedCall.retrieve runId query executionContext)
  | .complete request => (gateway.complete request).handle invokeProvider

namespace ResearchEngine

/-- `research`, its model calls answered by the gateway. -/
def deployed (engine : ResearchEngine) (gateway : GovernedModelGateway) (payload : JsonObject) :
    Dialogue DeployedCall (fun call => Except PyException call.Reply)
      (Except PyException JsonObject × Unit) :=
  ((engine.research payload).run.run ()).handle gateway.serve

/-! ## Labels -/

/-- What a bundle contains: its items and its evidence references. -/
def contents (bundle : JsonObject) : List Json :=
  listField (.obj bundle) "items" ++ listField (.obj bundle) "evidence_refs"

/-- The document has a classification, and it ranks at most at the ceiling. -/
def ClassifiedWithin (ceiling : DataClassification) (document : Json) : Prop :=
  ∃ c : DataClassification, field? document "data_classification" = some (.str c.value) ∧
    c.rank ≤ ceiling.rank

theorem ClassifiedWithin.trans {low high : DataClassification} {document : Json}
    (within : ClassifiedWithin low document) (le : low.rank ≤ high.rank) :
    ClassifiedWithin high document := by
  rcases within with ⟨c, classified, rank⟩
  exact ⟨c, classified, rank.trans le⟩

/-- The label of the execution context of a request. -/
def Declares (payload : JsonObject) (declared : DataClassification) : Prop :=
  ∃ executionContext : JsonObject, payload.get? "execution_context" = some (.obj executionContext) ∧
    executionContext.get? "data_classification" = some (.str declared.value)

theorem Declares.unique {payload : JsonObject} {one two : DataClassification}
    (first : Declares payload one) (second : Declares payload two) : one = two := by
  obtain ⟨context, present, label⟩ := first
  obtain ⟨context', present', label'⟩ := second
  cases present.symm.trans present'
  have values := Json.str.inj (Option.some.inj (label.symm.trans label'))
  have parsed := DataClassification.ofValue?_value one
  rw [values, DataClassification.ofValue?_value] at parsed
  exact (Option.some.inj parsed).symm

/-- The engine accepts the bundle: some run asks the gateway about it. -/
def Accepts (engine : ResearchEngine) (payload bundle : JsonObject) : Prop :=
  ∃ (t : ResearchTrace) (r : Except PyException JsonObject),
    Runs (engine.research payload) () t r () ∧ t.completions ≠ [] ∧
      Supplied payload t.retrieved bundle

section

variable {engine : ResearchEngine} {gateway : GovernedModelGateway}
  {payload bundle executionContext : JsonObject} {t : ResearchTrace} {u : DeployedTrace}
  {context : Json} {evidence : Dict Json} {model : ModelRequest}

/-! ## Served conversations -/

/-- The gateway refuses a request, or invokes the provider of the route once. -/
theorem runs_serve_complete {r : Except PyException ModelResponse} :
    Dialogue.Runs (gateway.serve (.complete model)) u r ↔
      (∃ e, gateway.selectRoute model = .error e ∧ u = [] ∧ r = .error e) ∨
        ∃ routeId, gateway.selectRoute model = .ok routeId ∧
          u = [⟨.invoke ⟨model, routeId⟩, r⟩] := by
  rw [GovernedModelGateway.serve, GovernedModelGateway.runs_handle_complete]
  simp only [runs_invokeProvider]

/-- The deployment retrieves what the engine retrieves, and invokes the provider
with requests the engine asked to complete and the gateway admits. -/
theorem serves_trace (serves : Dialogue.Serves gateway.serve t u) :
    u.retrieved = t.retrieved ∧ ∀ call ∈ u.invocations, call.request ∈ t.completions ∧
      gateway.selectRoute call.request = .ok call.routeId := by
  induction serves with
  | nil => exact ⟨rfl, fun _ none => absurd none List.not_mem_nil⟩
  | @cons i r t u v served _ ih =>
    cases i with
    | retrieve runId query executionContext =>
      cases Dialogue.Runs.question_iff.mp served
      refine ⟨?_, ih.2⟩
      cases r with
      | error e => exact ih.1
      | ok context => exact congrArg (context :: ·) ih.1
    | complete request =>
      rcases runs_serve_complete.mp served with ⟨e, -, rfl, rfl⟩ | ⟨routeId, admitted, rfl⟩
      · refine ⟨ih.1, ?_⟩
        intro call invoked
        have earlier := ih.2 call invoked
        exact ⟨List.mem_cons_of_mem _ earlier.1, earlier.2⟩
      · refine ⟨ih.1, ?_⟩
        intro call invoked
        rcases List.mem_cons.mp invoked with rfl | later
        · exact ⟨List.mem_cons_self, admitted⟩
        · have earlier := ih.2 call later
          exact ⟨List.mem_cons_of_mem _ earlier.1, earlier.2⟩

/-- Every invocation of a deployed run is about the bundle supplied to the run,
under the label of its execution context. -/
theorem invocation_of_runs {outcome : Except PyException JsonObject × Unit}
    (run : Dialogue.Runs (engine.deployed gateway payload) u outcome)
    (supplied : Supplied payload u.retrieved bundle) {call : ProviderCall}
    (invoked : call ∈ u.invocations) :
    Renders engine.platform payload bundle call.request ∧
      Declares payload call.request.dataClassification ∧
      gateway.selectRoute call.request = .ok call.routeId := by
  obtain ⟨t, outer, serves⟩ := Dialogue.Runs.of_handle run
  obtain ⟨retrieved, invocations⟩ := serves_trace serves
  obtain ⟨completed, admitted⟩ := invocations call invoked
  rcases runs_research outer with ⟨silent, -⟩ |
    ⟨before, executionContext, bundle', model, evidence, reply, prepared, rfl, -⟩
  · rw [silent] at completed
    cases completed
  rw [retrieved] at supplied
  obtain rfl := prepared.supplied_iff.mp supplied
  have request : call.request = model := by
    have same := prepared.acquired.completions_eq_nil
    rw [ResearchTrace.completions] at same completed
    rw [List.filterMap_append, same] at completed
    exact List.mem_singleton.mp completed
  obtain ⟨label, -, renders⟩ := modelRequest_eq_ok (prepare_eq_ok prepared.prepared).2.2
  rw [request]
  rw [request] at admitted
  exact ⟨renders, ⟨_, executionContext_eq_ok prepared.context, label⟩, admitted⟩

/-- A gateway whose ceiling is the label of the request, with a route for its policy. -/
def labelGateway (model : ModelRequest) : GovernedModelGateway where
  policy :=
    { allowed := [model.policyRef], maximumDataClassification := model.dataClassification }
  budgetGuard := ExecutionBudgetGuard.validate
  router := StaticModelRouter.route
    { routes := ["route"], policyRoutes := [(model.policyRef, "route")] }

theorem selectRoute_labelGateway (within : model.budget.maxTokens = some model.requestedMaxTokens) :
    (labelGateway model).selectRoute model = .ok "route" := by
  simp only [GovernedModelGateway.selectRoute, labelGateway, check_bind_eq_ok,
    StaticModelPolicy.authorize_eq_ok_iff, ExecutionBudgetGuard.validate_eq_ok_iff]
  refine ⟨⟨List.mem_singleton_self _, le_rfl⟩, fun maximum set => ?_, ?_⟩
  · rw [within] at set
    exact le_of_eq (Option.some.inj set)
  · simp [StaticModelRouter.route, Dict.get?]

/-- The calls that acquire a context are served whatever the gateway is. -/
theorem Acquired.serves (acquired : Acquired engine payload executionContext t context)
    (gateway : GovernedModelGateway) : ∃ u, Dialogue.Serves gateway.serve t u := by
  cases acquired with
  | inline => exact ⟨[], .nil⟩
  | retrieved => exact ⟨_, .singleton (.ask _ (.done _))⟩

/-- A prepared request reaches the provider through a gateway that admits it. -/
theorem Prepared.deployed_runs
    (prepared : Prepared engine payload t executionContext bundle model evidence)
    {routeId : String} (admitted : gateway.selectRoute model = .ok routeId) :
    ∃ u outcome, Dialogue.Runs (engine.deployed gateway payload) u outcome ∧
      Supplied payload (DeployedTrace.retrieved u) bundle ∧
      ⟨model, routeId⟩ ∈ DeployedTrace.invocations u := by
  obtain ⟨v, served⟩ := prepared.acquired.serves gateway
  have asked : Dialogue.Serves gateway.serve
      [⟨.complete model, .error .timeoutError⟩]
      [⟨.invoke ⟨model, routeId⟩, .error .timeoutError⟩] :=
    .singleton (runs_serve_complete.mpr (.inr ⟨routeId, admitted, rfl⟩))
  have serves := served.append asked
  refine ⟨_, _, (prepared.runs (.error .timeoutError)).handle serves, ?_, ?_⟩
  · rw [(serves_trace serves).1]
    exact prepared.supplied_iff.mpr rfl
  · rw [DeployedTrace.invocations_append]
    exact List.mem_append_right _ (List.mem_singleton_self _)

end

/-- Behind every gateway, what is rendered into the prompt of an invoked provider
is within the ceiling of the policy, exactly when the label of the execution
context dominates what the bundle contains. -/
theorem research_disclosure_iff {engine : ResearchEngine} {payload bundle : JsonObject}
    (accepts : engine.Accepts payload bundle) :
    (∀ (gateway : GovernedModelGateway) (u : DeployedTrace)
      (outcome : Except PyException JsonObject × Unit),
      Dialogue.Runs (engine.deployed gateway payload) u outcome →
        Supplied payload u.retrieved bundle →
        (∃ call ∈ u.invocations, Renders engine.platform payload bundle call.request) →
        ∀ document ∈ contents bundle,
          ClassifiedWithin gateway.policy.maximumDataClassification document) ↔
      ∃ declared, Declares payload declared ∧
        ∀ document ∈ contents bundle, ClassifiedWithin declared document := by
  refine ⟨?_, ?_⟩
  · intro safe
    obtain ⟨t, r, run, asked, supplied⟩ := accepts
    rcases runs_research run with ⟨silent, -⟩ |
      ⟨before, executionContext, bundle', model, evidence, reply, prepared, rfl, -⟩
    · exact absurd silent asked
    obtain rfl := prepared.supplied_iff.mp supplied
    obtain ⟨label, within, renders⟩ := modelRequest_eq_ok (prepare_eq_ok prepared.prepared).2.2
    obtain ⟨u, outcome, deployed, supplied, invoked⟩ :=
      prepared.deployed_runs (selectRoute_labelGateway within)
    refine ⟨model.dataClassification, ⟨_, executionContext_eq_ok prepared.context, label⟩, ?_⟩
    exact safe (labelGateway model) u outcome deployed supplied ⟨_, invoked, renders⟩
  · intro dominated gateway u outcome run supplied disclosed document member
    obtain ⟨declared, declares, within⟩ := dominated
    obtain ⟨call, invoked, -⟩ := disclosed
    obtain ⟨-, label, admitted⟩ := invocation_of_runs run supplied invoked
    have rank := GovernedModelGateway.rank_le_of_selectRoute admitted
    rw [label.unique declares] at rank
    exact (within document member).trans rank

/-! ## A disclosing run -/

theorem mem_contents_policyBundle {tenantId classification : String} {document : Json}
    (member : document ∈ contents (policyBundle tenantId classification)) :
    field? document "data_classification" = some (.str classification) := by
  rcases List.mem_append.mp member with inItems | inRefs
  · rw [List.mem_singleton.mp inItems]
    rfl
  · rw [List.mem_singleton.mp inRefs]
    rfl

/-- A gateway for internal material. -/
def policyGateway : GovernedModelGateway where
  policy := { allowed := ["policy.evidence-bound-research.v1"] }
  budgetGuard := ExecutionBudgetGuard.validate
  router := StaticModelRouter.route
    { routes := ["deterministic-test"]
      policyRoutes := [("policy.evidence-bound-research.v1", "deterministic-test")] }

def providerReply : DeployedTrace → (call : DeployedCall) → Except PyException call.Reply
  | _, .retrieve _ _ _ => .ok .null
  | _, .invoke _ =>
    .ok { content := policyEngine.platform.dumps policyDraft, routeId := "deterministic-test",
          inputTokens := 10, outputTokens := 20 }

/-- The calls of a deployed run about a bundle with this label. -/
def policyDeployment (classification : String) : DeployedTrace :=
  ((policyEngine.deployed policyGateway
    (policyRequest (policyBundle "tenant_research_001" classification))).converse
      providerReply []).1

/-- The provider that is invoked is shown the bundle. -/
theorem policyDeployment_renders {classification : String}
    (invoked : DeployedTrace.invocations (policyDeployment classification) ≠ []) :
    ∃ call ∈ DeployedTrace.invocations (policyDeployment classification),
      Renders policyEngine.platform
        (policyRequest (policyBundle "tenant_research_001" classification))
        (policyBundle "tenant_research_001" classification) call.request := by
  obtain ⟨call, member⟩ := List.exists_mem_of_ne_nil _ invoked
  have run := Dialogue.converse_runs providerReply [] (policyEngine.deployed policyGateway
    (policyRequest (policyBundle "tenant_research_001" classification)))
  exact ⟨call, member, (invocation_of_runs run (.inl rfl) member).1⟩

theorem research_disclosure_policy :
    (DeployedTrace.invocations (policyDeployment "INTERNAL")).length = 1 ∧
      ClassifiedWithin policyGateway.policy.maximumDataClassification
        (.obj (policyItem "INTERNAL")) := by
  have returned : (policyRun (policyBundle "tenant_research_001" "INTERNAL")).2.1 =
      .ok (policyResult (policyBundle "tenant_research_001" "INTERNAL")) := by
    decide +kernel
  have asked : ResearchTrace.completions
      (policyRun (policyBundle "tenant_research_001" "INTERNAL")).1 ≠ [] := by
    rw [← List.length_pos_iff]
    decide +kernel
  have invoked : (DeployedTrace.invocations (policyDeployment "INTERNAL")).length = 1 := by
    decide +kernel
  have safe := (research_disclosure_iff ⟨_, _, runs_policyRun returned, asked, .inl rfl⟩).mpr
    ⟨.internal, ⟨policyContext, rfl, rfl⟩, fun document member =>
      ⟨.internal, mem_contents_policyBundle member, le_rfl⟩⟩
  refine ⟨invoked, safe policyGateway (policyDeployment "INTERNAL") _
    (Dialogue.converse_runs _ _ _) (.inl rfl) (policyDeployment_renders ?_) _ List.mem_cons_self⟩
  rw [← List.length_pos_iff, invoked]
  exact one_pos

/-- A bundle marked restricted is rendered for a provider of internal material. -/
theorem disclosure_counterexample :
    ¬ ∀ (engine : ResearchEngine) (gateway : GovernedModelGateway) (payload bundle : JsonObject)
      (u : DeployedTrace) (outcome : Except PyException JsonObject × Unit),
      Dialogue.Runs (engine.deployed gateway payload) u outcome →
        Supplied payload u.retrieved bundle →
        (∃ call ∈ u.invocations, Renders engine.platform payload bundle call.request) →
        ∀ document ∈ contents bundle,
          ClassifiedWithin gateway.policy.maximumDataClassification document := by
  intro safe
  have invoked : DeployedTrace.invocations (policyDeployment "RESTRICTED") ≠ [] := by
    rw [← List.length_pos_iff]
    decide +kernel
  have document : .obj (policyItem "RESTRICTED") ∈
      contents (policyBundle "tenant_research_001" "RESTRICTED") := List.mem_cons_self
  rcases safe policyEngine policyGateway _ _ (policyDeployment "RESTRICTED") _
    (Dialogue.converse_runs _ _ _) (.inl rfl) (policyDeployment_renders invoked) _ document with
    ⟨c, classified, rank⟩
  rw [mem_contents_policyBundle document] at classified
  cases c with
  | restricted => exact absurd rank (by decide)
  | _ => exact absurd classified (by decide)

end ResearchEngine

end Genesis

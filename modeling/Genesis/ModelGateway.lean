import Genesis.Context.Models
import Genesis.Lib.Dialogue

/-!
# The governed model gateway

A model request passes the policy, the budget guard and the router, in this
order, before a provider adapter is invoked.  The adapters are not part of the
repository: an invocation is a question of the dialogue `complete`.
-/

namespace Genesis

open Py

/-! ## Requests and responses -/

structure ModelRequestFields where
  runId : String
  correlationId : String
  policyRef : String
  purpose : String
  dataClassification : DataClassification := .internal
  promptId : Option String := none
  promptVersion : Option String := none
  messages : List JsonObject
  requestedMaxTokens : ℕ
  budget : ExecutionBudget
  deriving DecidableEq

abbrev ModelRequestFields.WellFormed (r : ModelRequestFields) : Prop :=
  3 ≤ r.runId.length ∧ 3 ≤ r.correlationId.length ∧ 1 ≤ r.policyRef.length ∧
    1 ≤ r.purpose.length ∧ (∀ id ∈ r.promptId, 1 ≤ id.length) ∧
    (∀ version ∈ r.promptVersion, 1 ≤ version.length) ∧ r.messages ≠ [] ∧
    1 ≤ r.requestedMaxTokens

structure ModelRequest extends ModelRequestFields where
  wellFormed : toModelRequestFields.WellFormed
  deriving DecidableEq

/-- A `data_classification` literal. -/
def classification? : Json → Option DataClassification
  | .str s => DataClassification.ofValue? s
  | _ => none

theorem classification?_eq_some_iff {value : Json} {c : DataClassification} :
    classification? value = some c ↔ value = .str c.value := by
  refine ⟨?_, ?_⟩
  · intro parsed
    cases value with
    | str s => rw [← DataClassification.value_of_ofValue? parsed]
    | _ => cases parsed
  · intro same
    rw [same]
    exact DataClassification.ofValue?_value c

/-- `ModelRequest(...)`; the classification comes from an untyped document. -/
def ModelRequest.ofFields (dataClassification : Json)
    (fields : DataClassification → ModelRequestFields) : Except PyException ModelRequest :=
  match classification? dataClassification with
  | none => .error (.validationError "ModelRequest")
  | some c => construct "ModelRequest" fun wellFormed : (fields c).WellFormed => ⟨_, wellFormed⟩

theorem ModelRequest.ofFields_eq_ok_iff {dataClassification : Json}
    {fields : DataClassification → ModelRequestFields} {request : ModelRequest} :
    ofFields dataClassification fields = .ok request ↔
      ∃ c, dataClassification = .str c.value ∧ request.toModelRequestFields = fields c := by
  simp only [← classification?_eq_some_iff]
  unfold ofFields
  cases classification? dataClassification with
  | none =>
    refine ⟨nofun, fun h => ?_⟩
    rcases h with ⟨_, parsed, _⟩
    cases parsed
  | some c =>
    simp only [construct_eq_ok_iff, Option.some.injEq, exists_eq_left']
    refine ⟨?_, ?_⟩
    · intro h
      rcases h with ⟨_, built⟩
      rw [← built]
    · intro same
      have wellFormed := request.wellFormed
      rw [same] at wellFormed
      refine ⟨wellFormed, ?_⟩
      cases request
      cases same
      rfl

/-- A cost that is not reported is no negative cost. -/
theorem nonneg_of_unreported : ∀ amount ∈ (none : Option ℚ), 0 ≤ amount := nofun

structure ModelResponse where
  content : String
  routeId : String
  providerRequestId : Option String := none
  inputTokens : ℕ
  outputTokens : ℕ
  cost : Option ℚ := none
  cost_nonneg : ∀ amount ∈ cost, 0 ≤ amount := by exact nonneg_of_unreported
  deriving DecidableEq

/-! ## Policy, budget and route -/

/-- `StaticModelPolicy`. -/
structure StaticModelPolicy where
  allowed : List String
  maximumDataClassification : DataClassification := .internal

def StaticModelPolicy.authorize (policy : StaticModelPolicy) (request : ModelRequest) :
    Except PyException Unit :=
  if request.policyRef ∉ policy.allowed then
    .error (.modelAccessDenied s!"Model policy is not allowed: {request.policyRef}")
  else if policy.maximumDataClassification.rank < request.dataClassification.rank then
    let classification := request.dataClassification.value
    .error (.modelAccessDenied
      s!"Model policy does not allow data classification: {classification}")
  else .ok ()

theorem StaticModelPolicy.authorize_eq_ok_iff {policy : StaticModelPolicy}
    {request : ModelRequest} :
    policy.authorize request = .ok () ↔ request.policyRef ∈ policy.allowed ∧
      request.dataClassification.rank ≤ policy.maximumDataClassification.rank := by
  unfold authorize
  split
  · next denied => exact ⟨nofun, fun granted => absurd granted.1 denied⟩
  · next listed =>
    split
    · next above => exact ⟨nofun, fun granted => absurd granted.2 (not_le.mpr above)⟩
    · next within => exact ⟨fun _ => ⟨not_not.mp listed, not_lt.mp within⟩, fun _ => rfl⟩

/-- `ExecutionBudgetGuard.validate`. -/
def ExecutionBudgetGuard.validate (request : ModelRequest) : Except PyException Unit :=
  match request.budget.maxTokens with
  | none => .ok ()
  | some maximum =>
    if maximum < request.requestedMaxTokens then
      .error (.budgetExceeded "Requested tokens exceed the execution budget")
    else .ok ()

theorem ExecutionBudgetGuard.validate_eq_ok_iff {request : ModelRequest} :
    validate request = .ok () ↔
      ∀ maximum ∈ request.budget.maxTokens, request.requestedMaxTokens ≤ maximum := by
  unfold validate
  cases request.budget.maxTokens with
  | none => simp
  | some maximum =>
    dsimp only
    split
    · next above => simpa using above
    · next within => simpa using within

/-- `StaticModelRouter`; an adapter is named by its route. -/
structure StaticModelRouter where
  routes : List String
  policyRoutes : Dict String

/-- `StaticModelRouter.route`; an empty route id finds no adapter. -/
def StaticModelRouter.route (router : StaticModelRouter) (request : ModelRequest) :
    Except PyException String :=
  match router.policyRoutes.get? request.policyRef with
  | some routeId =>
    if routeId ≠ "" ∧ routeId ∈ router.routes then .ok routeId
    else .error (.modelRouteUnavailable s!"No model route for policy {request.policyRef}")
  | none => .error (.modelRouteUnavailable s!"No model route for policy {request.policyRef}")

/-! ## The gateway -/

/-- A gateway with a static policy and any budget guard and router; an adapter is
named by its route. -/
structure GovernedModelGateway where
  policy : StaticModelPolicy
  budgetGuard : ModelRequest → Except PyException Unit
  router : ModelRequest → Except PyException String

/-- `adapter.complete(request, route_id=route_id)`. -/
structure ProviderCall where
  request : ModelRequest
  routeId : String

namespace GovernedModelGateway

/-- The checks of `complete`, and the route it selects. -/
def selectRoute (gateway : GovernedModelGateway) (request : ModelRequest) :
    Except PyException String := do
  gateway.policy.authorize request
  gateway.budgetGuard request
  gateway.router request

/-- `complete`. -/
def complete (gateway : GovernedModelGateway) (request : ModelRequest) :
    Dialogue ProviderCall (fun _ => Except PyException ModelResponse)
      (Except PyException ModelResponse) :=
  match gateway.selectRoute request with
  | .error e => .done (.error e)
  | .ok routeId => .question ⟨request, routeId⟩

/-- Whatever the provider replies, it has been asked at most once, about the
request the gateway admitted, and its reply is passed on. -/
theorem runs_complete_iff {gateway : GovernedModelGateway} {request : ModelRequest}
    {t : List (Dialogue.Event ProviderCall fun _ => Except PyException ModelResponse)}
    {r : Except PyException ModelResponse} :
    Dialogue.Runs (gateway.complete request) t r ↔
      (∃ e, gateway.selectRoute request = .error e ∧ t = [] ∧ r = .error e) ∨
        ∃ routeId, gateway.selectRoute request = .ok routeId ∧ t = [⟨⟨request, routeId⟩, r⟩] := by
  unfold complete
  cases gateway.selectRoute request with
  | error e => simp [Dialogue.Runs.done_iff]
  | ok routeId => simp [Dialogue.Runs.question_iff]

/-- Wherever the adapters are asked, the gateway refuses a request or asks one of them. -/
theorem runs_handle_complete {κ : Type} {τ : κ → Type} {gateway : GovernedModelGateway}
    {invoke : ProviderCall → Dialogue κ τ (Except PyException ModelResponse)}
    {request : ModelRequest} {u : List (Dialogue.Event κ τ)}
    {r : Except PyException ModelResponse} :
    Dialogue.Runs ((gateway.complete request).handle invoke) u r ↔
      (∃ e, gateway.selectRoute request = .error e ∧ u = [] ∧ r = .error e) ∨
        ∃ routeId, gateway.selectRoute request = .ok routeId ∧
          Dialogue.Runs (invoke ⟨request, routeId⟩) u r := by
  refine ⟨?_, ?_⟩
  · intro run
    obtain ⟨t, inner, serves⟩ := Dialogue.Runs.of_handle run
    rcases runs_complete_iff.mp inner with ⟨e, refused, rfl, rfl⟩ | ⟨routeId, admitted, rfl⟩
    · cases serves
      exact .inl ⟨e, refused, rfl, rfl⟩
    · cases serves with
      | cons served rest =>
        cases rest
        rw [List.append_nil]
        exact .inr ⟨routeId, admitted, served⟩
  · intro answered
    rcases answered with ⟨e, refused, rfl, rfl⟩ | ⟨routeId, admitted, invoked⟩
    · exact (runs_complete_iff.mpr (.inl ⟨e, refused, rfl, rfl⟩)).handle .nil
    · have inner : Dialogue.Runs (gateway.complete request) [⟨⟨request, routeId⟩, r⟩] r :=
        runs_complete_iff.mpr (.inr ⟨routeId, admitted, rfl⟩)
      exact inner.handle (.singleton invoked)

/-- An admitted request is classified at most as the policy allows. -/
theorem rank_le_of_selectRoute {gateway : GovernedModelGateway} {request : ModelRequest}
    {routeId : String} (selected : gateway.selectRoute request = .ok routeId) :
    request.dataClassification.rank ≤ gateway.policy.maximumDataClassification.rank := by
  simp only [selectRoute, check_bind_eq_ok, StaticModelPolicy.authorize_eq_ok_iff] at selected
  exact selected.1.2

end GovernedModelGateway

end Genesis

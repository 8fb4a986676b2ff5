import Genesis.Capabilities.Privilege

/-!
# The risk of a proposal

The risk of a requirement is inferred from its words and from the names of its
candidate capabilities; `analyze_proposes` follows this one level through the
resolution, both drafts and the model policy.  The catalog has a level of its own
for each item, which nothing compares with it: `covers_iff` says when the inferred
level is at least as high.
-/

namespace Genesis

open Py

/-! ## Levels -/

namespace RiskLevel

/-- `LOW < MEDIUM < HIGH < CRITICAL`. -/
def severity : RiskLevel → ℕ
  | .low => 0
  | .medium => 1
  | .high => 2
  | .critical => 3

theorem ofValue?_value (level : RiskLevel) : ofValue? level.value = some level := by
  cases level <;> decide

end RiskLevel

namespace CapabilityResolver

/-- The level inferred from a statement. -/
def inferredRisk (resolver : CapabilityResolver) (statement : String) : RiskLevel :=
  let normalized := resolver.normalize statement
  risk normalized (candidates normalized)

/-- The level of the resolution is at least that of every item it composes. -/
def Covers (resolution : CapabilityResolution) : Prop :=
  ∀ item ∈ resolution.resolved,
    item.riskLevel.severity ≤ resolution.understanding.riskLevel.severity

/-- The catalog gives no candidate of the statement a higher level than is inferred. -/
def NoRiskierCandidate (resolver : CapabilityResolver) (statement : String)
    (catalog : List CapabilityCatalogItem) : Prop :=
  ∀ item ∈ catalog, item.capabilityId ∈ candidates (resolver.normalize statement) →
    item.riskLevel.severity ≤ (resolver.inferredRisk statement).severity

section

variable {resolver : CapabilityResolver} {requirement : Requirement}
  {catalog : List CapabilityCatalogItem} {resolution : CapabilityResolution}

theorem riskLevel_understand :
    (resolver.understand requirement).riskLevel = resolver.inferredRisk requirement.statement := by
  simp only [understand, inferredRisk]

theorem isRequested_understand {item : CapabilityCatalogItem} :
    isRequested (resolver.understand requirement) item = true ↔
      item.capabilityId ∈ candidates (resolver.normalize requirement.statement) := by
  simp only [isRequested, understand, decide_eq_true_eq, mem_fromKeys]

/-- A resolution has the understanding of its requirement, and composes what is
resolved with it. -/
theorem understanding_of_resolve
    (resolves : resolver.resolve requirement catalog = .ok resolution) :
    resolution.understanding = resolver.understand requirement ∧
      resolution.resolved = resolver.resolved (resolver.understand requirement) catalog := by
  rw [CapabilityResolution.fields_of_ofFields resolves]
  exact ⟨rfl, rfl⟩

theorem riskLevel_of_resolve (resolves : resolver.resolve requirement catalog = .ok resolution) :
    resolution.understanding.riskLevel = resolver.inferredRisk requirement.statement := by
  rw [(understanding_of_resolve resolves).1, riskLevel_understand]

/-- The inferred level covers what is resolved exactly when the catalog gives no
candidate a higher one. -/
theorem covers_iff (resolves : resolver.resolve requirement catalog = .ok resolution) :
    Covers resolution ↔ resolver.NoRiskierCandidate requirement.statement catalog := by
  unfold Covers NoRiskierCandidate
  rw [riskLevel_of_resolve resolves, (understanding_of_resolve resolves).2]
  simp only [mem_resolved, isRequested_understand, and_imp]

end

end CapabilityResolver

namespace AgentDraft

/-- An agent draft has the level of its payload. -/
theorem riskLevel_of_modelValidate {raw : JsonObject} {level : RiskLevel} {draft : AgentDraft}
    (written : raw.get? "risk_level" = some (.str level.value))
    (valid : modelValidate raw = .ok draft) : draft.riskLevel = level := by
  simp only [modelValidate, except_bind_eq_ok] at valid
  obtain ⟨_, -, _, -, _, -, _, -, _, -, _, -, _, -, _, -, _, -, _, -, _, -, _, -, _, -, _, -, risk,
    read, _, -, _, -, _, -, built⟩ := valid
  rw [strField_eq_ok_iff, written] at read
  cases read
  split at built
  · next riskLevel _ level' _ =>
    obtain ⟨_, rfl⟩ := construct_eq_ok_iff.mp built
    rw [RiskLevel.ofValue?_value] at level'
    exact (Option.some.inj level').symm
  · cases built

end AgentDraft

namespace CapabilityFactory

/-! ## The level of the drafts -/

/-- The model policy of an agent at this level. -/
def modelPolicy (level : RiskLevel) : String :=
  if 2 ≤ level.severity then "model-policy.critical-v1" else "model-policy.standard-v1"

/-- Everything a result proposes is at one level. -/
structure ProposesLevel (result : FactoryAnalysisResult) (level : RiskLevel) : Prop where
  understanding : result.resolution.understanding.riskLevel = level
  capabilityDraft : ∀ draft ∈ result.capabilityDraft,
    draft.get? "risk_level" = some (.str level.value)
  agentDraft : ∀ draft ∈ result.agentDraft, draft.riskLevel = level ∧
    draft.agentDefinition.get? "risk_level" = some (.str level.value) ∧
    draft.agentDefinition.get? "model_policy_ref" = some (.str (modelPolicy level))

section

variable {factory : CapabilityFactory} {requirement : Requirement}
  {resolution : CapabilityResolution} {result : FactoryAnalysisResult}

theorem modelPolicy_definitionPayload (capabilityId agentId : String) :
    (definitionPayload requirement resolution capabilityId agentId).get? "model_policy_ref" =
      some (.str (modelPolicy resolution.understanding.riskLevel)) := by
  have listed : ∀ level : RiskLevel, level ∈ [RiskLevel.high, .critical] ↔ 2 ≤ level.severity := by
    intro level
    cases level <;> decide
  have policy : (definitionPayload requirement resolution capabilityId agentId).get?
      "model_policy_ref" = some (.str (if resolution.understanding.riskLevel ∈
        [RiskLevel.high, .critical] then "model-policy.critical-v1"
        else "model-policy.standard-v1")) := rfl
  rw [policy, modelPolicy]
  simp only [listed]

/-- The agent draft, its definition and its policy are at the level of the resolution. -/
theorem level_of_agentDraft {draft : AgentDraft} {capabilityId digest : String}
    (drafted : factory.agentDraft requirement capabilityId resolution digest = .ok draft) :
    draft.riskLevel = resolution.understanding.riskLevel ∧
      draft.agentDefinition.get? "risk_level" =
        some (.str resolution.understanding.riskLevel.value) ∧
      draft.agentDefinition.get? "model_policy_ref" =
        some (.str (modelPolicy resolution.understanding.riskLevel)) := by
  have valid := modelValidate_of_agentDraft drafted
  obtain ⟨-, -, -, same⟩ := AgentDraft.of_modelValidate ⟨rfl, rfl, rfl⟩ rfl valid
  rw [same]
  exact ⟨AgentDraft.riskLevel_of_modelValidate rfl valid, rfl, modelPolicy_definitionPayload _ _⟩

/-- A proposal is at the level of the resolution it is made of. -/
theorem proposesLevel_of_propose {catalog : List CapabilityCatalogItem}
    (resolved : factory.resolver.resolve requirement catalog = .ok resolution)
    (proposed : factory.propose requirement catalog = .ok result) :
    result.resolution = resolution ∧
      ProposesLevel result resolution.understanding.riskLevel := by
  rw [propose, resolved] at proposed
  simp only [bind, Except.bind] at proposed
  split at proposed
  · cases validatedResult_eq proposed
    refine ⟨rfl, rfl, ?_, ?_⟩
    · intro draft made
      cases made
    · intro draft made
      cases made
  · obtain ⟨capabilityId, digest, drafted, required, rfl⟩ := exists_of_create proposed
    refine ⟨rfl, rfl, ?_, ?_⟩
    · intro draft made
      cases made
      rfl
    · intro draft made
      exact level_of_agentDraft ((requiredDraft_cases required).2 draft made)

end

/-- Everything that is proposed for a requirement is at the level inferred from
its statement, and this level covers what is composed exactly when the catalog
gives no candidate a higher one. -/
theorem analyze_proposes (factory : CapabilityFactory) :
    (∀ requirement catalog resolution,
      factory.resolver.resolve requirement catalog = .ok resolution →
        resolution.understanding.riskLevel =
            factory.resolver.inferredRisk requirement.statement ∧
          (CapabilityResolver.Covers resolution ↔
            factory.resolver.NoRiskierCandidate requirement.statement catalog)) ∧
    ∀ request result, factory.analyze request = .ok result →
      ProposesLevel result (factory.resolver.inferredRisk request.requirement.statement) ∧
        (CapabilityResolver.Covers result.resolution ↔
          factory.resolver.NoRiskierCandidate request.requirement.statement
            request.capabilityCatalog) := by
  refine ⟨?_, ?_⟩
  · intro requirement catalog resolution resolved
    exact ⟨CapabilityResolver.riskLevel_of_resolve resolved,
      CapabilityResolver.covers_iff resolved⟩
  · intro request result analyzed
    simp only [analyze, except_bind_eq_ok] at analyzed
    obtain ⟨_, -, proposed⟩ := analyzed
    have resolving := proposed
    simp only [propose, except_bind_eq_ok] at resolving
    obtain ⟨resolution, resolved, -⟩ := resolving
    obtain ⟨rfl, level⟩ := proposesLevel_of_propose resolved proposed
    have covers := CapabilityResolver.covers_iff resolved
    have statement : request.requirement.toResolverRequirement.statement =
        request.requirement.statement := rfl
    rw [CapabilityResolver.riskLevel_of_resolve resolved, statement] at level
    rw [statement] at covers
    exact ⟨level, covers⟩

/-! ## A catalog with its own levels -/

/-- The document item, at the highest level. -/
def criticalItem : CapabilityCatalogItem := { documentItem with riskLevel := .critical }

/-- For the requirement of the regression test this item is composed at the lowest
level. -/
theorem resolve_criticalItem :
    (regressionFactory.resolver.resolve
      (regressionRequest [] []).requirement.toResolverRequirement [criticalItem]).toOption.map
        (fun resolution => (resolution.understanding.riskLevel, resolution.resolved)) =
          some (.low, [criticalItem]) := by
  rw [CapabilityResolver.resolve]
  simp only [understand_regressionRequest]
  decide +kernel

theorem risk_counterexample :
    ¬ ∀ (resolver : CapabilityResolver) (requirement : Requirement)
      (catalog : List CapabilityCatalogItem) (resolution : CapabilityResolution),
      resolver.resolve requirement catalog = .ok resolution →
        CapabilityResolver.Covers resolution := by
  intro covers
  obtain ⟨resolution, resolved, shown⟩ := exists_ok_of_map resolve_criticalItem
  simp only [Prod.mk.injEq] at shown
  obtain ⟨level, composed⟩ := shown
  have member : criticalItem ∈ resolution.resolved := by
    rw [composed]
    exact List.mem_singleton_self _
  have within := covers _ _ _ resolution resolved criticalItem member
  rw [level] at within
  exact absurd within (by decide)

end CapabilityFactory

end Genesis

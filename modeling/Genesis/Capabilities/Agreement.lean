import Genesis.Capabilities.Privilege
import Genesis.Capabilities.Order

/-!
# Decision, drafts and handoff

A result of the factory decides once, in its resolution, and is assembled from
that decision in several places.  `analyze_agreement` says that they agree: what
the decision means for the catalog, and which drafts, references and operations
go with each of the two decisions.
-/

namespace Genesis

open Py

namespace CapabilityFactory

/-! ## Agreement -/

/-- The item can be used as it is. -/
def Usable (item : CapabilityCatalogItem) : Prop :=
  item.availability = .available ∧
    (item.configurationStatus = .configured ∨ item.configurationStatus = .notApplicable)

instance decidableUsable (item : CapabilityCatalogItem) : Decidable (Usable item) :=
  inferInstanceAs (Decidable (_ ∧ _))

/-- The catalog has every candidate, and only usable items of the candidates. -/
def Satisfies (catalog : List CapabilityCatalogItem) (candidates : List String) : Prop :=
  (∀ id ∈ candidates, ∃ item ∈ catalog, item.capabilityId = id) ∧
    ∀ item ∈ catalog, item.capabilityId ∈ candidates → Usable item

/-- A result that refers to the candidate items of the catalog, and proposes nothing. -/
structure Reuses (catalog : List CapabilityCatalogItem) (candidates : List String)
    (result : FactoryAnalysisResult) : Prop where
  capabilityDraft : result.capabilityDraft = none
  agentDraft : result.agentDraft = none
  requestedOperations : result.requestedOperations = []
  existing : result.existingCapabilityRefs.Perm
    (catalog.filter fun item => item.capabilityId ∈ candidates)

/-- A result that proposes a capability and, where an agent runs it, an agent for it. -/
structure Creates (catalog : List CapabilityCatalogItem) (candidates : List String)
    (recommendedType : CapabilityType) (result : FactoryAnalysisResult) (capabilityId : String) :
    Prop where
  capabilityDraft : ∃ draft, result.capabilityDraft = some draft ∧
    draft.get? "capability_id" = some (.str capabilityId)
  agentDraft : result.agentDraft.isSome ↔
    recommendedType = .agent ∨ recommendedType = .composite
  definition : ∀ draft ∈ result.agentDraft,
    draft.agentDefinition.get? "capability_ids" = some (strTuple [capabilityId])
  requestedOperations : result.requestedOperations = .registerCapabilityDraft ::
    if result.agentDraft.isSome then [.registerAgentDraft, .startGovernance] else []
  sorted : result.missingDependencies.Pairwise (· < ·)
  missing : ∀ id, id ∈ result.missingDependencies ↔
    id ∈ candidates ∧ ∀ item ∈ catalog, item.capabilityId ≠ id

/-- The decision is what the catalog of the request says, and the rest of the
result is what the decision says. -/
structure Agrees (request : FactoryAnalysisRequest) (understanding : RequirementUnderstanding)
    (result : FactoryAnalysisResult) : Prop where
  understood : result.resolution.understanding = understanding
  decision : result.resolution.decision = .reuse ↔
    Satisfies request.capabilityCatalog understanding.candidateCapabilityIds
  reuse : result.resolution.decision = .reuse →
    Reuses request.capabilityCatalog understanding.candidateCapabilityIds result
  create : result.resolution.decision = .create →
    ∃ capabilityId, Creates request.capabilityCatalog understanding.candidateCapabilityIds
      understanding.recommendedType result capabilityId

/-! ## The resolution -/

section

variable {factory : CapabilityFactory} {requirement : Requirement}
  {catalog : List CapabilityCatalogItem} {understanding : RequirementUnderstanding}
  {resolution : CapabilityResolution} {result : FactoryAnalysisResult} {draft : AgentDraft}
  {capabilityId digest : String}

theorem not_isUnavailable_iff {item : CapabilityCatalogItem} :
    CapabilityResolver.isUnavailable item = false ↔ Usable item := by
  unfold CapabilityResolver.isUnavailable Usable
  rw [Bool.or_eq_false_iff, decide_eq_false_iff_not, decide_eq_false_iff_not, not_not, not_not,
    List.mem_pair]

/-- What is missing are the candidates the catalog does not have. -/
theorem mem_missing_iff {id : String} :
    id ∈ excess understanding.candidateCapabilityIds
        ((factory.resolver.resolved understanding catalog).map
          CapabilityCatalogItem.capabilityId) ↔
      id ∈ understanding.candidateCapabilityIds ∧
        ∀ item ∈ catalog, item.capabilityId ≠ id := by
  rw [mem_excess]
  refine and_congr_right fun candidate => ?_
  simp only [List.mem_map, CapabilityResolver.mem_resolved, CapabilityResolver.isRequested,
    decide_eq_true_eq, not_exists, not_and, and_imp]
  refine ⟨?_, ?_⟩
  · intro absent item listed named
    exact absent item listed (named ▸ candidate) named
  · intro absent item listed _ named
    exact absent item listed named

variable (factory) in
/-- Nothing is missing when the catalog has an item of every candidate. -/
theorem missing_eq_nil_iff :
    excess understanding.candidateCapabilityIds
        ((factory.resolver.resolved understanding catalog).map
          CapabilityCatalogItem.capabilityId) = [] ↔
      ∀ id ∈ understanding.candidateCapabilityIds, ∃ item ∈ catalog, item.capabilityId = id := by
  rw [List.eq_nil_iff_forall_not_mem]
  refine forall_congr' fun id => ?_
  rw [mem_missing_iff, not_and]
  refine forall_congr' fun _ => ?_
  simp only [ne_eq, not_forall, not_not, exists_prop]

variable (factory) in
/-- Nothing that is resolved is unavailable when every candidate item is usable. -/
theorem any_isUnavailable_iff :
    (factory.resolver.resolved understanding catalog).any CapabilityResolver.isUnavailable =
        false ↔
      ∀ item ∈ catalog, item.capabilityId ∈ understanding.candidateCapabilityIds →
        Usable item := by
  rw [List.any_eq_false]
  simp only [Bool.not_eq_true, not_isUnavailable_iff, CapabilityResolver.mem_resolved,
    CapabilityResolver.isRequested, decide_eq_true_eq, and_imp]

variable (factory requirement understanding catalog) in
/-- The decision of a resolution says whether the catalog satisfies the requirement. -/
theorem decision_resolution :
    (factory.resolver.resolution requirement understanding
        (factory.resolver.resolved understanding catalog)).decision = .reuse ↔
      Satisfies catalog understanding.candidateCapabilityIds := by
  unfold CapabilityResolver.resolution Satisfies
  dsimp only
  rw [← missing_eq_nil_iff factory, ← any_isUnavailable_iff factory]
  split
  · next fails =>
    refine ⟨nofun, fun holds => ?_⟩
    rcases fails with missing | unusable
    · exact absurd holds.1 missing
    · rw [holds.2] at unusable
      cases unusable
  · next holds =>
    rw [not_or, not_not, Bool.not_eq_true] at holds
    exact ⟨fun _ => holds, fun _ => rfl⟩

/-- What is resolved are the candidate items of the catalog, as often as they are listed. -/
theorem filter_resolved_perm :
    ((factory.resolver.resolved understanding catalog).filter
        (CapabilityResolver.isRequested understanding)).Perm
      (catalog.filter fun item => item.capabilityId ∈ understanding.candidateCapabilityIds) := by
  have all : (factory.resolver.resolved understanding catalog).filter
      (CapabilityResolver.isRequested understanding) =
        factory.resolver.resolved understanding catalog :=
    List.filter_eq_self.mpr fun item member => (CapabilityResolver.mem_resolved.mp member).2
  rw [all, CapabilityResolver.resolved_eq_sortBy]
  exact Priority.sortBy_perm _ _

/-! ## The two results -/

theorem reuses_of_reuse (reused : factory.reuse requirement resolution = .ok result)
    (resolved : resolution.toResolutionFields = factory.resolver.resolution requirement
      understanding (factory.resolver.resolved understanding catalog)) :
    Reuses catalog understanding.candidateCapabilityIds result := by
  cases validatedResult_eq reused
  refine ⟨rfl, rfl, rfl, ?_⟩
  dsimp only
  rw [resolved]
  exact filter_resolved_perm

/-- The definition of an agent draft refers to the capability it is drafted for. -/
theorem capabilityIds_of_agentDraft
    (drafted : factory.agentDraft requirement capabilityId resolution digest = .ok draft) :
    draft.agentDefinition.get? "capability_ids" = some (strTuple [capabilityId]) := by
  have valid := modelValidate_of_agentDraft drafted
  have same := (AgentDraft.of_modelValidate ⟨rfl, rfl, rfl⟩ rfl valid).2.2.2
  rw [same]
  rfl

theorem creates_of_create (created : factory.create requirement resolution = .ok result)
    (resolved : resolution.toResolutionFields = factory.resolver.resolution requirement
      understanding (factory.resolver.resolved understanding catalog))
    (requires : understanding.requiresAgent = true ↔
      understanding.recommendedType = .agent ∨ understanding.recommendedType = .composite) :
    ∃ capabilityId, Creates catalog understanding.candidateCapabilityIds
      understanding.recommendedType result capabilityId := by
  obtain ⟨capabilityId, digest, drafted, required, rfl⟩ := exists_of_create created
  obtain ⟨drafts, made⟩ := requiredDraft_cases required
  rw [resolved] at drafts
  refine ⟨_, ⟨_, rfl, rfl⟩, drafts.trans requires, ?_, rfl, ?_, ?_⟩
  · intro draft member
    exact capabilityIds_of_agentDraft (made draft member)
  · dsimp only
    rw [resolved]
    exact pairwise_lt_excess _ _
  · dsimp only
    rw [resolved]
    exact fun _ => mem_missing_iff

/-- An agent is required of agents and composites. -/
theorem requiresAgent_iff :
    (factory.resolver.understand requirement).requiresAgent = true ↔
      (factory.resolver.understand requirement).recommendedType = .agent ∨
        (factory.resolver.understand requirement).recommendedType = .composite := by
  unfold CapabilityResolver.understand
  dsimp only
  rw [decide_eq_true_eq, List.mem_pair]

end

/-- Every result of the factory agrees with the catalog of its request and with itself. -/
theorem analyze_agreement (factory : CapabilityFactory) (request : FactoryAnalysisRequest)
    (result : FactoryAnalysisResult) (analyzed : factory.analyze request = .ok result) :
    Agrees request
      (factory.resolver.understand request.requirement.toResolverRequirement) result := by
  simp only [analyze, propose, except_bind_eq_ok] at analyzed
  obtain ⟨_, -, resolution, resolves, proposed⟩ := analyzed
  have resolved := CapabilityResolution.fields_of_ofFields resolves
  have decision := decision_resolution factory request.requirement.toResolverRequirement
    request.capabilityCatalog
    (factory.resolver.understand request.requirement.toResolverRequirement)
  rw [← resolved] at decision
  split at proposed
  · next reused =>
    have reuses := reuses_of_reuse proposed resolved
    cases validatedResult_eq proposed
    refine ⟨?_, decision, fun _ => reuses, ?_⟩
    · rw [resolved]
      rfl
    · intro created
      cases reused.symm.trans created
  · next notReused =>
    have creates := creates_of_create proposed resolved requiresAgent_iff
    have same := (create_eq_ok proposed).1
    refine ⟨?_, ?_, fun reused => absurd (same ▸ reused) notReused, fun _ => creates⟩
    · rw [same, resolved]
      rfl
    · rw [same]
      exact decision

/-! ## Both decisions -/

/-- An accepted request whose catalog satisfies its requirement is answered by reuse. -/
theorem exists_analyze_of_satisfies {factory : CapabilityFactory}
    {request : FactoryAnalysisRequest} (accepted : factory.Accepts request)
    (stated : strip request.requirement.statement ≠ "")
    (satisfied : Satisfies request.capabilityCatalog (factory.resolver.understand
      request.requirement.toResolverRequirement).candidateCapabilityIds)
    (valid : ∀ result, factory.validatedResult result = .ok result) :
    ∃ result, factory.analyze request = .ok result ∧ result.resolution.decision = .reuse := by
  let requirement := request.requirement.toResolverRequirement
  obtain ⟨resolution, resolves⟩ : ∃ resolution,
      factory.resolver.resolve requirement request.capabilityCatalog = .ok resolution :=
    CapabilityResolver.exists_resolve factory.resolver request.capabilityCatalog stated
  have decision := (decision_resolution factory requirement request.capabilityCatalog
    (factory.resolver.understand requirement)).mpr satisfied
  have fields := CapabilityResolution.fields_of_ofFields resolves
  rw [← fields] at decision
  have reused : factory.reuse requirement resolution = .ok
      { correlationId := requirement.correlationId
        resolution
        existingCapabilityRefs :=
          resolution.resolved.filter (CapabilityResolver.isRequested resolution.understanding)
        missingDependencies := []
        requestedOperations := [] } := valid _
  refine ⟨_, .trans ?_ reused, decision⟩
  rw [analyze_eq_propose accepted, propose, resolves]
  exact if_pos decision

/-- The item of the regression test for the other capability its statement asks for. -/
def searchItem : CapabilityCatalogItem :=
  { documentItem with
    capabilityId := "document.search"
    wellFormed := by decide }

/-- A catalog with both capabilities is reused; one that lacks a capability leads
to drafts. -/
theorem analyze_agreement_documents :
    (∃ result, regressionFactory.analyze (regressionRequest [] [searchItem, documentItem]) =
        .ok result ∧
      Reuses [searchItem, documentItem] ["document.search", "document.read"] result) ∧
      ∃ result, regressionFactory.analyze
          (regressionRequest ["admin.all", "sources.read"] [archiveItem, documentItem]) =
            .ok result ∧
        ∃ capabilityId, Creates [archiveItem, documentItem] ["document.search", "document.read"]
          .agent result capabilityId := by
  have understood := understand_regressionRequest [] [searchItem, documentItem]
  have satisfied : Satisfies [searchItem, documentItem] (regressionFactory.resolver.understand
      (regressionRequest [] [searchItem, documentItem]).requirement.toResolverRequirement
        ).candidateCapabilityIds := by
    rw [understood]
    exact ⟨by decide, by decide⟩
  obtain ⟨reused, analyzed, decided⟩ :
      ∃ result, regressionFactory.analyze (regressionRequest [] [searchItem, documentItem]) =
        .ok result ∧ result.resolution.decision = .reuse :=
    exists_analyze_of_satisfies rfl (by decide +kernel) satisfied fun _ => rfl
  obtain ⟨created, analyzed', shown⟩ := exists_ok_of_map analyze_regressionRequest
  have reuses := (analyze_agreement _ _ reused analyzed).reuse decided
  have creates := (analyze_agreement _ _ created analyzed').create (Prod.mk.inj shown).1
  rw [understood] at reuses
  rw [understand_regressionRequest] at creates
  exact ⟨⟨reused, analyzed, reuses⟩, created, analyzed', creates⟩

end CapabilityFactory

end Genesis

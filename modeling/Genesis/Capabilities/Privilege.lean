import Genesis.Capabilities.Factory

/-!
# Least privilege of drafts

What the drafts of the factory ask for, and what a result can depend on.  The
references of all three drafts are those of the candidate items of the catalog;
and neither the authority of the actor nor any other item of the catalog makes a
difference to a result.
-/

namespace Genesis

open Py

/-! ## References in JSON forms -/

theorem strItems_map (xs : List String) : strItems (xs.map .str) = some xs := by
  induction xs with
  | nil => rfl
  | cons x xs ih =>
    rw [List.map_cons, strItems, ih]
    rfl

/-- A field that was written as a tuple of strings is read as that tuple. -/
theorem eq_of_strTupleField {model key : String} {raw : JsonObject} {xs ys : List String}
    {default : Option (List String)} (written : raw.get? key = some (strTuple xs))
    (read : strTupleField model raw key default = .ok ys) : ys = xs := by
  unfold strTupleField at read
  rw [written, strTuple] at read
  dsimp only at read
  rw [strItems_map] at read
  exact (Except.ok.inj read).symm

/-- The document proposes these references. -/
structure Proposes (document : JsonObject) (toolIds permissionRefs scopeRefs : List String) :
    Prop where
  toolIds : document.get? "tool_ids" = some (strTuple toolIds)
  permissionRefs : document.get? "permission_refs" = some (strTuple permissionRefs)
  scopeRefs : document.get? "scope_refs" = some (strTuple scopeRefs)

/-- An agent draft has the references and the definition of its payload. -/
theorem AgentDraft.of_modelValidate {raw definition : JsonObject} {draft : AgentDraft}
    {toolIds permissionRefs scopeRefs : List String}
    (proposes : Proposes raw toolIds permissionRefs scopeRefs)
    (defined : raw.get? "agent_definition" = some (.obj definition))
    (valid : modelValidate raw = .ok draft) :
    draft.toolIds = toolIds ∧ draft.permissionRefs = permissionRefs ∧
      draft.scopeRefs = scopeRefs ∧ draft.agentDefinition = definition := by
  simp only [modelValidate, except_bind_eq_ok] at valid
  obtain ⟨_, -, _, -, _, -, _, -, _, -, _, -, _, -, _, -, _, -, _, -, scopes, readScopes, tools,
    readTools, permissions, readPermissions, _, -, _, -, _, -, _, -, _, -, built⟩ := valid
  split at built
  · next riskLevel other _ found =>
    obtain ⟨_, rfl⟩ := construct_eq_ok_iff.mp built
    cases defined.symm.trans found
    exact ⟨eq_of_strTupleField proposes.toolIds readTools,
      eq_of_strTupleField proposes.permissionRefs readPermissions,
      eq_of_strTupleField proposes.scopeRefs readScopes, rfl⟩
  · cases built

namespace CapabilityFactory

/-! ## What the drafts ask for -/

/-- The references are those of the requested items, once each. -/
structure UnionOf (understanding : RequirementUnderstanding)
    (catalog : List CapabilityCatalogItem) (select : CapabilityCatalogItem → List String)
    (refs : List String) : Prop where
  nodup : refs.Nodup
  mem_iff : ∀ ref, ref ∈ refs ↔ ∃ item ∈ catalog,
    item.capabilityId ∈ understanding.candidateCapabilityIds ∧ ref ∈ select item

/-- The drafts of a result propose the same references: the tools and permissions
of the requested items of the catalog, and the scopes of the execution context. -/
structure LeastPrivilege (request : FactoryAnalysisRequest) (result : FactoryAnalysisResult)
    (toolIds permissionRefs : List String) : Prop where
  tools : UnionOf result.resolution.understanding request.capabilityCatalog
    CapabilityCatalogItem.backingToolIds toolIds
  permissions : UnionOf result.resolution.understanding request.capabilityCatalog
    CapabilityCatalogItem.permissionRefs permissionRefs
  capabilityDraft : ∃ draft, result.capabilityDraft = some draft ∧
    Proposes draft toolIds permissionRefs request.requirement.executionContext.scopeRefs
  agentDraft : ∀ draft ∈ result.agentDraft, draft.toolIds = toolIds ∧
    draft.permissionRefs = permissionRefs ∧
    draft.scopeRefs = request.requirement.executionContext.scopeRefs ∧
    Proposes draft.agentDefinition toolIds permissionRefs
      request.requirement.executionContext.scopeRefs

section

variable {factory : CapabilityFactory} {requirement : Requirement}
  {catalog : List CapabilityCatalogItem} {resolution : CapabilityResolution}
  {result : FactoryAnalysisResult} {draft : AgentDraft} {capabilityId digest : String}

theorem validatedResult_eq {built : FactoryAnalysisResult}
    (valid : factory.validatedResult built = .ok result) : result = built := by
  simp only [validatedResult, except_bind_eq_ok] at valid
  obtain ⟨_, -, same⟩ := valid
  exact (Except.ok.inj same).symm

/-- An agent draft is its payload, which both schemas accept. -/
theorem modelValidate_of_agentDraft
    (drafted : factory.agentDraft requirement capabilityId resolution digest = .ok draft) :
    AgentDraft.modelValidate (draftPayload requirement resolution digest ("agent_" ++ digest)
      (definitionPayload requirement resolution capabilityId ("agent_" ++ digest))) =
        .ok draft := by
  simp only [agentDraft, except_bind_eq_ok] at drafted
  obtain ⟨definition, defined, payload, accepted, valid⟩ := drafted
  cases CanonicalContractCatalog.eq_of_validate defined
  cases CanonicalContractCatalog.eq_of_validate accepted
  exact valid

/-- The agent draft and its definition propose the references of the resolution. -/
theorem agentDraft_eq_ok
    (drafted : factory.agentDraft requirement capabilityId resolution digest = .ok draft) :
    draft.toolIds = resolution.requiredToolIds ∧
      draft.permissionRefs = resolution.requiredPermissionRefs ∧
      draft.scopeRefs = resolution.scopeRefs ∧
      Proposes draft.agentDefinition resolution.requiredToolIds
        resolution.requiredPermissionRefs resolution.scopeRefs := by
  obtain ⟨tools, permissions, scopes, same⟩ :=
    AgentDraft.of_modelValidate ⟨rfl, rfl, rfl⟩ rfl (modelValidate_of_agentDraft drafted)
  rw [same]
  exact ⟨tools, permissions, scopes, rfl, rfl, rfl⟩

/-- An agent is drafted exactly when the resolution requires one. -/
theorem requiredDraft_cases {drafted : Option AgentDraft}
    (required : factory.requiredDraft requirement capabilityId resolution digest = .ok drafted) :
    (drafted.isSome ↔ resolution.understanding.requiresAgent = true) ∧
      ∀ draft ∈ drafted,
        factory.agentDraft requirement capabilityId resolution digest = .ok draft := by
  unfold requiredDraft at required
  split at required
  · next agent =>
    cases made : factory.agentDraft requirement capabilityId resolution digest with
    | error e =>
      rw [made] at required
      cases required
    | ok draft =>
      rw [made] at required
      cases required
      refine ⟨⟨fun _ => agent, fun _ => rfl⟩, ?_⟩
      intro other same
      cases same
      rfl
  · next noAgent =>
    cases required
    refine ⟨⟨?_, fun agent => absurd agent noAgent⟩, ?_⟩
    · intro some
      cases some
    · intro draft member
      cases member

/-- A created result is assembled from one resolution and the drafts made of it. -/
theorem exists_of_create (created : factory.create requirement resolution = .ok result) :
    ∃ capabilityId digest drafted,
      factory.requiredDraft requirement capabilityId resolution digest = .ok drafted ∧
        result =
          { correlationId := requirement.correlationId
            resolution
            capabilityDraft := some (capabilityPayload requirement resolution capabilityId)
            agentDraft := drafted
            missingDependencies := resolution.missingCapabilityIds
            requestedOperations := .registerCapabilityDraft ::
              if drafted.isSome then [.registerAgentDraft, .startGovernance] else [] } := by
  simp only [create, except_bind_eq_ok] at created
  obtain ⟨capabilityDraft, accepted, drafted, required, valid⟩ := created
  cases CanonicalContractCatalog.eq_of_validate accepted
  exact ⟨_, _, drafted, required, validatedResult_eq valid⟩

/-- Both drafts of a proposal propose the references of its resolution. -/
theorem create_eq_ok (created : factory.create requirement resolution = .ok result) :
    result.resolution = resolution ∧
      (∃ draft, result.capabilityDraft = some draft ∧ Proposes draft resolution.requiredToolIds
        resolution.requiredPermissionRefs resolution.scopeRefs) ∧
      ∀ draft ∈ result.agentDraft, ∃ capabilityId digest,
        factory.agentDraft requirement capabilityId resolution digest = .ok draft := by
  obtain ⟨capabilityId, digest, drafted, required, rfl⟩ := exists_of_create created
  refine ⟨rfl, ⟨_, rfl, rfl, rfl, rfl⟩, ?_⟩
  intro draft some
  exact ⟨capabilityId, digest, (requiredDraft_cases required).2 draft some⟩

/-- The references required of what is resolved are those of the requested items. -/
theorem unionOf_required {understanding : RequirementUnderstanding}
    (select : CapabilityCatalogItem → List String) :
    UnionOf understanding catalog select
      (fromKeys ((factory.resolver.resolved understanding catalog).flatMap select)) := by
  refine ⟨nodup_fromKeys _, fun ref => ?_⟩
  rw [CapabilityResolver.mem_required]
  simp only [CapabilityResolver.isRequested, decide_eq_true_eq]

/-- A resolution requires the references of the requested items, and has the
scopes of the requirement. -/
theorem resolve_eq_ok (resolved : factory.resolver.resolve requirement catalog = .ok resolution) :
    UnionOf resolution.understanding catalog CapabilityCatalogItem.backingToolIds
        resolution.requiredToolIds ∧
      UnionOf resolution.understanding catalog CapabilityCatalogItem.permissionRefs
        resolution.requiredPermissionRefs ∧
      resolution.scopeRefs = requirement.scopeRefs := by
  have fields := CapabilityResolution.fields_of_ofFields resolved
  rw [fields]
  exact ⟨unionOf_required _, unionOf_required _, rfl⟩

theorem leastPrivilege_of_analyze {request : FactoryAnalysisRequest}
    (analyzed : factory.analyze request = .ok result)
    (decided : result.resolution.decision = .create) :
    LeastPrivilege request result result.resolution.requiredToolIds
      result.resolution.requiredPermissionRefs := by
  simp only [analyze, propose, except_bind_eq_ok] at analyzed
  obtain ⟨_, -, resolution, resolved, proposed⟩ := analyzed
  obtain ⟨tools, permissions, scopes⟩ := resolve_eq_ok resolved
  split at proposed
  · next reused =>
    cases validatedResult_eq proposed
    exact absurd (reused.symm.trans decided) nofun
  · obtain ⟨same, capabilityDraft, agentDraft⟩ := create_eq_ok proposed
    rw [same]
    rw [scopes] at capabilityDraft
    refine ⟨?_, ?_, capabilityDraft, ?_⟩
    · rw [same]
      exact tools
    · rw [same]
      exact permissions
    · intro draft some
      obtain ⟨_, _, made⟩ := agentDraft draft some
      have proposes := agentDraft_eq_ok made
      rw [scopes] at proposes
      exact proposes

end

/-! ## What a result depends on -/

/-- The schema of requests accepts the request. -/
def Accepts (factory : CapabilityFactory) (request : FactoryAnalysisRequest) : Prop :=
  factory.contracts.validate FACTORY_REQUEST_SCHEMA request.modelDump = .ok request.modelDump

/-- The candidate items of the catalog of a request. -/
def candidateItems (factory : CapabilityFactory) (request : FactoryAnalysisRequest) :
    List CapabilityCatalogItem :=
  request.capabilityCatalog.filter (CapabilityResolver.isRequested
    (factory.resolver.understand request.requirement.toResolverRequirement))

/-- The requests differ at most in the permissions, the authority context, the
data classification and the budget of the execution context, and in the items of
the catalog that are no candidates. -/
structure Indistinguishable (factory : CapabilityFactory)
    (request other : FactoryAnalysisRequest) : Prop where
  tenantId : request.requirement.executionContext.tenantId =
    other.requirement.executionContext.tenantId
  organizationId : request.requirement.executionContext.organizationId =
    other.requirement.executionContext.organizationId
  workspaceId : request.requirement.executionContext.workspaceId =
    other.requirement.executionContext.workspaceId
  actorId : request.requirement.executionContext.actorId =
    other.requirement.executionContext.actorId
  correlationId : request.requirement.executionContext.correlationId =
    other.requirement.executionContext.correlationId
  scopeRefs : request.requirement.executionContext.scopeRefs =
    other.requirement.executionContext.scopeRefs
  requirementId : request.requirement.requirementId = other.requirement.requirementId
  statement : request.requirement.statement = other.requirement.statement
  preferredCapabilityType : request.requirement.preferredCapabilityType =
    other.requirement.preferredCapabilityType
  candidateItems : factory.candidateItems request = factory.candidateItems other

section

variable {factory : CapabilityFactory} {request other : FactoryAnalysisRequest}

theorem analyze_eq_propose (accepted : factory.Accepts request) :
    factory.analyze request =
      factory.propose request.requirement.toResolverRequirement request.capabilityCatalog := by
  rw [analyze, accepted]
  simp only [bind, Except.bind]

/-- A proposal sees of a catalog its candidate items only. -/
theorem propose_congr {requirement : Requirement} {catalog others : List CapabilityCatalogItem}
    (same : catalog.filter (CapabilityResolver.isRequested
        (factory.resolver.understand requirement)) =
      others.filter (CapabilityResolver.isRequested (factory.resolver.understand requirement))) :
    factory.propose requirement catalog = factory.propose requirement others := by
  rw [propose, propose, CapabilityResolver.resolve, CapabilityResolver.resolve,
    CapabilityResolver.resolved_congr same]

/-- The requirement without what a proposal does not look at. -/
def stripped (requirement : Requirement) : Requirement :=
  ⟨{ requirement.toRequirementFields with permissionRefs := [], dataClassification := .internal },
    requirement.wellFormed⟩

theorem understand_stripped (resolver : CapabilityResolver) (requirement : Requirement) :
    resolver.understand (stripped requirement) = resolver.understand requirement :=
  rfl

theorem resolve_stripped (resolver : CapabilityResolver) (requirement : Requirement)
    (catalog : List CapabilityCatalogItem) :
    resolver.resolve (stripped requirement) catalog = resolver.resolve requirement catalog := by
  have resolution (understanding : RequirementUnderstanding)
      (resolved : List CapabilityCatalogItem) :
      resolver.resolution (stripped requirement) understanding resolved =
        resolver.resolution requirement understanding resolved :=
    rfl
  rw [CapabilityResolver.resolve, CapabilityResolver.resolve, understand_stripped, resolution]

theorem create_stripped (requirement : Requirement) (resolution : CapabilityResolution) :
    factory.create (stripped requirement) resolution = factory.create requirement resolution := by
  have capability (capabilityId : String) :
      capabilityPayload (stripped requirement) resolution capabilityId =
        capabilityPayload requirement resolution capabilityId :=
    rfl
  have definition (capabilityId agentId : String) :
      definitionPayload (stripped requirement) resolution capabilityId agentId =
        definitionPayload requirement resolution capabilityId agentId :=
    rfl
  have draft (digest agentId : String) (definition : JsonObject) :
      draftPayload (stripped requirement) resolution digest agentId definition =
        draftPayload requirement resolution digest agentId definition :=
    rfl
  have statement : (stripped requirement).statement = requirement.statement := rfl
  have correlation : (stripped requirement).correlationId = requirement.correlationId := rfl
  unfold create requiredDraft agentDraft
  simp only [capability, definition, draft, statement, correlation]

/-- A proposal does not look at the permissions and the classification of its requirement. -/
theorem propose_stripped (requirement : Requirement) (catalog : List CapabilityCatalogItem) :
    factory.propose (stripped requirement) catalog = factory.propose requirement catalog := by
  have reused (resolution : CapabilityResolution) :
      factory.reuse (stripped requirement) resolution = factory.reuse requirement resolution :=
    rfl
  unfold propose
  simp only [resolve_stripped, reused, create_stripped]

theorem Indistinguishable.stripped_eq (same : factory.Indistinguishable request other) :
    stripped request.requirement.toResolverRequirement =
      stripped other.requirement.toResolverRequirement := by
  unfold stripped
  simp only [FactoryRequirement.toResolverRequirement, same.tenantId, same.organizationId,
    same.workspaceId, same.actorId, same.correlationId, same.scopeRefs, same.requirementId,
    same.statement, same.preferredCapabilityType]

/-- Indistinguishable requests are analyzed alike. -/
theorem analyze_congr (accepted : factory.Accepts request) (accepted' : factory.Accepts other)
    (same : factory.Indistinguishable request other) :
    factory.analyze request = factory.analyze other := by
  have understood : factory.resolver.understand request.requirement.toResolverRequirement =
      factory.resolver.understand other.requirement.toResolverRequirement := by
    rw [← understand_stripped, same.stripped_eq, understand_stripped]
  have candidates := same.candidateItems
  unfold candidateItems at candidates
  rw [← understood] at candidates
  calc factory.analyze request
    _ = factory.propose request.requirement.toResolverRequirement request.capabilityCatalog :=
      analyze_eq_propose accepted
    _ = factory.propose request.requirement.toResolverRequirement other.capabilityCatalog :=
      propose_congr candidates
    _ = factory.propose (stripped request.requirement.toResolverRequirement)
        other.capabilityCatalog :=
      (propose_stripped _ _).symm
    _ = factory.propose (stripped other.requirement.toResolverRequirement)
        other.capabilityCatalog := by
      rw [same.stripped_eq]
    _ = factory.propose other.requirement.toResolverRequirement other.capabilityCatalog :=
      propose_stripped _ _
    _ = factory.analyze other := (analyze_eq_propose accepted').symm

end

/-- A result that proposes drafts asks for the references of the candidate items
and the scopes of the context, in all of them alike; and every result is the same
for a request with other permissions, authority, classification or budget, and
with other items around the candidates. -/
theorem analyze_leastPrivilege (factory : CapabilityFactory) :
    (∀ request result, factory.analyze request = .ok result →
      result.resolution.decision = .create →
        LeastPrivilege request result result.resolution.requiredToolIds
          result.resolution.requiredPermissionRefs) ∧
      ∀ request other, factory.Accepts request → factory.Accepts other →
        factory.Indistinguishable request other →
          factory.analyze request = factory.analyze other :=
  ⟨fun _ _ => leastPrivilege_of_analyze, fun _ _ => analyze_congr⟩

/-! ## The regression test -/

def regressionFactory : CapabilityFactory where
  platform := .hashing
    [("Rancang agent untuk mencari dan membaca dokumen secara aman",
      "61a958ab738e29c55682038ced58bd644471f7828c04a0fba864829facf41f7b")]
  contracts := ⟨fun _ => some fun _ => none⟩
  resolver := { unicode := .ascii }

def documentItem : CapabilityCatalogItem where
  capabilityId := "document.read"
  version := "1.0.0"
  name := "Read approved document"
  purpose := "Read one governed document through Backend"
  capabilityType := .toolRequirement
  backingToolIds := ["document.read"]
  permissionRefs := ["sources.read"]
  keywords := ["document", "dokumen"]

/-- An item about documents that no requirement hints at. -/
def archiveItem : CapabilityCatalogItem where
  capabilityId := "document.archive"
  version := "1.0.0"
  name := "Archive approved document"
  purpose := "Archive one governed document through Backend"
  capabilityType := .toolRequirement
  backingToolIds := ["document.archive"]
  permissionRefs := ["sources.write"]
  keywords := ["document", "dokumen"]

def regressionRequest (permissionRefs : List String) (catalog : List CapabilityCatalogItem) :
    FactoryAnalysisRequest where
  requirement :=
    { executionContext :=
        { tenantId := "tenant_regression"
          organizationId := "organization_regression"
          workspaceId := "workspace_regression"
          actorId := "actor_regression"
          authorityContext := { role := "REQUESTER", authorityLevel := some .requester }
          permissionRefs
          scopeRefs := ["scope.workspace"]
          dataClassification := .internal
          correlationId := "corr_least_privilege_001" }
      statement := "Rancang agent untuk mencari dan membaca dokumen secara aman" }
  capabilityCatalog := catalog

/-- What is understood of the requirement of the regression test. -/
def documentUnderstanding : RequirementUnderstanding where
  normalizedIntent := "rancang agent untuk mencari dan membaca dokumen secara aman"
  domains := ["general"]
  candidateCapabilityIds := ["document.search", "document.read"]
  recommendedType := .agent
  riskLevel := .low
  requiresAgent := true
  rationale := ["Matched 2 capability intent(s).", "Classified delivery as AGENT."]

theorem understand_documents :
    regressionFactory.resolver.understand
      (regressionRequest [] []).requirement.toResolverRequirement = documentUnderstanding := by
  decide +kernel

theorem understand_regressionRequest (permissionRefs : List String)
    (catalog : List CapabilityCatalogItem) :
    regressionFactory.resolver.understand
      (regressionRequest permissionRefs catalog).requirement.toResolverRequirement =
        documentUnderstanding := by
  have same :
      stripped (regressionRequest permissionRefs catalog).requirement.toResolverRequirement =
        stripped (regressionRequest [] []).requirement.toResolverRequirement := rfl
  rw [← understand_stripped, same, understand_stripped, understand_documents]

theorem resolved_documents :
    regressionFactory.resolver.resolved documentUnderstanding [archiveItem, documentItem] =
      [documentItem] := by
  have candidates : [archiveItem, documentItem].filter
      (CapabilityResolver.isRequested documentUnderstanding) = [documentItem] := by
    decide
  rw [CapabilityResolver.resolved_eq, candidates]
  rfl

/-- What the resolver finds for such a requirement. -/
theorem resolve_documents {requirement : Requirement}
    (understood : regressionFactory.resolver.understand requirement = documentUnderstanding) :
    regressionFactory.resolver.resolve requirement [archiveItem, documentItem] =
      CapabilityResolution.ofFields (regressionFactory.resolver.resolution requirement
        documentUnderstanding [documentItem]) := by
  rw [CapabilityResolver.resolve, understood, resolved_documents]

/-- The request of the regression test leads to drafts for the one candidate item. -/
theorem analyze_regressionRequest :
    (regressionFactory.analyze
      (regressionRequest ["admin.all", "sources.read"] [archiveItem, documentItem])).toOption.map
        (fun result => (result.resolution.decision, result.resolution.requiredToolIds,
          result.resolution.requiredPermissionRefs, result.agentDraft.isSome)) =
            some (.create, ["document.read"], ["sources.read"], true) := by
  have accepted : regressionFactory.Accepts
      (regressionRequest ["admin.all", "sources.read"] [archiveItem, documentItem]) := rfl
  have listed : (regressionRequest ["admin.all", "sources.read"]
      [archiveItem, documentItem]).capabilityCatalog = [archiveItem, documentItem] := rfl
  rw [analyze_eq_propose accepted, propose, listed,
    resolve_documents (understand_regressionRequest _ _)]
  decide +kernel

/-- Broad permissions of the actor and a further item make no difference, and the
drafts ask for the one permission of the candidate item. -/
theorem analyze_leastPrivilege_regression :
    ∃ result, regressionFactory.analyze
        (regressionRequest ["admin.all", "sources.read"] [archiveItem, documentItem]) = .ok result ∧
      LeastPrivilege
        (regressionRequest ["admin.all", "sources.read"] [archiveItem, documentItem]) result
        ["document.read"] ["sources.read"] ∧ result.agentDraft.isSome = true ∧
      regressionFactory.analyze (regressionRequest [] [documentItem]) = .ok result := by
  have candidates : regressionFactory.candidateItems
      (regressionRequest ["admin.all", "sources.read"] [archiveItem, documentItem]) =
        regressionFactory.candidateItems (regressionRequest [] [documentItem]) := by
    rw [candidateItems, candidateItems, understand_regressionRequest, understand_regressionRequest]
    decide
  obtain ⟨privileged, alike⟩ := analyze_leastPrivilege regressionFactory
  have same := alike (regressionRequest ["admin.all", "sources.read"] [archiveItem, documentItem])
    (regressionRequest [] [documentItem]) rfl rfl
    ⟨rfl, rfl, rfl, rfl, rfl, rfl, rfl, rfl, rfl, candidates⟩
  obtain ⟨result, analyzed, shown⟩ := exists_ok_of_map analyze_regressionRequest
  simp only [Prod.mk.injEq] at shown
  obtain ⟨decided, tools, permissions, drafted⟩ := shown
  have least := privileged _ result analyzed decided
  rw [tools, permissions] at least
  exact ⟨result, analyzed, least, drafted, same.symm.trans analyzed⟩

end CapabilityFactory

end Genesis

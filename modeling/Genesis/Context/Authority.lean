import Genesis.Context.Manager

/-!
# No escalation of authority

What a bundle may carry is bounded from above at every step of a build: the
boundary bounds the execution context, the context bounds the active scope and
the requested tools, the scope bounds each segment, and a segment bounds its
evidence.  `ContextManager.build_authorityBounded` composes the four.

The tools a segment names are the exception: they are compared with the
boundary, not with the context, and `ContextManager.build_segmentTools_iff` says
what that leaves open.
-/

namespace Genesis

open Py ContextSafetyGuard

namespace ContextManager

/-- The bundle and its canonical projection are the identity of the context. -/
structure SameIdentity (bundle : RuntimeContextBundle) (context : ExecutionContextView) :
    Prop where
  tenantId : bundle.tenantId = context.tenantId
  organizationId : bundle.organizationId = context.organizationId
  workspaceId : bundle.workspaceId = context.workspaceId
  actorId : bundle.actorId = context.actorId
  canonicalTenant : bundle.canonicalContextBundle.get? "tenant_id" = some (.str context.tenantId)
  canonicalOrganization :
    bundle.canonicalContextBundle.get? "organization_id" = some (.str context.organizationId)
  canonicalWorkspace :
    bundle.canonicalContextBundle.get? "workspace_id" = some (.str context.workspaceId)
  canonicalActor : bundle.canonicalContextBundle.get? "actor_id" = some (.str context.actorId)

/-- The authority a selected segment of the caller may carry. -/
structure BoundedSegment (args : BuildArguments) (context : ExecutionContextView)
    (item : ContextSegment) : Prop where
  scopeRefs : item.scopeRefs ⊆ args.scope.allRefs
  contextPermissions : item.permissionRefs ⊆ context.permissionRefs
  boundaryPermissions : item.permissionRefs ⊆ args.authorization.allowedPermissionRefs
  classification : item.dataClassification ∈ args.authorization.allowedClassifications
  classification_rank : item.dataClassification.rank ≤ context.dataClassification.rank

/-- The provenance of an evidence reference of a bundle: a selected segment of
the caller carries it, under the identity of the context. -/
structure BoundedEvidence (args : BuildArguments) (context : ExecutionContextView)
    (bundle : RuntimeContextBundle) (evidence : EvidenceReference) : Prop where
  valid : evidence.validationStatus = .valid
  tenantId : evidence.tenantId = context.tenantId
  organizationId : evidence.organizationId = context.organizationId
  workspaceId : evidence.workspaceId = context.workspaceId
  correlationId : evidence.correlationId = context.correlationId
  carrier : ∃ item ∈ bundle.selectedSegments, item ∈ args.segments ∧
    item.evidence = some evidence ∧ evidence.scopeRefs ⊆ item.scopeRefs ∧
      evidence.dataClassification = item.dataClassification
  scopeRefs : evidence.scopeRefs ⊆ args.scope.allRefs
  classification : evidence.dataClassification ∈ args.authorization.allowedClassifications
  classification_rank : evidence.dataClassification.rank ≤ context.dataClassification.rank

/-- No part of the bundle exceeds the execution context or the boundary. -/
structure AuthorityBounded (args : BuildArguments) (context : ExecutionContextView)
    (bundle : RuntimeContextBundle) : Prop where
  document : ExecutionContextView.Identifies args.executionContext context
  identity : SameIdentity bundle context
  boundary : Bounds context args.authorization
  tools_nodup : bundle.allowedToolIds.Nodup
  tools_requested : bundle.allowedToolIds ⊆ args.requestedToolIds
  tools_context : bundle.allowedToolIds ⊆ context.allowedToolIds
  tools_boundary : bundle.allowedToolIds ⊆ args.authorization.allowedToolIds
  scope_context : args.scope.allRefs ⊆ context.scopeRefs
  scope_boundary : args.scope.allRefs ⊆ args.authorization.allowedScopeRefs
  segments : ∀ item ∈ bundle.selectedSegments, item ∈ args.segments →
    BoundedSegment args context item
  evidence : ∀ evidence ∈ bundle.evidenceRefs, BoundedEvidence args context bundle evidence

section

variable {manager : ContextManager} {args : BuildArguments} {bundle : RuntimeContextBundle}
  {context : ExecutionContextView} {header : List ContextSegment} {selection : ContextSelection}

theorem executionContextView_identifies
    (view : manager.executionContextView args.executionContext = .ok context) :
    ExecutionContextView.Identifies args.executionContext context := by
  rw [executionContextView, onValueError_eq_ok_iff, except_bind_eq_ok] at view
  obtain ⟨validated, contract, model⟩ := view
  rw [CanonicalContractCatalog.eq_of_validate contract] at model
  exact ExecutionContextView.identifies_of_modelValidate model

theorem Built.sameIdentity (b : Built manager args bundle context header selection) :
    SameIdentity bundle context := by
  constructor <;> rw [b.bundle] <;> rfl

/-- The generated segments carry no evidence. -/
theorem Built.evidence_eq_none (b : Built manager args bundle context header selection)
    {item : ContextSegment} (generated : item ∈ header) : item.evidence = none := by
  have fields := mem_requiredFields b.generated generated
  simp only [requiredFields, List.mem_cons, List.not_mem_nil, or_false] at fields
  rcases fields with system | scope | goal
  · rw [system]
  · rw [scope]
  · rw [goal]

theorem Built.boundedSegment (b : Built manager args bundle context header selection)
    {item : ContextSegment} (supplied : item ∈ args.segments) :
    BoundedSegment args context item := by
  have admitted := b.segments item supplied
  exact ⟨admitted.scopeRefs, admitted.permissionRefs,
    List.Subset.trans admitted.permissionRefs b.bounds.permissionRefs, admitted.classification,
    admitted.classification_rank⟩

theorem Built.boundedEvidence (b : Built manager args bundle context header selection)
    {evidence : EvidenceReference} (listed : evidence ∈ bundle.evidenceRefs) :
    BoundedEvidence args context bundle evidence := by
  have selected : bundle.selectedSegments = selection.selected := by rw [b.bundle]; rfl
  rw [b.bundle] at listed
  obtain ⟨item, kept, carries⟩ := List.mem_filterMap.mp listed
  have supplied : item ∈ args.segments := by
    rcases List.mem_append.mp (ContextBudgetManager.mem_of_mem_selected b.selected kept)
      with generated | supplied
    · rw [b.evidence_eq_none generated] at carries
      cases carries
    · exact supplied
  have admitted := b.segments item supplied
  have same := admitted.evidence evidence carries
  exact
    { valid := same.validationStatus
      tenantId := same.tenantId
      organizationId := same.organizationId
      workspaceId := same.workspaceId
      correlationId := same.correlationId
      carrier := ⟨item, by rw [selected]; exact kept, supplied, carries, same.scopeRefs,
        same.dataClassification⟩
      scopeRefs := List.Subset.trans same.scopeRefs admitted.scopeRefs
      classification := by rw [same.dataClassification]; exact admitted.classification
      classification_rank := by
        rw [same.dataClassification]; exact admitted.classification_rank }

end

/-- No authority is gained by building a context: whatever the arguments, a
bundle that is returned lies within the execution context it was built for, and
that context within the Backend boundary. -/
theorem build_authorityBounded {manager : ContextManager} {args : BuildArguments}
    {bundle : RuntimeContextBundle} (built : manager.build args = .ok bundle) :
    ∃ context, manager.executionContextView args.executionContext = .ok context ∧
      AuthorityBounded args context bundle := by
  obtain ⟨context, header, selection, b⟩ := build_eq_ok_iff.mp built
  have tools : bundle.allowedToolIds = fromKeys args.requestedToolIds := by rw [b.bundle]; rfl
  have requested : bundle.allowedToolIds ⊆ args.requestedToolIds := by
    intro tool member
    rw [tools] at member
    exact mem_fromKeys.mp member
  have allowed : bundle.allowedToolIds ⊆ context.allowedToolIds := by
    rw [tools]
    exact b.tools
  have nodup : bundle.allowedToolIds.Nodup := by
    rw [tools]
    exact nodup_fromKeys args.requestedToolIds
  exact ⟨context, b.view,
    { document := executionContextView_identifies b.view
      identity := b.sameIdentity
      boundary := b.bounds
      tools_nodup := nodup
      tools_requested := requested
      tools_context := allowed
      tools_boundary := List.Subset.trans allowed b.bounds.allowedToolIds
      scope_context := b.scope
      scope_boundary := List.Subset.trans b.scope b.bounds.scopeRefs
      segments := fun item _ supplied => b.boundedSegment supplied
      evidence := fun evidence listed => b.boundedEvidence listed }⟩

/-! ## An authorized build -/

/-- The names in the context below, of which its id is a digest. -/
def evidenceFields : JsonObject :=
  [("tenant_id", .str "tenant_context_001"), ("organization_id", .str "organization_context_001"),
    ("workspace_id", .str "workspace_context_001"), ("actor_id", .str "actor_context_001"),
    ("correlation_id", .str "corr_context_001"),
    ("goal", .str "Evaluate the authorized evidence."),
    ("scope", .obj [("division_refs", strTuple ["scope.division.technology"]),
      ("project_refs", strTuple [])]),
    ("capability_id", .str "capability_context_analysis"),
    ("tool_ids", strTuple ["source.search_context"]),
    ("selected_segment_ids", strTuple ["system_security_authority", "execution_context_scope",
      "authorized_user_goal", "authoritative_evidence_001"])]

/-- A platform with the SHA-256 digest of their text. -/
def contextPlatform : Platform :=
  .hashing
    [(Platform.sample.dumps (.obj evidenceFields),
      "e6ef1191d722dbe3a3be6b5fb00b9b845d07aadd74c4d06d6723c4e1a9bbcff1")]

/-- A manager for documents that violate no schema. -/
def contextManager : ContextManager where
  platform := contextPlatform
  contracts := ⟨fun _ => some fun _ => none⟩
  now := ⟨"2026-09-19T00:00:00Z"⟩

def contextView : ExecutionContextView where
  tenantId := "tenant_context_001"
  organizationId := "organization_context_001"
  workspaceId := "workspace_context_001"
  actorId := "actor_context_001"
  authorityContext :=
    { role := "RESEARCHER", roleRefs := ["RESEARCHER"], authorityLevel := .requester }
  permissionRefs := ["sources.read"]
  allowedToolIds := ["source.search_context"]
  scopeRefs := ["scope.division.technology", "scope.project.genesis"]
  dataClassification := .internal
  correlationId := "corr_context_001"
  executionBudget := ⟨{ maxTokens := some 2000 }, by decide⟩
  wellFormed := by decide

def contextDocument : JsonObject :=
  [("tenant_id", .str "tenant_context_001"), ("organization_id", .str "organization_context_001"),
    ("workspace_id", .str "workspace_context_001"), ("actor_id", .str "actor_context_001"),
    ("authority_context", .obj [("role", .str "RESEARCHER"), ("role_refs", strTuple ["RESEARCHER"]),
      ("authority_level", .str "REQUESTER")]),
    ("permission_refs", strTuple ["sources.read"]),
    ("allowed_tool_ids", strTuple ["source.search_context"]),
    ("scope_refs", strTuple ["scope.division.technology", "scope.project.genesis"]),
    ("data_classification", .str "INTERNAL"), ("correlation_id", .str "corr_context_001"),
    ("execution_budget", .obj [("max_tokens", .int 2000)])]

def contextAuthorization : BackendContextAuthorization where
  tenantId := "tenant_context_001"
  organizationId := "organization_context_001"
  workspaceId := "workspace_context_001"
  actorId := "actor_context_001"
  allowedRoleRefs := ["RESEARCHER"]
  allowedAuthorityLevels := [.requester]
  allowedScopeRefs := ["scope.division.technology", "scope.project.genesis"]
  allowedPermissionRefs := ["sources.read"]
  allowedToolIds := ["source.search_context", "research.external.retrieve"]
  allowedClassifications := [.publicData, .internal]

def contextArguments (segments : List ContextSegment) : BuildArguments where
  executionContext := contextDocument
  authorization := contextAuthorization
  goal := "Evaluate the authorized evidence."
  scope := { divisionRefs := ["scope.division.technology"] }
  capabilityId := "capability_context_analysis"
  requestedToolIds := ["source.search_context", "source.search_context"]
  segments := segments
  maximumCharacters := 4000

def contextEvidence : EvidenceReference where
  tenantId := "tenant_context_001"
  organizationId := "organization_context_001"
  workspaceId := "workspace_context_001"
  runId := "run_context_001"
  correlationId := "corr_context_001"
  scopeRefs := ["scope.division.technology"]
  evidenceId := "evidence_context_001"
  sourceId := "source_context_001"
  uri := "urn:alos:source:context:1"
  capturedAt := ⟨"2026-09-19T00:00:00Z"⟩
  retrievedAt := ⟨"2026-09-19T00:00:00Z"⟩
  contentHash := "sha256:" ++ String.ofList (List.replicate 64 'a')
  sourceVersion := "1.0.0"
  anchor := "lines 1-2"
  dataClassification := .internal
  sourceType := .internal
  freshness := .current
  reliability := .high
  contentTrust := .governed
  validationStatus := .valid
  wellFormed := by decide +kernel

def evidenceSegment : ContextSegment where
  segmentId := "authoritative_evidence_001"
  key := "approved-evidence"
  content := "Approved internal evidence."
  priority := .authoritativeEvidence
  source := .internal
  trust := .governed
  dataClassification := .internal
  scopeRefs := ["scope.division.technology"]
  permissionRefs := ["sources.read"]
  toolIds := ["source.search_context"]
  evidence := some contextEvidence
  wellFormed := by decide

/-- The texts generated for these arguments are short. -/
theorem length_contextTexts :
    (join " " systemRules).length ≤ 500 ∧
      (authorityPayload contextManager.platform contextView).length ≤ 1000 ∧
      LengthIn 1 100 (normalizedGoal "Evaluate the authorized evidence.") := by
  refine ⟨?_, ?_, by decide +kernel⟩
  · rw [join, String.length_ofList]
    decide +kernel
  · rw [authorityPayload, Platform.dumps, Json.dumps, String.length_ofList]
    decide +kernel

/-- These arguments are accepted with every list of valid segments that fits. -/
theorem exists_build_contextArguments (segments : List ContextSegment)
    (valid : validateSegments segments contextView contextAuthorization
      ["scope.division.technology"] = .ok ())
    (fits : ContextBudgetManager.requiredSize segments ≤ 2000) :
    ∃ bundle header selection, Built contextManager (contextArguments segments) bundle
      contextView header selection := by
  obtain ⟨rules, payload, text⟩ := length_contextTexts
  have goal : LengthIn 1 100 (normalizedGoal (contextArguments segments).goal) := text
  have bounds : Bounds contextView contextAuthorization :=
    validateExecutionContext_eq_ok_iff.mp (by decide +kernel)
  have scope : fromKeys (["scope.division.technology"] ++ []) ⊆ contextView.scopeRefs := by
    decide
  have tools : fromKeys ["source.search_context", "source.search_context"] ⊆
      contextView.allowedToolIds := by decide
  have capability : IdLength "capability_context_analysis" := by decide
  have total : (((join " " systemRules).length +
      (authorityPayload contextManager.platform contextView).length +
      (normalizedGoal (contextArguments segments).goal).length +
      ContextBudgetManager.requiredSize (contextArguments segments).segments : ℕ) : ℤ) ≤
        (contextArguments segments).maximumCharacters := by
    have supplied : (contextArguments segments).segments = segments := rfl
    have limit : (contextArguments segments).maximumCharacters = 4000 := rfl
    have size := goal.2
    rw [supplied, limit]
    omega
  exact exists_build (by rfl) bounds ⟨goal.1, goal.2.trans (by decide)⟩
    (payload.trans (by decide)) scope tools (validateSegments_eq_ok_iff.mp valid) total
    (fun document => ⟨document, rfl⟩) capability

/-- These arguments keep all segments when what they supply is small. -/
theorem selectedSegments_contextArguments {segments header : List ContextSegment}
    {bundle : RuntimeContextBundle} {selection : ContextSelection}
    (b : Built contextManager (contextArguments segments) bundle contextView header selection)
    (small : Priority.total ContextSegment.sizeCharacters segments ≤ 2000) :
    bundle.selectedSegments = Priority.sortBy segmentKey (header ++ segments) := by
  obtain ⟨rules, payload, text⟩ := length_contextTexts
  have required : ∀ other ∈ header, other.required = true := fun other member =>
    ContextSegment.required_of_priority_le (priority_le_of_mem_header b.generated member)
  have headerSize : Priority.total ContextSegment.sizeCharacters header ≤ 1600 := by
    have size := requiredSize_header b.generated []
    have goal : (contextArguments segments).goal = "Evaluate the authorized evidence." := rfl
    rw [List.append_nil, ContextBudgetManager.requiredSize, List.filter_eq_self.mpr required,
      goal] at size
    have short := text.2
    have nothing : ContextBudgetManager.requiredSize [] = 0 := rfl
    rw [Priority.total]
    omega
  have everything : (ContextBudgetManager.pass 4000 (header ++ segments)).1 =
      Priority.sortBy segmentKey (header ++ segments) := by
    refine Priority.greedy_kept_of_fits ?_
    rw [Priority.total_perm (Priority.sortBy_perm _ _), Priority.total_append]
    omega
  exact b.selectedSegments_eq.trans everything

theorem mem_selected_contextArguments {segments header : List ContextSegment}
    {bundle : RuntimeContextBundle} {selection : ContextSelection} {item : ContextSegment}
    (b : Built contextManager (contextArguments segments) bundle contextView header selection)
    (small : Priority.total ContextSegment.sizeCharacters segments ≤ 2000)
    (supplied : item ∈ segments) : item ∈ bundle.selectedSegments := by
  rw [selectedSegments_contextArguments b small, (Priority.sortBy_perm _ _).mem_iff]
  exact List.mem_append_right header supplied

theorem build_authorityBounded_contextArguments :
    ∃ bundle context,
      contextManager.build (contextArguments [evidenceSegment]) = .ok bundle ∧
        AuthorityBounded (contextArguments [evidenceSegment]) context bundle := by
  obtain ⟨bundle, header, selection, b⟩ :=
    exists_build_contextArguments [evidenceSegment] (by decide +kernel) (by decide +kernel)
  have built := build_eq_ok_iff.mpr ⟨_, header, selection, b⟩
  obtain ⟨context, -, bounded⟩ := build_authorityBounded built
  exact ⟨bundle, context, built, bounded⟩

/-! ## Tools of the segments -/

/-- The tools the boundary allows and the execution context withholds. -/
def withheldTools (boundary : BackendContextAuthorization) (context : ExecutionContextView) :
    List String :=
  boundary.allowedToolIds.filter fun tool => tool ∉ context.allowedToolIds

/-- A tool that passed the guard is in the context, or withheld by it. -/
theorem Built.toolIds_subset_iff {manager : ContextManager} {args : BuildArguments}
    {bundle : RuntimeContextBundle} {context : ExecutionContextView} {header : List ContextSegment}
    {selection : ContextSelection} (b : Built manager args bundle context header selection) :
    (∀ item ∈ args.segments, item.toolIds ⊆ context.allowedToolIds) ↔
      ∀ item ∈ args.segments, ∀ tool ∈ item.toolIds,
        tool ∉ withheldTools args.authorization context := by
  refine forall₂_congr fun item supplied => ?_
  have allowed : item.toolIds ⊆ args.authorization.allowedToolIds :=
    (b.segments item supplied).toolIds
  refine ⟨?_, ?_⟩
  · intro within tool named withheld
    have outside := (List.mem_filter.mp withheld).2
    rw [decide_eq_true_eq] at outside
    exact outside (within named)
  · intro apart tool named
    by_contra outside
    have withheld : tool ∈ withheldTools args.authorization context :=
      List.mem_filter.mpr ⟨allowed named, decide_eq_true outside⟩
    exact apart tool named withheld

/-- After a successful build, the segments of the caller name only tools of the
execution context exactly when none names a tool the boundary allows and the
context withholds. -/
theorem build_segmentTools_iff {manager : ContextManager} {args : BuildArguments}
    {bundle : RuntimeContextBundle} (built : manager.build args = .ok bundle) :
    ∃ context, manager.executionContextView args.executionContext = .ok context ∧
      ((∀ item ∈ args.segments, item.toolIds ⊆ context.allowedToolIds) ↔
        ∀ item ∈ args.segments, ∀ tool ∈ item.toolIds,
          tool ∉ withheldTools args.authorization context) := by
  obtain ⟨context, header, selection, b⟩ := build_eq_ok_iff.mp built
  exact ⟨context, b.view, b.toolIds_subset_iff⟩

theorem build_segmentTools_contextArguments :
    ∃ bundle context, contextManager.build (contextArguments [evidenceSegment]) = .ok bundle ∧
      contextManager.executionContextView (contextArguments [evidenceSegment]).executionContext =
        .ok context ∧
      ((∀ item ∈ (contextArguments [evidenceSegment]).segments,
          item.toolIds ⊆ context.allowedToolIds) ↔
        ∀ item ∈ (contextArguments [evidenceSegment]).segments, ∀ tool ∈ item.toolIds,
          tool ∉ withheldTools (contextArguments [evidenceSegment]).authorization context) := by
  obtain ⟨bundle, header, selection, b⟩ :=
    exists_build_contextArguments [evidenceSegment] (by decide +kernel) (by decide +kernel)
  have built := build_eq_ok_iff.mpr ⟨_, header, selection, b⟩
  obtain ⟨context, view, tools⟩ := build_segmentTools_iff built
  exact ⟨bundle, context, built, view, tools⟩

/-- A note for a tool the boundary allows and the execution context does not. -/
def retrievalSegment : ContextSegment where
  segmentId := "retrieval_note_001"
  key := "retrieval-note"
  content := "Retrieve the external source."
  priority := .supportingContext
  source := .internal
  trust := .governed
  dataClassification := .internal
  scopeRefs := ["scope.division.technology"]
  toolIds := ["research.external.retrieve"]
  wellFormed := by decide

/-- A build accepts a segment that names a tool outside the execution context. -/
theorem segmentTools_counterexample :
    ¬ ∀ (manager : ContextManager) (args : BuildArguments) (bundle : RuntimeContextBundle)
      (context : ExecutionContextView), manager.build args = .ok bundle →
        manager.executionContextView args.executionContext = .ok context →
          ∀ item ∈ args.segments, item.toolIds ⊆ context.allowedToolIds := by
  intro within
  obtain ⟨bundle, header, selection, b⟩ :=
    exists_build_contextArguments [retrievalSegment] (by decide +kernel) (by decide +kernel)
  have named := within _ _ _ _ (build_eq_ok_iff.mpr ⟨_, header, selection, b⟩) b.view
    retrievalSegment List.mem_cons_self
  exact absurd named (by decide)

end ContextManager

end Genesis

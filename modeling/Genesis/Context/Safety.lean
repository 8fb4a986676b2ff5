import Genesis.Context.Models

/-!
# The context safety guard

`ContextSafetyGuard` compares an execution context with the Backend boundary
and every candidate segment with both.  Each guard has one lemma that lists what
passing it establishes.
-/

namespace Genesis

open Py

/-- `_require_subset`: `kind` names the failure code, its message and the
detail that lists the excess. -/
def requireSubset (kind : String) (requested authorized : List String) (correlationId : String) :
    Except PyException Unit :=
  let excess := excess requested authorized
  if excess = [] then .ok ()
  else
    let upper := kind.toUpper
    .error (.contextFailure
      { code := s!"CONTEXT_{upper}_ESCALATION"
        message := s!"Context attempted to expand Backend-authorized {kind}."
        correlationId := correlationId
        details := [(s!"unauthorized_{kind}_refs", strTuple excess)] })

@[simp] theorem requireSubset_eq_ok_iff {kind correlationId : String}
    {requested authorized : List String} :
    requireSubset kind requested authorized correlationId = .ok () ↔ requested ⊆ authorized := by
  rw [← excess_eq_nil_iff, requireSubset]
  split <;> simp_all

/-- A check that fails with a `ContextFailure` unless its condition holds. -/
abbrev require (condition : Prop) [Decidable condition] (failure : ContextFailure) :
    Except PyException Unit :=
  raiseUnless condition (.contextFailure failure)

namespace ContextSafetyGuard

/-- `_INJECTION_PATTERNS`. -/
def injectionPatterns : List Pattern :=
  let words (ws : List String) : Pattern := .oneOf ws
  let spaced (p q : Pattern) : Pattern := .andThen p (.andThen .spaces q)
  [spaced (words ["ignore"])
      (.andThen (.optional (.andThen (words ["all"]) .spaces))
        (spaced (words ["previous", "prior", "system"])
          (.andThen (words ["instruction"]) (.optional (words ["s"]))))),
    spaced (words ["override"]) (words ["backend", "system", "authority", "permission", "scope"]),
    spaced (words ["grant"])
      (.andThen (.optional (.andThen (words ["me"]) .spaces))
        (words ["permission", "role", "access"])),
    spaced (words ["reveal"])
      (.andThen (.optional (.andThen (words ["the"]) .spaces))
        (spaced (words ["system"]) (words ["prompt"]))),
    spaced (words ["execute"])
      (.andThen (.optional (.andThen (words ["this"]) .spaces))
        (words ["command", "tool", "instruction"]))]

/-- The identity fields that differ, sorted by name. -/
def identityMismatches (context : ExecutionContextView) (boundary : BackendContextAuthorization) :
    List String :=
  [("actor_id", context.actorId, boundary.actorId),
    ("organization_id", context.organizationId, boundary.organizationId),
    ("tenant_id", context.tenantId, boundary.tenantId),
    ("workspace_id", context.workspaceId, boundary.workspaceId)].filterMap fun entry =>
      if entry.2.1 ≠ entry.2.2 then some entry.1 else none

theorem identityMismatches_eq_nil_iff {context : ExecutionContextView}
    {boundary : BackendContextAuthorization} :
    identityMismatches context boundary = [] ↔
      context.actorId = boundary.actorId ∧ context.organizationId = boundary.organizationId ∧
        context.tenantId = boundary.tenantId ∧ context.workspaceId = boundary.workspaceId := by
  simp [identityMismatches]

/-- `validate_execution_context`. -/
def validateExecutionContext (context : ExecutionContextView)
    (boundary : BackendContextAuthorization) : Except PyException Unit := do
  let correlationId := context.correlationId
  require (identityMismatches context boundary = [])
    { code := "CONTEXT_IDENTITY_MISMATCH"
      message := "ExecutionContext identity is outside the Backend authorization boundary."
      correlationId
      details := [("fields", strTuple (identityMismatches context boundary))] }
  require (context.scopeRefs ≠ [])
    { code := "CONTEXT_SCOPE_REQUIRED"
      message := "ExecutionContext requires at least one authorized scope."
      correlationId }
  requireSubset "scope" context.scopeRefs boundary.allowedScopeRefs correlationId
  requireSubset "permission" context.permissionRefs boundary.allowedPermissionRefs correlationId
  requireSubset "tool" context.allowedToolIds boundary.allowedToolIds correlationId
  let roles := fromKeys (context.authorityContext.role :: context.authorityContext.roleRefs)
  requireSubset "role" roles boundary.allowedRoleRefs correlationId
  require (context.authorityContext.authorityLevel ∈ boundary.allowedAuthorityLevels)
    { code := "CONTEXT_AUTHORITY_DENIED"
      message := "ExecutionContext authority level is not authorized by Backend."
      correlationId }
  require (context.dataClassification ∈ boundary.allowedClassifications)
    { code := "CONTEXT_CLASSIFICATION_DENIED"
      message := "ExecutionContext classification is not authorized by Backend."
      correlationId }

/-- The boundary contains the execution context. -/
structure Bounds (context : ExecutionContextView) (boundary : BackendContextAuthorization) :
    Prop where
  actorId : context.actorId = boundary.actorId
  organizationId : context.organizationId = boundary.organizationId
  tenantId : context.tenantId = boundary.tenantId
  workspaceId : context.workspaceId = boundary.workspaceId
  scopeRefs : context.scopeRefs ⊆ boundary.allowedScopeRefs
  permissionRefs : context.permissionRefs ⊆ boundary.allowedPermissionRefs
  allowedToolIds : context.allowedToolIds ⊆ boundary.allowedToolIds
  roleRefs : context.authorityContext.role :: context.authorityContext.roleRefs ⊆
    boundary.allowedRoleRefs
  authorityLevel : context.authorityContext.authorityLevel ∈ boundary.allowedAuthorityLevels
  dataClassification : context.dataClassification ∈ boundary.allowedClassifications

theorem validateExecutionContext_eq_ok_iff {context : ExecutionContextView}
    {boundary : BackendContextAuthorization} :
    validateExecutionContext context boundary = .ok () ↔ Bounds context boundary := by
  have hasScope : context.scopeRefs ≠ [] := context.wellFormed.2.2.2.2.1
  have roles : fromKeys (context.authorityContext.role :: context.authorityContext.roleRefs) ⊆
      boundary.allowedRoleRefs ↔ context.authorityContext.role ::
        context.authorityContext.roleRefs ⊆ boundary.allowedRoleRefs := by
    simp only [List.subset_def, mem_fromKeys]
  simp only [validateExecutionContext, check_bind_eq_ok, raiseUnless_eq_ok_iff,
    requireSubset_eq_ok_iff, identityMismatches_eq_nil_iff, roles]
  refine ⟨?_, ?_⟩
  · intro h
    obtain ⟨⟨actor, organization, tenant, workspace⟩, -, scope, permission, tool, role, level,
      classification⟩ := h
    exact ⟨actor, organization, tenant, workspace, scope, permission, tool, role, level,
      classification⟩
  · intro b
    exact ⟨⟨b.actorId, b.organizationId, b.tenantId, b.workspaceId⟩, hasScope, b.scopeRefs,
      b.permissionRefs, b.allowedToolIds, b.roleRefs, b.authorityLevel, b.dataClassification⟩

/-! ## Segments -/

/-- The failures of one segment carry its id. -/
def segmentFailure (context : ExecutionContextView) (item : ContextSegment)
    (code message : String) : ContextFailure where
  code := code
  message := message
  correlationId := context.correlationId
  details := [("segment_id", .str item.segmentId)]

/-- The checks on the evidence a segment carries. -/
def validateEvidence (context : ExecutionContextView) (item : ContextSegment)
    (evidence : EvidenceReference) : Except PyException Unit := do
  let failure := segmentFailure context item
  require (evidence.tenantId = context.tenantId ∧
      evidence.organizationId = context.organizationId ∧
      evidence.workspaceId = context.workspaceId)
    (failure "CONTEXT_EVIDENCE_SCOPE_MISMATCH"
      "Evidence identity does not match ExecutionContext.")
  requireSubset "evidence_scope" evidence.scopeRefs item.scopeRefs context.correlationId
  require (evidence.correlationId = context.correlationId)
    (failure "CONTEXT_EVIDENCE_CORRELATION_MISMATCH"
      "Evidence correlation does not match ExecutionContext.")
  require (evidence.dataClassification = item.dataClassification)
    (failure "CONTEXT_EVIDENCE_CLASSIFICATION_MISMATCH"
      "Evidence and context segment classification do not match.")
  require (evidence.sourceType.value = item.source.value)
    (failure "CONTEXT_EVIDENCE_SOURCE_MISMATCH"
      "Evidence source semantics do not match the context segment.")
  require (evidence.contentTrust.value = item.trust.value)
    (failure "CONTEXT_EVIDENCE_TRUST_MISMATCH"
      "Evidence trust semantics do not match the context segment.")
  require (evidence.freshness.value = item.freshness.value)
    (failure "CONTEXT_EVIDENCE_FRESHNESS_MISMATCH"
      "Evidence freshness does not match the context segment.")
  require (evidence.validationStatus = .valid)
    (failure "CONTEXT_EVIDENCE_INVALID"
      "Context evidence must be validated by the governed boundary.")

/-- A segment without evidence has nothing to check. -/
def validateEvidence? (context : ExecutionContextView) (item : ContextSegment) :
    Except PyException Unit :=
  match item.evidence with
  | none => .ok ()
  | some evidence => validateEvidence context item evidence

/-- The body of the loop of `validate_segments`. -/
def validateSegment (context : ExecutionContextView)
    (boundary : BackendContextAuthorization) (activeScopeRefs : List String)
    (item : ContextSegment) : Except PyException Unit := do
  requireSubset "scope" item.scopeRefs activeScopeRefs context.correlationId
  requireSubset "permission" item.permissionRefs context.permissionRefs context.correlationId
  requireSubset "tool" item.toolIds boundary.allowedToolIds context.correlationId
  require (item.dataClassification ∈ boundary.allowedClassifications ∧
      item.dataClassification.rank ≤ context.dataClassification.rank)
    (segmentFailure context item "CONTEXT_CLASSIFICATION_DENIED"
      "Context segment classification exceeds the authorized execution context.")
  validateEvidence? context item
  require (item.required = true → item.freshness = .current)
    (segmentFailure context item "CONTEXT_EVIDENCE_STALE"
      "Required business context or authoritative evidence is not current.")
  require (item.source = .external →
      injectionPatterns.all fun pattern => !pattern.search item.content)
    (segmentFailure context item "EXTERNAL_CONTEXT_INSTRUCTION_INJECTION"
      "External content attempted to act as an instruction and was rejected.")

/-- `validate_segments`. -/
def validateSegments (segments : List ContextSegment) (context : ExecutionContextView)
    (boundary : BackendContextAuthorization) (activeScopeRefs : List String) :
    Except PyException Unit :=
  forM segments (validateSegment context boundary activeScopeRefs)

/-- What the guard establishes about an evidence reference. -/
structure AdmitsEvidence (context : ExecutionContextView) (item : ContextSegment)
    (evidence : EvidenceReference) : Prop where
  tenantId : evidence.tenantId = context.tenantId
  organizationId : evidence.organizationId = context.organizationId
  workspaceId : evidence.workspaceId = context.workspaceId
  scopeRefs : evidence.scopeRefs ⊆ item.scopeRefs
  correlationId : evidence.correlationId = context.correlationId
  dataClassification : evidence.dataClassification = item.dataClassification
  sourceType : evidence.sourceType.value = item.source.value
  contentTrust : evidence.contentTrust.value = item.trust.value
  freshness : evidence.freshness.value = item.freshness.value
  validationStatus : evidence.validationStatus = .valid

theorem validateEvidence_eq_ok_iff {context : ExecutionContextView} {item : ContextSegment}
    {evidence : EvidenceReference} :
    validateEvidence context item evidence = .ok () ↔ AdmitsEvidence context item evidence := by
  simp only [validateEvidence, check_bind_eq_ok, raiseUnless_eq_ok_iff, requireSubset_eq_ok_iff]
  refine ⟨?_, ?_⟩
  · intro h
    obtain ⟨⟨tenant, organization, workspace⟩, scope, correlation, classification, source, trust,
      freshness, status⟩ := h
    exact ⟨tenant, organization, workspace, scope, correlation, classification, source, trust,
      freshness, status⟩
  · intro a
    exact ⟨⟨a.tenantId, a.organizationId, a.workspaceId⟩, a.scopeRefs, a.correlationId,
      a.dataClassification, a.sourceType, a.contentTrust, a.freshness, a.validationStatus⟩

theorem validateEvidence?_eq_ok_iff {context : ExecutionContextView} {item : ContextSegment} :
    validateEvidence? context item = .ok () ↔
      ∀ evidence, item.evidence = some evidence → AdmitsEvidence context item evidence := by
  unfold validateEvidence?
  cases item.evidence with
  | none => simp
  | some e => simp [validateEvidence_eq_ok_iff]

/-- What the guard establishes about a segment. -/
structure Admits (context : ExecutionContextView) (boundary : BackendContextAuthorization)
    (activeScopeRefs : List String) (item : ContextSegment) : Prop where
  scopeRefs : item.scopeRefs ⊆ activeScopeRefs
  permissionRefs : item.permissionRefs ⊆ context.permissionRefs
  toolIds : item.toolIds ⊆ boundary.allowedToolIds
  classification : item.dataClassification ∈ boundary.allowedClassifications
  classification_rank : item.dataClassification.rank ≤ context.dataClassification.rank
  evidence : ∀ evidence, item.evidence = some evidence → AdmitsEvidence context item evidence
  current : item.required = true → item.freshness = .current
  injection : item.source = .external →
    injectionPatterns.all (fun pattern => !pattern.search item.content) = true

theorem validateSegment_eq_ok_iff {context : ExecutionContextView}
    {boundary : BackendContextAuthorization} {activeScopeRefs : List String}
    {item : ContextSegment} :
    validateSegment context boundary activeScopeRefs item = .ok () ↔
      Admits context boundary activeScopeRefs item := by
  simp only [validateSegment, check_bind_eq_ok, raiseUnless_eq_ok_iff, requireSubset_eq_ok_iff,
    validateEvidence?_eq_ok_iff]
  refine ⟨?_, ?_⟩
  · intro h
    rcases h with ⟨scope, permission, tool, ⟨classification, rank⟩, evidence, current, injection⟩
    exact ⟨scope, permission, tool, classification, rank, evidence, current, injection⟩
  · intro a
    exact ⟨a.scopeRefs, a.permissionRefs, a.toolIds,
      ⟨a.classification, a.classification_rank⟩, a.evidence, a.current, a.injection⟩

theorem validateSegments_eq_ok_iff {segments : List ContextSegment}
    {context : ExecutionContextView} {boundary : BackendContextAuthorization}
    {activeScopeRefs : List String} :
    validateSegments segments context boundary activeScopeRefs = .ok () ↔
      ∀ item ∈ segments, Admits context boundary activeScopeRefs item := by
  simp only [validateSegments, forM_eq_ok_iff, validateSegment_eq_ok_iff]

end ContextSafetyGuard

end Genesis

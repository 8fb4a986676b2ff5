import Genesis.Limits

/-!
# Context models

The typed models of bounded context building.  Where a model has constraints,
its raw fields come first, `WellFormed` states the constraints, the model itself
carries their proof, and `ofFields` is the validating constructor.
-/

namespace Genesis

open Py

def CONTEXT_BUNDLE_SCHEMA : String :=
  "https://schemas.alos.dev/v1/context/context-bundle.schema.json"

/-! ## Enumerations -/

inductive DataClassification : Type
  | publicData
  | internal
  | confidential
  | restricted
  deriving DecidableEq

namespace DataClassification

def value : DataClassification → String
  | .publicData => "PUBLIC"
  | .internal => "INTERNAL"
  | .confidential => "CONFIDENTIAL"
  | .restricted => "RESTRICTED"

/-- `_CLASSIFICATION_RANK`. -/
def rank : DataClassification → ℕ
  | .publicData => 0
  | .internal => 1
  | .confidential => 2
  | .restricted => 3

def ofValue? (s : String) : Option DataClassification :=
  [publicData, internal, confidential, restricted].find? fun c => c.value = s

theorem value_of_ofValue? {s : String} {c : DataClassification} (parsed : ofValue? s = some c) :
    c.value = s := by
  have found := List.find?_some parsed
  simpa using found

@[simp] theorem ofValue?_value (c : DataClassification) : ofValue? c.value = some c := by
  cases c <;> decide

end DataClassification

inductive ContextSource : Type
  | system
  | internal
  | memory
  | external
  deriving DecidableEq

def ContextSource.value : ContextSource → String
  | .system => "SYSTEM"
  | .internal => "INTERNAL"
  | .memory => "MEMORY"
  | .external => "EXTERNAL"

inductive ContextTrust : Type
  | governed
  | untrusted
  deriving DecidableEq

def ContextTrust.value : ContextTrust → String
  | .governed => "GOVERNED"
  | .untrusted => "UNTRUSTED"

inductive Freshness : Type
  | current
  | stale
  | unknown
  deriving DecidableEq

def Freshness.value : Freshness → String
  | .current => "CURRENT"
  | .stale => "STALE"
  | .unknown => "UNKNOWN"

inductive ContextPriority : Type
  | systemSecurityAuthority
  | executionContextScope
  | userGoal
  | requiredBusinessContext
  | authoritativeEvidence
  | relevantMemory
  | externalContext
  | supportingContext
  deriving DecidableEq

/-- `int(priority)`. -/
def ContextPriority.toNat : ContextPriority → ℕ
  | .systemSecurityAuthority => 1
  | .executionContextScope => 2
  | .userGoal => 3
  | .requiredBusinessContext => 4
  | .authoritativeEvidence => 5
  | .relevantMemory => 6
  | .externalContext => 7
  | .supportingContext => 8

inductive AuthorityLevel : Type
  | requester
  | operator
  | itApprover
  | directorApprover
  | system
  deriving DecidableEq

def AuthorityLevel.value : AuthorityLevel → String
  | .requester => "REQUESTER"
  | .operator => "OPERATOR"
  | .itApprover => "IT_APPROVER"
  | .directorApprover => "DIRECTOR_APPROVER"
  | .system => "SYSTEM"

def AuthorityLevel.ofValue? (s : String) : Option AuthorityLevel :=
  [requester, operator, itApprover, directorApprover, system].find? fun l => l.value = s

/-- The `source_type` of an evidence reference. -/
inductive SourceType : Type
  | internal
  | external
  deriving DecidableEq

def SourceType.value : SourceType → String
  | .internal => "INTERNAL"
  | .external => "EXTERNAL"

inductive Reliability : Type
  | unverified
  | low
  | medium
  | high
  deriving DecidableEq

def Reliability.value : Reliability → String
  | .unverified => "UNVERIFIED"
  | .low => "LOW"
  | .medium => "MEDIUM"
  | .high => "HIGH"

inductive ValidationStatus : Type
  | pending
  | valid
  | invalid
  | waived
  deriving DecidableEq

def ValidationStatus.value : ValidationStatus → String
  | .pending => "PENDING"
  | .valid => "VALID"
  | .invalid => "INVALID"
  | .waived => "WAIVED"

/-! ## Field constraints -/

/-- `Field(min_length=lo, max_length=hi)`. -/
abbrev LengthIn (lo hi : ℕ) (s : String) : Prop := lo ≤ s.length ∧ s.length ≤ hi

/-- The constraint on identifiers. -/
abbrev IdLength (s : String) : Prop := LengthIn 3 128 s

/-- `0`, or digits without a leading zero. -/
def isNumeral : List Char → Bool
  | [] => false
  | [c] => c.isDigit
  | c :: digits => c.isDigit && c ≠ '0' && digits.all Char.isDigit

/-- `extra="forbid"` together with a required or defaulted field list. -/
def forbidExtra (model : String) (known : List String) (raw : JsonObject) :
    Except PyException Unit :=
  if raw.all fun kv => kv.1 ∈ known then .ok () else .error (.validationError model)

def strField (model : String) (raw : JsonObject) (key : String) : Except PyException String :=
  match raw.get? key with
  | some (.str s) => .ok s
  | _ => .error (.validationError model)

theorem strField_eq_ok_iff {model key s : String} {raw : JsonObject} :
    strField model raw key = .ok s ↔ raw.get? key = some (.str s) := by
  unfold strField
  split
  · next found => simp [found]
  · next other => exact ⟨nofun, fun found => absurd found (other s)⟩

def strItems : List Json → Option (List String)
  | [] => some []
  | .str s :: rest => (strItems rest).map (s :: ·)
  | _ :: _ => none

/-- A `tuple[str, ...]` field, `default` being its value when absent. -/
def strTupleField (model : String) (raw : JsonObject) (key : String)
    (default : Option (List String)) : Except PyException (List String) :=
  match raw.get? key, default with
  | none, some xs => .ok xs
  | some (.arr items), _ =>
    match strItems items with
    | some xs => .ok xs
    | none => .error (.validationError model)
  | _, _ => .error (.validationError model)

def strTuple (xs : List String) : Json := .arr (xs.map .str)

/-! ## Authority and execution context -/

structure AuthorityContext where
  role : String
  roleRefs : List String := []
  authorityLevel : AuthorityLevel
  role_length : LengthIn 1 128 role := by decide
  deriving DecidableEq

namespace AuthorityContext

/-- `AuthorityContext.model_validate`. -/
def modelValidate (raw : JsonObject) : Except PyException AuthorityContext := do
  forbidExtra "AuthorityContext" ["role", "role_refs", "authority_level"] raw
  let role ← strField "AuthorityContext" raw "role"
  let roleRefs ← strTupleField "AuthorityContext" raw "role_refs" (some [])
  let level ← strField "AuthorityContext" raw "authority_level"
  match AuthorityLevel.ofValue? level with
  | none => .error (.validationError "AuthorityContext")
  | some authorityLevel =>
    construct "AuthorityContext" fun role_length : LengthIn 1 128 role =>
      { role, roleRefs, authorityLevel, role_length }

/-- `model_dump(mode="json")`. -/
def modelDump (context : AuthorityContext) : Json :=
  .obj [("role", .str context.role), ("role_refs", strTuple context.roleRefs),
    ("authority_level", .str context.authorityLevel.value)]

end AuthorityContext

structure ExecutionContextFields where
  tenantId : String
  organizationId : String
  workspaceId : String
  actorId : String
  authorityContext : AuthorityContext
  permissionRefs : List String := []
  allowedToolIds : List String := []
  scopeRefs : List String
  dataClassification : DataClassification
  correlationId : String
  executionBudget : ExecutionBudget
  deriving DecidableEq

abbrev ExecutionContextFields.WellFormed (c : ExecutionContextFields) : Prop :=
  IdLength c.tenantId ∧ IdLength c.organizationId ∧ IdLength c.workspaceId ∧ IdLength c.actorId ∧
    c.scopeRefs ≠ [] ∧ IdLength c.correlationId

structure ExecutionContextView extends ExecutionContextFields where
  wellFormed : toExecutionContextFields.WellFormed
  deriving DecidableEq

namespace ExecutionContextView

def keys : List String :=
  ["tenant_id", "organization_id", "workspace_id", "actor_id", "authority_context",
    "permission_refs", "allowed_tool_ids", "scope_refs", "data_classification", "correlation_id",
    "execution_budget"]

/-- A field that is itself a model. -/
def modelField {α : Type} (validate : JsonObject → Except PyException α) (raw : JsonObject)
    (key : String) : Except PyException α :=
  match raw.get? key with
  | some (.obj fields) => validate fields
  | _ => .error (.validationError "ExecutionContextView")

/-- `ExecutionContextView.model_validate`. -/
def modelValidate (platform : Platform) (raw : JsonObject) :
    Except PyException ExecutionContextView := do
  let model := "ExecutionContextView"
  forbidExtra model keys raw
  let tenantId ← strField model raw "tenant_id"
  let organizationId ← strField model raw "organization_id"
  let workspaceId ← strField model raw "workspace_id"
  let actorId ← strField model raw "actor_id"
  let authorityContext ← modelField AuthorityContext.modelValidate raw "authority_context"
  let permissionRefs ← strTupleField model raw "permission_refs" (some [])
  let allowedToolIds ← strTupleField model raw "allowed_tool_ids" (some [])
  let scopeRefs ← strTupleField model raw "scope_refs" none
  let classification ← strField model raw "data_classification"
  let correlationId ← strField model raw "correlation_id"
  let executionBudget ← modelField (ExecutionBudget.modelValidate platform) raw "execution_budget"
  match DataClassification.ofValue? classification with
  | none => .error (.validationError model)
  | some dataClassification =>
    let fields : ExecutionContextFields :=
      { tenantId, organizationId, workspaceId, actorId, authorityContext, permissionRefs,
        allowedToolIds, scopeRefs, dataClassification, correlationId, executionBudget }
    construct model fun wellFormed : fields.WellFormed => ⟨fields, wellFormed⟩

/-- The view has the identity of the document it was read from. -/
structure Identifies (raw : JsonObject) (view : ExecutionContextView) : Prop where
  tenantId : raw.get? "tenant_id" = some (.str view.tenantId)
  organizationId : raw.get? "organization_id" = some (.str view.organizationId)
  workspaceId : raw.get? "workspace_id" = some (.str view.workspaceId)
  actorId : raw.get? "actor_id" = some (.str view.actorId)
  correlationId : raw.get? "correlation_id" = some (.str view.correlationId)

theorem identifies_of_modelValidate {platform : Platform} {raw : JsonObject}
    {view : ExecutionContextView} (valid : modelValidate platform raw = .ok view) :
    Identifies raw view := by
  simp only [modelValidate, except_bind_eq_ok, strField_eq_ok_iff] at valid
  rcases valid with ⟨-, -, tenantId, tenant, organizationId, organization, workspaceId, workspace,
    actorId, actor, _, _, _, _, _, _, _, _, _, _, correlationId, correlation, _, _, built⟩
  split at built
  · cases built
  · obtain ⟨_, rfl⟩ := construct_eq_ok_iff.mp built
    exact ⟨tenant, organization, workspace, actor, correlation⟩

end ExecutionContextView

/-- The Backend-issued boundary. -/
structure BackendContextAuthorization where
  tenantId : String
  organizationId : String
  workspaceId : String
  actorId : String
  allowedRoleRefs : List String
  allowedAuthorityLevels : List AuthorityLevel
  allowedScopeRefs : List String
  allowedPermissionRefs : List String := []
  allowedToolIds : List String := []
  allowedClassifications : List DataClassification
  wellFormed : IdLength tenantId ∧ IdLength organizationId ∧ IdLength workspaceId ∧
    IdLength actorId ∧ allowedRoleRefs ≠ [] ∧ allowedAuthorityLevels ≠ [] ∧
    allowedScopeRefs ≠ [] ∧ allowedClassifications ≠ [] := by decide
  deriving DecidableEq

structure ContextScope where
  divisionRefs : List String := []
  projectRefs : List String := []
  businessScope : divisionRefs ≠ [] ∨ projectRefs ≠ [] := by decide
  deriving DecidableEq

def ContextScope.allRefs (scope : ContextScope) : List String :=
  fromKeys (scope.divisionRefs ++ scope.projectRefs)

/-- `model_dump(mode="json")`. -/
def ContextScope.modelDump (scope : ContextScope) : Json :=
  .obj [("division_refs", strTuple scope.divisionRefs),
    ("project_refs", strTuple scope.projectRefs)]

/-! ## Evidence and segments -/

/-- An aware `datetime`, given by its ISO text in UTC. -/
structure Timestamp where
  iso : String
  deriving DecidableEq

structure EvidenceFields where
  tenantId : String
  organizationId : String
  workspaceId : String
  runId : String
  correlationId : String
  scopeRefs : List String
  evidenceId : String
  sourceId : String
  uri : String
  capturedAt : Timestamp
  retrievedAt : Timestamp
  contentHash : String
  sourceVersion : String
  anchor : String
  excerpt : String := ""
  dataClassification : DataClassification
  sourceType : SourceType
  freshness : Freshness
  reliability : Reliability
  contentTrust : ContextTrust
  validationStatus : ValidationStatus
  metadata : JsonObject := []
  deriving DecidableEq

def isHexDigit (c : Char) : Bool := c.isDigit || ('a' ≤ c && c ≤ 'f')

/-- `^sha256:[a-f0-9]{64}$`. -/
def IsContentHash (s : String) : Prop :=
  s.toList.take 7 = "sha256:".toList ∧ s.toList.length = 71 ∧ (s.toList.drop 7).all isHexDigit

instance (s : String) : Decidable (IsContentHash s) := inferInstanceAs (Decidable (_ ∧ _))

abbrev EvidenceFields.WellFormed (e : EvidenceFields) : Prop :=
  IdLength e.tenantId ∧ IdLength e.organizationId ∧ IdLength e.workspaceId ∧ IdLength e.runId ∧
    IdLength e.correlationId ∧ e.scopeRefs ≠ [] ∧ IdLength e.evidenceId ∧ IdLength e.sourceId ∧
    1 ≤ e.uri.length ∧ IsContentHash e.contentHash ∧ 1 ≤ e.sourceVersion.length ∧
    1 ≤ e.anchor.length ∧ (e.sourceType = .external → e.contentTrust = .untrusted)

structure EvidenceReference extends EvidenceFields where
  wellFormed : toEvidenceFields.WellFormed
  deriving DecidableEq

/-- `model_dump(mode="json", exclude_none=True)`. -/
def EvidenceReference.modelDump (e : EvidenceReference) : JsonObject :=
  [("tenant_id", .str e.tenantId), ("organization_id", .str e.organizationId),
    ("workspace_id", .str e.workspaceId), ("run_id", .str e.runId),
    ("correlation_id", .str e.correlationId), ("scope_refs", strTuple e.scopeRefs),
    ("evidence_id", .str e.evidenceId), ("source_id", .str e.sourceId), ("uri", .str e.uri),
    ("captured_at", .str e.capturedAt.iso), ("retrieved_at", .str e.retrievedAt.iso),
    ("content_hash", .str e.contentHash), ("source_version", .str e.sourceVersion),
    ("anchor", .str e.anchor), ("excerpt", .str e.excerpt),
    ("data_classification", .str e.dataClassification.value),
    ("source_type", .str e.sourceType.value), ("freshness", .str e.freshness.value),
    ("reliability", .str e.reliability.value), ("content_trust", .str e.contentTrust.value),
    ("instruction_authority", .bool false),
    ("validation_status", .str e.validationStatus.value), ("metadata", .obj e.metadata)]

structure SegmentFields where
  segmentId : String
  key : String
  content : String
  priority : ContextPriority
  source : ContextSource
  trust : ContextTrust
  freshness : Freshness := .current
  dataClassification : DataClassification
  scopeRefs : List String
  permissionRefs : List String := []
  toolIds : List String := []
  evidence : Option EvidenceReference := none
  memoryRef : Option String := none
  deriving DecidableEq

/-- The field constraints and `enforce_source_semantics`. -/
abbrev SegmentFields.WellFormed (s : SegmentFields) : Prop :=
  IdLength s.segmentId ∧ LengthIn 1 128 s.key ∧ LengthIn 1 200000 s.content ∧ s.scopeRefs ≠ [] ∧
    (∀ ref ∈ s.memoryRef, IdLength ref) ∧
    (s.source = .external → s.trust = .untrusted) ∧
    (s.priority = .authoritativeEvidence → s.evidence ≠ none) ∧
    (s.source = .memory → s.memoryRef ≠ none)

/-- Already-authorized candidate context. -/
structure ContextSegment extends SegmentFields where
  wellFormed : toSegmentFields.WellFormed
  deriving DecidableEq

namespace ContextSegment

/-- `ContextSegment(...)`. -/
def ofFields (fields : SegmentFields) : Except PyException ContextSegment :=
  construct "ContextSegment" fun wellFormed : fields.WellFormed => ⟨fields, wellFormed⟩

theorem ofFields_eq_ok_iff {fields : SegmentFields} {segment : ContextSegment} :
    ofFields fields = .ok segment ↔ segment.toSegmentFields = fields := by
  rw [ofFields, construct_eq_ok_iff]
  refine ⟨?_, ?_⟩
  · intro h
    rcases h with ⟨_, rfl⟩
    rfl
  · intro h
    subst h
    exact ⟨segment.wellFormed, rfl⟩

def sizeCharacters (s : ContextSegment) : ℕ := s.content.length

def required (s : ContextSegment) : Bool :=
  s.priority.toNat ≤ ContextPriority.authoritativeEvidence.toNat

theorem required_of_priority_le {item : ContextSegment}
    (reserved : item.priority.toNat ≤ 3) : item.required = true := by
  have limit : ContextPriority.authoritativeEvidence.toNat = 5 := rfl
  rw [required, decide_eq_true_eq, limit]
  omega

end ContextSegment

/-! ## Selections and bundles -/

structure ContextSelectionMetadata where
  maximumCharacters : ℤ
  selectedCharacters : ℕ
  selectedSegmentIds : List String
  droppedSegmentIds : List String
  reasonBySegment : Dict String
  deriving DecidableEq

structure ContextSelection where
  selected : List ContextSegment
  dropped : List ContextSegment
  metadata : ContextSelectionMetadata
  deriving DecidableEq

structure BundleFields where
  contextId : String
  goal : String
  actorId : String
  tenantId : String
  organizationId : String
  workspaceId : String
  authorityContext : AuthorityContext
  scope : ContextScope
  capabilityId : String
  allowedToolIds : List String
  executionBudget : ExecutionBudget
  memoryRefs : List String
  evidenceRefs : List EvidenceReference
  correlationId : String
  selectedSegments : List ContextSegment
  selection : ContextSelectionMetadata
  canonicalContextBundle : JsonObject
  deriving DecidableEq

abbrev BundleFields.WellFormed (b : BundleFields) : Prop :=
  IdLength b.contextId ∧ 1 ≤ b.goal.length ∧ IdLength b.capabilityId

/-- Runtime wrapper around a canonical bundle. -/
structure RuntimeContextBundle extends BundleFields where
  wellFormed : toBundleFields.WellFormed
  deriving DecidableEq

/-- `RuntimeContextBundle(...)`. -/
def RuntimeContextBundle.ofFields (fields : BundleFields) :
    Except PyException RuntimeContextBundle :=
  construct "RuntimeContextBundle" fun wellFormed : fields.WellFormed => ⟨fields, wellFormed⟩

theorem RuntimeContextBundle.ofFields_eq_ok_iff {fields : BundleFields}
    {bundle : RuntimeContextBundle} :
    ofFields fields = .ok bundle ↔ bundle.toBundleFields = fields := by
  rw [ofFields, construct_eq_ok_iff]
  refine ⟨?_, ?_⟩
  · intro h
    rcases h with ⟨_, rfl⟩
    rfl
  · intro h
    subst h
    exact ⟨bundle.wellFormed, rfl⟩

end Genesis

import Genesis.Context.Models

/-!
# Models of capability resolution

Requirements, the items of the Backend's capability catalog, and what is
understood and resolved of a requirement, with their JSON forms.
-/

namespace Genesis

open Py

/-! ## Enumerations -/

inductive CapabilityType : Type
  | agent
  | skill
  | workflow
  | rule
  | validator
  | report
  | humanTask
  | schedule
  | eventHandler
  | connectorRequirement
  | toolRequirement
  | composite
  deriving DecidableEq

def CapabilityType.value : CapabilityType → String
  | .agent => "AGENT"
  | .skill => "SKILL"
  | .workflow => "WORKFLOW"
  | .rule => "RULE"
  | .validator => "VALIDATOR"
  | .report => "REPORT"
  | .humanTask => "HUMAN_TASK"
  | .schedule => "SCHEDULE"
  | .eventHandler => "EVENT_HANDLER"
  | .connectorRequirement => "CONNECTOR_REQUIREMENT"
  | .toolRequirement => "TOOL_REQUIREMENT"
  | .composite => "COMPOSITE"

inductive RiskLevel : Type
  | low
  | medium
  | high
  | critical
  deriving DecidableEq

namespace RiskLevel

def value : RiskLevel → String
  | .low => "LOW"
  | .medium => "MEDIUM"
  | .high => "HIGH"
  | .critical => "CRITICAL"

def ofValue? (s : String) : Option RiskLevel :=
  [low, medium, high, critical].find? fun level => level.value = s

end RiskLevel

inductive Availability : Type
  | available
  | unavailable
  | degraded
  deriving DecidableEq

def Availability.value : Availability → String
  | .available => "AVAILABLE"
  | .unavailable => "UNAVAILABLE"
  | .degraded => "DEGRADED"

inductive ConfigurationStatus : Type
  | configured
  | needsConfiguration
  | notApplicable
  deriving DecidableEq

def ConfigurationStatus.value : ConfigurationStatus → String
  | .configured => "CONFIGURED"
  | .needsConfiguration => "NEEDS_CONFIGURATION"
  | .notApplicable => "NOT_APPLICABLE"

inductive Ambiguity : Type
  | none
  | needsClarification
  deriving DecidableEq

def Ambiguity.value : Ambiguity → String
  | .none => "NONE"
  | .needsClarification => "NEEDS_CLARIFICATION"

inductive ResolutionDecision : Type
  | reuse
  | create
  deriving DecidableEq

def ResolutionDecision.value : ResolutionDecision → String
  | .reuse => "REUSE"
  | .create => "CREATE"

inductive ActivationReadiness : Type
  | readyForReuse
  | readyForDraft
  | needsConfiguration
  deriving DecidableEq

def ActivationReadiness.value : ActivationReadiness → String
  | .readyForReuse => "READY_FOR_REUSE"
  | .readyForDraft => "READY_FOR_DRAFT"
  | .needsConfiguration => "NEEDS_CONFIGURATION"

/-! ## Requirements and catalogs -/

/-- Three numerals. -/
def IsReleaseVersion (s : String) : Prop :=
  let parts := s.toList.splitOn '.'
  parts.length = 3 ∧ parts.all isNumeral

instance decidableIsReleaseVersion (s : String) : Decidable (IsReleaseVersion s) :=
  inferInstanceAs (Decidable (_ ∧ _))

structure RequirementFields where
  tenantId : String
  organizationId : String
  workspaceId : String
  actorId : String
  correlationId : String
  requirementId : Option String := none
  statement : String
  scopeRefs : List String
  permissionRefs : List String := []
  dataClassification : DataClassification := .internal
  preferredCapabilityType : Option CapabilityType := none
  deriving DecidableEq

abbrev RequirementFields.WellFormed (r : RequirementFields) : Prop :=
  IdLength r.tenantId ∧ IdLength r.organizationId ∧ IdLength r.workspaceId ∧ IdLength r.actorId ∧
    IdLength r.correlationId ∧ (∀ id ∈ r.requirementId, IdLength id) ∧
    LengthIn 20 10000 r.statement ∧ r.scopeRefs ≠ []

structure Requirement extends RequirementFields where
  wellFormed : toRequirementFields.WellFormed
  deriving DecidableEq

structure CapabilityCatalogItem where
  capabilityId : String
  version : String
  name : String
  purpose : String
  capabilityType : CapabilityType
  riskLevel : RiskLevel := .low
  availability : Availability := .available
  configurationStatus : ConfigurationStatus := .configured
  backingToolIds : List String := []
  permissionRefs : List String := []
  scopeRefs : List String := []
  keywords : List String := []
  wellFormed : IdLength capabilityId ∧ IsReleaseVersion version ∧ 1 ≤ name.length ∧
    1 ≤ purpose.length := by decide
  deriving DecidableEq

/-- `model_dump(mode="json")`. -/
def CapabilityCatalogItem.modelDump (item : CapabilityCatalogItem) : Json :=
  .obj [("capability_id", .str item.capabilityId), ("version", .str item.version),
    ("name", .str item.name), ("purpose", .str item.purpose),
    ("capability_type", .str item.capabilityType.value), ("risk_level", .str item.riskLevel.value),
    ("availability", .str item.availability.value),
    ("configuration_status", .str item.configurationStatus.value),
    ("backing_tool_ids", strTuple item.backingToolIds),
    ("permission_refs", strTuple item.permissionRefs), ("scope_refs", strTuple item.scopeRefs),
    ("keywords", strTuple item.keywords)]

/-! ## Understanding and resolution -/

structure RequirementUnderstanding where
  requirementId : Option String := none
  objective : Option String := none
  trigger : Option String := none
  capabilityNeed : List String := []
  dataNeed : List String := []
  sourceSemantics : List String := []
  ambiguity : Ambiguity := .none
  normalizedIntent : String
  domains : List String
  candidateCapabilityIds : List String
  recommendedType : CapabilityType
  riskLevel : RiskLevel
  requiresAgent : Bool
  rationale : List String
  deriving DecidableEq

/-- An optional field of a JSON form that omits `None`. -/
def optionalText (key : String) (value : Option String) : JsonObject :=
  value.toList.map fun s => (key, .str s)

/-- The JSON form of an understanding omits what is `None`. -/
def RequirementUnderstanding.modelDump (understanding : RequirementUnderstanding) : Json :=
  .obj (optionalText "requirement_id" understanding.requirementId ++
    optionalText "objective" understanding.objective ++
    optionalText "trigger" understanding.trigger ++
    [("capability_need", strTuple understanding.capabilityNeed),
      ("data_need", strTuple understanding.dataNeed),
      ("source_semantics", strTuple understanding.sourceSemantics),
      ("ambiguity", .str understanding.ambiguity.value),
      ("normalized_intent", .str understanding.normalizedIntent),
      ("domains", strTuple understanding.domains),
      ("candidate_capability_ids", strTuple understanding.candidateCapabilityIds),
      ("recommended_type", .str understanding.recommendedType.value),
      ("risk_level", .str understanding.riskLevel.value),
      ("requires_agent", .bool understanding.requiresAgent),
      ("rationale", strTuple understanding.rationale)])

structure ResolutionFields where
  understanding : RequirementUnderstanding
  decision : ResolutionDecision
  reason : String
  purpose : String
  scopeRefs : List String
  resolved : List CapabilityCatalogItem
  missingCapabilityIds : List String
  requiredToolIds : List String
  requiredPermissionRefs : List String
  evidenceRequirements : List String
  testRequirements : List String
  activationReadiness : ActivationReadiness
  humanGateRequired : Bool := true
  deriving DecidableEq

abbrev ResolutionFields.WellFormed (r : ResolutionFields) : Prop :=
  1 ≤ r.reason.length ∧ 1 ≤ r.purpose.length ∧ r.scopeRefs ≠ [] ∧
    r.evidenceRequirements ≠ [] ∧ r.testRequirements ≠ []

structure CapabilityResolution extends ResolutionFields where
  wellFormed : toResolutionFields.WellFormed
  deriving DecidableEq

namespace CapabilityResolution

/-- `CapabilityResolution(...)`. -/
def ofFields (fields : ResolutionFields) : Except PyException CapabilityResolution :=
  construct "CapabilityResolution" fun wellFormed : fields.WellFormed => ⟨fields, wellFormed⟩

theorem fields_of_ofFields {fields : ResolutionFields} {resolution : CapabilityResolution}
    (built : ofFields fields = .ok resolution) : resolution.toResolutionFields = fields := by
  obtain ⟨_, rfl⟩ := construct_eq_ok_iff.mp built
  rfl

/-- `model_dump(mode="json")`. -/
def modelDump (resolution : CapabilityResolution) : Json :=
  .obj [("understanding", resolution.understanding.modelDump),
    ("decision", .str resolution.decision.value), ("reason", .str resolution.reason),
    ("purpose", .str resolution.purpose), ("scope_refs", strTuple resolution.scopeRefs),
    ("resolved", .arr (resolution.resolved.map CapabilityCatalogItem.modelDump)),
    ("missing_capability_ids", strTuple resolution.missingCapabilityIds),
    ("required_tool_ids", strTuple resolution.requiredToolIds),
    ("required_permission_refs", strTuple resolution.requiredPermissionRefs),
    ("evidence_requirements", strTuple resolution.evidenceRequirements),
    ("test_requirements", strTuple resolution.testRequirements),
    ("activation_readiness", .str resolution.activationReadiness.value),
    ("human_gate_required", .bool resolution.humanGateRequired)]

end CapabilityResolution

end Genesis

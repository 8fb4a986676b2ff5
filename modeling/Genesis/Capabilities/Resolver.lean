import Mathlib.Data.Prod.Lex
import Genesis.Lib.Priority
import Genesis.Lib.Text
import Genesis.Capabilities.Models

/-!
# The capability resolver

`understand` reads candidate capabilities off a requirement, `resolve` looks them
up in the catalog of the Backend.  `resolved_eq` takes the ranking apart: what is
resolved is the ranking of the candidate items alone, whatever else the catalog
contains, so a resolution sees of a catalog its candidate items only.
-/

namespace Genesis

open Py Priority

/-- `_CAPABILITY_HINTS`. -/
def CAPABILITY_HINTS : List (List String × List String) :=
  [(["task", "tugas", "overdue", "terlambat"], ["task.list", "task.read"]),
    (["finding", "temuan", "risk", "risiko", "gap"], ["finding.create"]),
    (["document", "dokumen", "contract", "kontrak", "policy"],
      ["document.search", "document.read"]),
    (["compare", "banding", "conflict", "konflik"], ["document.compare"]),
    (["project", "proyek"], ["project.list", "project.read"]),
    (["report", "laporan", "brief"], ["report.generate"]),
    (["approval", "persetujuan"], ["approval.request"])]

/-- `_DOMAIN_HINTS`. -/
def DOMAIN_HINTS : List (String × List String) :=
  [("finance", ["finance", "keuangan", "budget", "biaya"]),
    ("property", ["property", "properti", "tenant", "lease"]),
    ("hr", ["hr", "sdm", "employee", "karyawan"]),
    ("legal", ["legal", "hukum", "contract", "kontrak"]),
    ("technology", ["technology", "teknologi", "software", "system", "sistem"]),
    ("sales", ["sales", "marketing", "penjualan", "pemasaran"])]

structure CapabilityResolver where
  unicode : Unicode

namespace CapabilityResolver

/-! ## Understanding -/

/-- `any(word in statement for word in words)`. -/
def mentions (statement : String) (words : List String) : Bool :=
  words.any fun word => isIn word statement

/-- `_classify_type`. -/
def classifyType (statement : String) (candidateCount : ℕ) : CapabilityType :=
  if mentions statement ["agent", "assistant", "koordinator"] then .agent
  else if mentions statement ["human task", "tugas manusia", "manual review"] then .humanTask
  else if mentions statement ["rule", "aturan", "policy", "kebijakan"] then .rule
  else if mentions statement ["workflow", "alur", "proses"] then .workflow
  else if mentions statement ["validate", "validasi", "checker"] then .validator
  else if mentions statement ["schedule", "jadwal", "monitor"] then .schedule
  else if mentions statement ["report", "laporan", "brief"] then .report
  else if 3 < candidateCount then .composite
  else .skill

/-- `_risk`. -/
def risk (statement : String) (capabilities : List String) : RiskLevel :=
  if mentions statement ["payment", "pembayaran", "release", "approve"] then .high
  else if capabilities.any fun key =>
    !([".read", ".list", ".search"].any fun suffix => endsWith key suffix) then .medium
  else .low

/-- `_tokens`. -/
def tokens (value : String) : List String :=
  (findallRuns isWordChar value).filter fun token => 2 < token.length

/-- `" ".join(statement.casefold().split())`. -/
def normalize (resolver : CapabilityResolver) (statement : String) : String :=
  join " " (split (resolver.unicode.casefold statement))

/-- The candidate capabilities of a normalized statement. -/
def candidates (normalized : String) : List String :=
  let hinted := (CAPABILITY_HINTS.filter fun hint => mentions normalized hint.1).flatMap Prod.snd
  if hinted = [] then ["global.search", "organization.context.read"] else hinted

def domainsOf (normalized : String) : List String :=
  let domains := (DOMAIN_HINTS.filter fun hint => mentions normalized hint.2).map Prod.fst
  if domains = [] then ["general"] else domains

/-- `understand`. -/
def understand (resolver : CapabilityResolver) (requirement : Requirement) :
    RequirementUnderstanding :=
  let normalized := resolver.normalize requirement.statement
  let candidates := candidates normalized
  let distinct := (fromKeys candidates).length
  let recommendedType :=
    requirement.preferredCapabilityType.getD (classifyType normalized distinct)
  let requiresAgent := recommendedType ∈ [CapabilityType.agent, .composite]
  { requirementId := requirement.requirementId
    normalizedIntent := normalized
    domains := domainsOf normalized
    candidateCapabilityIds := fromKeys candidates
    recommendedType
    riskLevel := risk normalized candidates
    requiresAgent
    rationale :=
      [s!"Matched {distinct} capability intent(s).",
        "Classified delivery as " ++ recommendedType.value ++ "."] ++
      if requiresAgent then []
      else ["Capability-first policy does not require an Agent runtime."] }

/-! ## Ranking -/

structure Ranked where
  score : ℕ
  item : CapabilityCatalogItem
  deriving DecidableEq

/-- The item is one of the candidates. -/
def isRequested (understanding : RequirementUnderstanding) (item : CapabilityCatalogItem) : Bool :=
  item.capabilityId ∈ understanding.candidateCapabilityIds

/-- The score of an item: the terms it contains, and 100 if it is a candidate. -/
def rank (resolver : CapabilityResolver) (understanding : RequirementUnderstanding)
    (item : CapabilityCatalogItem) : Ranked :=
  let terms := fromKeys (tokens understanding.normalizedIntent)
  let searchable := resolver.unicode.casefold
    (join " " ([item.capabilityId, item.name, item.purpose] ++ item.keywords))
  let matched := (terms.filter fun term => isIn term searchable).length
  { score := if isRequested understanding item then matched + 100 else matched, item }

/-- `(-score, capability_id)`. -/
def rankKey (ranked : Ranked) : ℤ ×ₗ String :=
  toLex (-(ranked.score : ℤ), ranked.item.capabilityId)

/-- `ranked_matches`. -/
def rankedMatches (resolver : CapabilityResolver) (understanding : RequirementUnderstanding)
    (catalog : List CapabilityCatalogItem) : List CapabilityCatalogItem :=
  (sortBy rankKey ((catalog.map (resolver.rank understanding)).filter fun ranked =>
    ranked.score ≠ 0)).map Ranked.item

/-- `resolved`. -/
def resolved (resolver : CapabilityResolver) (understanding : RequirementUnderstanding)
    (catalog : List CapabilityCatalogItem) : List CapabilityCatalogItem :=
  (resolver.rankedMatches understanding catalog).filter (isRequested understanding)

/-! ## Resolution -/

/-- The item cannot be used as it is. -/
def isUnavailable (item : CapabilityCatalogItem) : Bool :=
  item.availability ≠ .available ||
    item.configurationStatus ∉ [ConfigurationStatus.configured, .notApplicable]

/-- `_decision_reason`. -/
def decisionReason (decision : ResolutionDecision) (resolved : List CapabilityCatalogItem)
    (missing : List String) (unavailable : Bool) : String :=
  if decision = .reuse then
    let identifiers := join ", " (resolved.map CapabilityCatalogItem.capabilityId)
    s!"Authoritative Backend catalog satisfies the requirement: {identifiers}."
  else if unavailable then
    "A matching Backend catalog capability is unavailable or not configured."
  else "Backend catalog does not contain all required capabilities: " ++ join ", " missing

/-- `_evidence_requirements`. -/
def evidenceRequirements (resolver : CapabilityResolver) (statement : String) : List String :=
  ["Cite every material conclusion to an immutable source or ToolResult.",
    "Preserve source_id, version, and retrieval timestamp in evidence lineage.",
    "Mark unsupported business truth as requiring human review."] ++
  if mentions (resolver.unicode.casefold statement) ["document", "dokumen", "contract"] then
    ["Bind document conclusions to source version and SHA-256."]
  else []

/-- `_test_requirements`. -/
def testRequirements (riskLevel : RiskLevel) (usesTools : Bool) : List String :=
  ["Positive test: valid authorized input produces schema-valid output.",
    "Negative test: invalid or unauthorized context fails closed.",
    "Contract test: output validates against alos-contracts."] ++
  (if usesTools ∨ riskLevel ∈ [RiskLevel.medium, .high, .critical] then
    ["Security test: scope and permission escalation is denied.",
      "Recovery test: Backend or tool failure remains bounded and structured."]
  else []) ++
  if riskLevel ∈ [RiskLevel.high, .critical] then
    ["Regression test: approved baseline behavior remains stable."]
  else []

/-- The fields of the resolution, from what is understood and resolved. -/
def resolution (resolver : CapabilityResolver) (requirement : Requirement)
    (understanding : RequirementUnderstanding) (resolved : List CapabilityCatalogItem) :
    ResolutionFields :=
  let missing := excess understanding.candidateCapabilityIds
    (resolved.map CapabilityCatalogItem.capabilityId)
  let unavailable := resolved.any isUnavailable
  let tools := fromKeys (resolved.flatMap CapabilityCatalogItem.backingToolIds)
  let permissions := fromKeys (resolved.flatMap CapabilityCatalogItem.permissionRefs)
  let decision : ResolutionDecision := if missing ≠ [] ∨ unavailable then .create else .reuse
  { understanding
    decision
    reason := decisionReason decision resolved missing unavailable
    purpose := strip requirement.statement
    scopeRefs := requirement.scopeRefs
    resolved
    missingCapabilityIds := missing
    requiredToolIds := tools
    requiredPermissionRefs := permissions
    evidenceRequirements := resolver.evidenceRequirements requirement.statement
    testRequirements := testRequirements understanding.riskLevel (tools ≠ [])
    activationReadiness :=
      if missing ≠ [] ∨ unavailable then .needsConfiguration else .readyForReuse }

/-- `resolve`. -/
def resolve (resolver : CapabilityResolver) (requirement : Requirement)
    (catalog : List CapabilityCatalogItem) : Except PyException CapabilityResolution :=
  let understanding := resolver.understand requirement
  CapabilityResolution.ofFields (resolver.resolution requirement understanding
    (resolver.resolved understanding catalog))

section

variable {resolver : CapabilityResolver} {understanding : RequirementUnderstanding}
  {requirement : Requirement} {catalog other : List CapabilityCatalogItem}

/-- A candidate item always scores. -/
theorem rank_score_ne_zero {item : CapabilityCatalogItem}
    (requested : isRequested understanding item = true) :
    (resolver.rank understanding item).score ≠ 0 := by
  unfold rank
  dsimp only
  rw [if_pos requested]
  omega

/-- What is resolved is the ranking of the candidate items alone. -/
theorem resolved_eq :
    resolver.resolved understanding catalog =
      (sortBy rankKey ((catalog.filter (isRequested understanding)).map
        (resolver.rank understanding))).map Ranked.item := by
  unfold resolved rankedMatches
  rw [List.filter_map, filter_sortBy, List.filter_filter, List.filter_map]
  have counts : catalog.filter (isRequested understanding) = catalog.filter
      ((fun ranked => (isRequested understanding ∘ Ranked.item) ranked && ranked.score ≠ 0) ∘
        resolver.rank understanding) := by
    apply List.filter_congr
    intro item _
    cases requested : isRequested understanding item with
    | false =>
      symm
      rw [Function.comp_apply, Bool.and_eq_false_iff]
      exact .inl requested
    | true =>
      symm
      rw [Function.comp_apply, Bool.and_eq_true, decide_eq_true_eq]
      exact ⟨requested, rank_score_ne_zero requested⟩
  rw [counts]

theorem mem_resolved {item : CapabilityCatalogItem} :
    item ∈ resolver.resolved understanding catalog ↔
      item ∈ catalog ∧ isRequested understanding item = true := by
  rw [resolved_eq, List.mem_map]
  simp only [(sortBy_perm _ _).mem_iff, List.mem_map, List.mem_filter]
  refine ⟨?_, ?_⟩
  · intro h
    rcases h with ⟨_, ⟨ranked, listed, rfl⟩, rfl⟩
    exact listed
  · intro listed
    exact ⟨_, ⟨item, listed, rfl⟩, rfl⟩

/-- Of two catalogs with the same candidate items the same is resolved. -/
theorem resolved_congr (same : catalog.filter (isRequested understanding) =
    other.filter (isRequested understanding)) :
    resolver.resolved understanding catalog = resolver.resolved understanding other := by
  rw [resolved_eq, resolved_eq, same]

/-- The references a resolution requires are those of its candidate items, once each. -/
theorem mem_required {select : CapabilityCatalogItem → List String} {ref : String} :
    ref ∈ fromKeys ((resolver.resolved understanding catalog).flatMap select) ↔
      ∃ item ∈ catalog, isRequested understanding item = true ∧ ref ∈ select item := by
  simp only [mem_fromKeys, List.mem_flatMap, mem_resolved, and_assoc]

end

end CapabilityResolver

end Genesis

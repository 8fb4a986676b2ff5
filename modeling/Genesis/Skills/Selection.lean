import Mathlib.Data.Prod.Lex
import Genesis.Skills.Loader

/-!
# Skill selection

`SkillSelector.select` judges every discovered package against the authorized
references and the effective tools, permissions and scopes, and keeps the best
of the eligible ones up to a bound.  `assess_selected_iff` says what a package
needs to be eligible, and `of_mem_selected` where a selected outcome comes from.
-/

namespace Genesis

open Py FileTree

inductive SkillSelectionStatus : Type
  | selected
  | unauthorized
  | versionMismatch
  | missingPackage
  | notRelevant
  | requiredToolUnavailable
  | requiredPermissionUnavailable
  | requiredScopeUnavailable
  deriving DecidableEq

def SkillSelectionStatus.value : SkillSelectionStatus → String
  | .selected => "SELECTED"
  | .unauthorized => "UNAUTHORIZED"
  | .versionMismatch => "VERSION_MISMATCH"
  | .missingPackage => "MISSING_PACKAGE"
  | .notRelevant => "NOT_RELEVANT"
  | .requiredToolUnavailable => "REQUIRED_TOOL_UNAVAILABLE"
  | .requiredPermissionUnavailable => "REQUIRED_PERMISSION_UNAVAILABLE"
  | .requiredScopeUnavailable => "REQUIRED_SCOPE_UNAVAILABLE"

structure SkillCandidateOutcome where
  reference : SkillReference
  status : SkillSelectionStatus
  relevanceScore : ℕ
  reason : String
  missingToolIds : List String := []
  descriptor : Option SkillDescriptor := none
  reason_nonempty : 1 ≤ reason.length := by decide

structure SkillSelection where
  selected : List SkillCandidateOutcome
  unavailable : List SkillCandidateOutcome
  effectiveToolIds : List String

/-- The arguments of `select` next to the descriptors. -/
structure SelectionArguments where
  authorizedRefs : List SkillReference
  goal : String
  backendAllowedToolIds : List String
  backendPermissionRefs : List String := []
  backendScopeRefs : List String := []
  agentAllowedToolIds : Option (List String) := none
  capabilityContext : List String := []
  maximumSelected : ℤ := 1

structure SkillSelector where
  unicode : Unicode

namespace SkillSelector

/-! ## Relevance -/

/-- The terms both the query and the metadata of the package contain. -/
def relevantTerms (selector : SkillSelector) (specification : SkillDefinition) (goal : String)
    (capabilityContext : List String) : List String :=
  let queryTokens :=
    findallRuns isLowerAlphanum (selector.unicode.lower (join " " (goal :: capabilityContext)))
  let metadata := join " "
    ([specification.name, specification.description, specification.purpose] ++
      specification.whenToUse)
  common queryTokens (findallRuns isLowerAlphanum (selector.unicode.lower metadata))

/-- The reason of a relevant package. -/
def relevanceReason (terms : List String) : String :=
  "Matched authorized metadata terms: " ++ join ", " (terms.take 8) ++ "."

theorem relevanceReason_nonempty (terms : List String) : 1 ≤ (relevanceReason terms).length := by
  unfold relevanceReason
  rw [String.length_append, String.length_append]
  exact Nat.le_add_left 1 _

/-! ## Assessment -/

/-- The effective tools, as a list of distinct elements. -/
def effectiveTools (arguments : SelectionArguments) : List String :=
  match arguments.agentAllowedToolIds with
  | none => fromKeys arguments.backendAllowedToolIds
  | some agentAllowedToolIds =>
    (fromKeys arguments.backendAllowedToolIds).filter fun tool => tool ∈ agentAllowedToolIds

/-- The outcome of a discovered package: one turn of the loop of `select`. -/
def assess (selector : SkillSelector) (arguments : SelectionArguments)
    (descriptor : SkillDescriptor) : SkillCandidateOutcome :=
  let reference := descriptor.reference
  let specification := descriptor.specification
  let terms :=
    selector.relevantTerms specification arguments.goal arguments.capabilityContext
  let missing := excess specification.requiredToolIds (effectiveTools arguments)
  if reference ∉ arguments.authorizedRefs then
    { reference
      status := .unauthorized
      relevanceScore := 0
      reason := "Filesystem discovery does not authorize this skill reference." }
  else if terms = [] then
    { reference
      status := .notRelevant
      relevanceScore := 0
      reason := "Authorized skill metadata does not match the requested goal."
      descriptor := some descriptor }
  else if missing ≠ [] then
    { reference
      status := .requiredToolUnavailable
      relevanceScore := terms.length
      reason := "A required tool is absent from the effective Backend/Agent allowlist."
      missingToolIds := missing
      descriptor := some descriptor }
  else if excess specification.permissionRefs arguments.backendPermissionRefs ≠ [] then
    { reference
      status := .requiredPermissionUnavailable
      relevanceScore := terms.length
      reason := "A permission prerequisite is absent from Backend authority."
      descriptor := some descriptor }
  else if excess specification.scopeRefs arguments.backendScopeRefs ≠ [] then
    { reference
      status := .requiredScopeUnavailable
      relevanceScore := terms.length
      reason := "A scope prerequisite is absent from Backend authority."
      descriptor := some descriptor }
  else
    { reference
      status := .selected
      relevanceScore := terms.length
      reason := relevanceReason terms
      descriptor := some descriptor
      reason_nonempty := relevanceReason_nonempty terms }

/-- The outcome of an authorized reference that no discovered package has. -/
def undiscovered (descriptors : List SkillDescriptor) (reference : SkillReference) :
    SkillCandidateOutcome :=
  if reference.skillId ∈ descriptors.map fun descriptor => descriptor.specification.skillId then
    { reference
      status := .versionMismatch
      relevanceScore := 0
      reason := "Authorized skill version does not match any discovered package." }
  else
    { reference
      status := .missingPackage
      relevanceScore := 0
      reason := "Authorized skill package is not available on this runtime." }

/-- An eligible outcome beyond the bound. -/
def bounded (outcome : SkillCandidateOutcome) : SkillCandidateOutcome :=
  { outcome with
    status := .notRelevant
    reason := "A higher-ranked authorized skill filled the bounded selection."
    reason_nonempty := by decide }

/-! ## Selection -/

def eligibleKey (outcome : SkillCandidateOutcome) : ℤ ×ₗ String ×ₗ String :=
  toLex (-(outcome.relevanceScore : ℤ),
    toLex (outcome.reference.skillId, outcome.reference.skillVersion))

def unavailableKey (outcome : SkillCandidateOutcome) : String ×ₗ String ×ₗ String :=
  toLex (outcome.reference.skillId,
    toLex (outcome.reference.skillVersion, outcome.status.value))

/-- The eligible outcomes, best first. -/
def eligible (selector : SkillSelector) (descriptors : List SkillDescriptor)
    (arguments : SelectionArguments) : List SkillCandidateOutcome :=
  Priority.sortBy eligibleKey
    ((descriptors.map (selector.assess arguments)).filter fun outcome =>
      outcome.status = .selected)

/-- `select`. -/
def select (selector : SkillSelector) (descriptors : List SkillDescriptor)
    (arguments : SelectionArguments) : Except SkillException SkillSelection :=
  if arguments.maximumSelected < 1 then
    .error (.python (.valueError "maximum_selected must be at least one"))
  else
    let assessed := descriptors.map (selector.assess arguments)
    let discovered := descriptors.map SkillDescriptor.reference
    let eligible := selector.eligible descriptors arguments
    let bound := arguments.maximumSelected.toNat
    let unavailable :=
      (assessed.filter fun outcome => outcome.status ≠ .selected) ++
        ((arguments.authorizedRefs.filter fun reference => reference ∉ discovered).map
          (undiscovered descriptors)) ++
        (eligible.drop bound).map bounded
    .ok
      { selected := eligible.take bound
        unavailable := Priority.sortBy unavailableKey unavailable
        effectiveToolIds := (effectiveTools arguments).insertionSort (· ≤ ·) }

section

variable {selector : SkillSelector} {arguments : SelectionArguments}
  {descriptors : List SkillDescriptor} {descriptor : SkillDescriptor}
  {outcome : SkillCandidateOutcome} {selection : SkillSelection}

theorem mem_effectiveTools {tool : String} :
    tool ∈ effectiveTools arguments ↔ tool ∈ arguments.backendAllowedToolIds ∧
      ∀ agentTools ∈ arguments.agentAllowedToolIds, tool ∈ agentTools := by
  unfold effectiveTools
  cases arguments.agentAllowedToolIds with
  | none => simp
  | some agentTools => simp

/-- What a package needs to be eligible. -/
structure Eligible (selector : SkillSelector) (arguments : SelectionArguments)
    (descriptor : SkillDescriptor) : Prop where
  authorized : descriptor.reference ∈ arguments.authorizedRefs
  relevant : selector.relevantTerms descriptor.specification arguments.goal
    arguments.capabilityContext ≠ []
  tools : descriptor.specification.requiredToolIds ⊆ effectiveTools arguments
  permissions : descriptor.specification.permissionRefs ⊆ arguments.backendPermissionRefs
  scopes : descriptor.specification.scopeRefs ⊆ arguments.backendScopeRefs

/-- The assessment selects a package exactly when it is eligible. -/
theorem assess_selected_iff :
    (selector.assess arguments descriptor).status = .selected ↔
      selector.Eligible arguments descriptor := by
  unfold assess
  dsimp only
  split
  · next unauthorized =>
    exact ⟨nofun, fun eligible => absurd eligible.authorized unauthorized⟩
  next authorized =>
  split
  · next irrelevant => exact ⟨nofun, fun eligible => absurd irrelevant eligible.relevant⟩
  next relevant =>
  split
  · next missing =>
    exact ⟨nofun, fun eligible => absurd (excess_eq_nil_iff.mpr eligible.tools) missing⟩
  next tools =>
  split
  · next missing =>
    exact ⟨nofun, fun eligible => absurd (excess_eq_nil_iff.mpr eligible.permissions) missing⟩
  next permissions =>
  split
  · next missing =>
    exact ⟨nofun, fun eligible => absurd (excess_eq_nil_iff.mpr eligible.scopes) missing⟩
  next scopes =>
  refine ⟨fun _ => ?_, fun _ => rfl⟩
  exact ⟨not_not.mp authorized, relevant, excess_eq_nil_iff.mp (not_not.mp tools),
    excess_eq_nil_iff.mp (not_not.mp permissions), excess_eq_nil_iff.mp (not_not.mp scopes)⟩

/-- The outcome selects this package. -/
structure Selects (outcome : SkillCandidateOutcome) (descriptor : SkillDescriptor) : Prop where
  status : outcome.status = .selected
  reference : outcome.reference = descriptor.reference
  descriptor : outcome.descriptor = some descriptor

theorem assess_selects (selected : (selector.assess arguments descriptor).status = .selected) :
    Selects (selector.assess arguments descriptor) descriptor := by
  have eligible := assess_selected_iff.mp selected
  refine ⟨selected, ?_, ?_⟩
  · unfold assess
    dsimp only
    split_ifs <;> rfl
  · unfold assess
    dsimp only
    rw [if_neg (not_not.mpr eligible.authorized)]
    split_ifs <;> rfl

/-- A selection is the best of the eligible outcomes, up to a positive bound. -/
theorem select_eq_ok (returned : selector.select descriptors arguments = .ok selection) :
    1 ≤ arguments.maximumSelected ∧
      selection.selected =
        (selector.eligible descriptors arguments).take arguments.maximumSelected.toNat ∧
      selection.effectiveToolIds = (effectiveTools arguments).insertionSort (· ≤ ·) := by
  unfold select at returned
  split at returned
  · cases returned
  · next positive =>
    cases returned
    exact ⟨not_lt.mp positive, rfl, rfl⟩

/-- The selected outcomes are those of eligible packages. -/
theorem of_mem_selected (returned : selector.select descriptors arguments = .ok selection)
    (member : outcome ∈ selection.selected) :
    ∃ descriptor ∈ descriptors, Selects outcome descriptor ∧
      selector.Eligible arguments descriptor := by
  rw [(select_eq_ok returned).2.1] at member
  have inEligible := List.mem_of_mem_take member
  rw [eligible, (Priority.sortBy_perm _ _).mem_iff, List.mem_filter, List.mem_map,
    decide_eq_true_eq] at inEligible
  obtain ⟨⟨descriptor, discovered, rfl⟩, selected⟩ := inEligible
  exact ⟨descriptor, discovered, assess_selects selected, assess_selected_iff.mp selected⟩

/-- The selection stays within its bound. -/
theorem length_selected_le (returned : selector.select descriptors arguments = .ok selection) :
    (selection.selected.length : ℤ) ≤ arguments.maximumSelected := by
  obtain ⟨positive, selected, -⟩ := select_eq_ok returned
  have short := List.length_take_le arguments.maximumSelected.toNat
    (selector.eligible descriptors arguments)
  rw [selected]
  omega

end

end SkillSelector

end Genesis

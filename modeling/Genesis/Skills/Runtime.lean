import Genesis.Skills.Selection

/-!
# The skill runtime

The authorization snapshot narrows Backend authority by that of the Agent, the
selector filters by the snapshot, and the progressive loader loads what was
selected or nothing.  `SkillRuntime.prepare_confined` follows the four dimensions
of authority through the three of them.
-/

namespace Genesis

open Py FileTree

/-! ## The authorization snapshot -/

structure SkillAuthorizationSnapshot where
  tenantId : String
  organizationId : String
  workspaceId : String
  correlationId : String
  authorizedSkillRefs : List SkillReference
  permissionRefs : List String
  scopeRefs : List String
  allowedToolIds : List String

/-- What the Agent may use, and the references the Backend authorizes. -/
structure AgentAuthority where
  authorizedSkillRefs : List SkillReference
  agentSkillRefs : List SkillReference
  agentPermissionRefs : List String
  agentScopeRefs : List String
  agentAllowedToolIds : List String

def referenceKey (reference : SkillReference) : String ×ₗ String :=
  toLex (reference.skillId, reference.skillVersion)

namespace SkillAuthorizationSnapshot

/-- `from_backend`. -/
def fromBackend (context : ExecutionContextView) (authority : AgentAuthority) :
    SkillAuthorizationSnapshot where
  tenantId := context.tenantId
  organizationId := context.organizationId
  workspaceId := context.workspaceId
  correlationId := context.correlationId
  authorizedSkillRefs :=
    Priority.sortBy referenceKey
      ((fromKeys authority.authorizedSkillRefs).filter fun reference =>
        reference ∈ authority.agentSkillRefs)
  permissionRefs := common context.permissionRefs authority.agentPermissionRefs
  scopeRefs := common context.scopeRefs authority.agentScopeRefs
  allowedToolIds := common context.allowedToolIds authority.agentAllowedToolIds

theorem mem_authorizedSkillRefs {context : ExecutionContextView} {authority : AgentAuthority}
    {reference : SkillReference} :
    reference ∈ (fromBackend context authority).authorizedSkillRefs ↔
      reference ∈ authority.authorizedSkillRefs ∧ reference ∈ authority.agentSkillRefs := by
  unfold fromBackend
  rw [(Priority.sortBy_perm _ _).mem_iff, List.mem_filter, mem_fromKeys, decide_eq_true_eq]

end SkillAuthorizationSnapshot

/-! ## Progressive loading -/

structure ProgressiveSkillLoader where
  loader : FileSystemSkillLoader
  maximumLoaded : ℕ
  one_le_maximumLoaded : 1 ≤ maximumLoaded := by decide

namespace ProgressiveSkillLoader

/-- One turn of the loop of `load_selected`. -/
def loadOutcome (progressive : ProgressiveSkillLoader) (tree : Tree)
    (outcome : SkillCandidateOutcome) : Except SkillException LoadedSkill :=
  match outcome.status, outcome.descriptor with
  | .selected, some descriptor => progressive.loader.load tree descriptor
  | _, _ =>
    .error (.package
      { code := .unauthorized
        message := "Only explicitly selected skill descriptors may load instructions."
        skillId := some outcome.reference.skillId })

def loadLimitExceeded : SkillException :=
  .package
    { code := .loadLimitExceeded
      message := "Selected skill count exceeds the progressive loading bound." }

/-- `load_selected`. -/
def loadSelected (progressive : ProgressiveSkillLoader) (tree : Tree)
    (selected : List SkillCandidateOutcome) : Except SkillException (List LoadedSkill) :=
  if progressive.maximumLoaded < selected.length then .error loadLimitExceeded
  else selected.mapM (progressive.loadOutcome tree)

end ProgressiveSkillLoader

/-! ## The runtime -/

inductive SkillRuntimeStatus : Type
  | ready
  | blocked
  deriving DecidableEq

structure SkillRuntimeContext where
  status : SkillRuntimeStatus
  selection : SkillSelection
  loadedSkills : List LoadedSkill

structure SkillRuntime where
  selector : SkillSelector
  progressive : ProgressiveSkillLoader

namespace SkillRuntime

/-- What `prepare` asks the selector. -/
def selectionArguments (authorization : SkillAuthorizationSnapshot) (goal : String)
    (capabilityContext : List String) (maximumSelected : ℤ) : SelectionArguments where
  authorizedRefs := authorization.authorizedSkillRefs
  goal := goal
  backendAllowedToolIds := authorization.allowedToolIds
  backendPermissionRefs := authorization.permissionRefs
  backendScopeRefs := authorization.scopeRefs
  capabilityContext := capabilityContext
  maximumSelected := maximumSelected

/-- `prepare`. -/
def prepare (runtime : SkillRuntime) (packagesRoot : Tree)
    (authorization : SkillAuthorizationSnapshot) (goal : String)
    (capabilityContext : List String) (maximumSelected : ℤ) :
    Except SkillException SkillRuntimeContext := do
  let descriptors ← runtime.progressive.loader.discover packagesRoot
  let selection ← runtime.selector.select descriptors
    (selectionArguments authorization goal capabilityContext maximumSelected)
  let loaded ← runtime.progressive.loadSelected packagesRoot selection.selected
  pure
    { status := if loaded = [] then .blocked else .ready
      selection
      loadedSkills := loaded }

/-- A loaded skill is inside the intersection of Backend and Agent authority. -/
structure WithinAuthority (context : ExecutionContextView) (authority : AgentAuthority)
    (skill : LoadedSkill) : Prop where
  authorized : skill.specification.reference ∈ authority.authorizedSkillRefs
  agent : skill.specification.reference ∈ authority.agentSkillRefs
  tools : ∀ tool ∈ skill.specification.requiredToolIds,
    tool ∈ context.allowedToolIds ∧ tool ∈ authority.agentAllowedToolIds
  permissions : ∀ permission ∈ skill.specification.permissionRefs,
    permission ∈ context.permissionRefs ∧ permission ∈ authority.agentPermissionRefs
  scopes : ∀ scope ∈ skill.specification.scopeRefs,
    scope ∈ context.scopeRefs ∧ scope ∈ authority.agentScopeRefs

/-- The skill was loaded for this selected outcome. -/
structure LoadedFor (outcome : SkillCandidateOutcome) (skill : LoadedSkill) : Prop where
  selected : outcome.status = .selected
  reference : outcome.reference = skill.specification.reference
  descriptor : outcome.descriptor = some ⟨skill.specification, skill.packagePath⟩

/-- What a prepared context satisfies. -/
structure Confined (context : ExecutionContextView) (authority : AgentAuthority)
    (maximumSelected : ℤ) (maximumLoaded : ℕ) (prepared : SkillRuntimeContext) : Prop where
  skills : ∀ skill ∈ prepared.loadedSkills, WithinAuthority context authority skill
  effectiveToolIds : prepared.selection.effectiveToolIds.Nodup ∧
    ∀ tool, tool ∈ prepared.selection.effectiveToolIds ↔
      tool ∈ context.allowedToolIds ∧ tool ∈ authority.agentAllowedToolIds
  corresponding : List.Forall₂ LoadedFor prepared.selection.selected prepared.loadedSkills
  bounded : (prepared.loadedSkills.length : ℤ) ≤ min maximumSelected maximumLoaded
  status : prepared.status = .ready ↔ prepared.loadedSkills ≠ []

section

variable {runtime : SkillRuntime} {packagesRoot : Tree} {context : ExecutionContextView}
  {authorization : SkillAuthorizationSnapshot} {authority : AgentAuthority} {goal : String}
  {capabilityContext : List String} {maximumSelected : ℤ} {prepared : SkillRuntimeContext}
  {descriptors : List SkillDescriptor} {outcome : SkillCandidateOutcome} {skill : LoadedSkill}

/-- The steps of a `prepare` that returns. -/
structure Steps (runtime : SkillRuntime) (packagesRoot : Tree)
    (authorization : SkillAuthorizationSnapshot) (goal : String) (capabilityContext : List String)
    (maximumSelected : ℤ) (prepared : SkillRuntimeContext) (descriptors : List SkillDescriptor) :
    Prop where
  discovered : runtime.progressive.loader.discover packagesRoot = .ok descriptors
  selected : runtime.selector.select descriptors
    (selectionArguments authorization goal capabilityContext maximumSelected) =
      .ok prepared.selection
  short : prepared.selection.selected.length ≤ runtime.progressive.maximumLoaded
  loaded : prepared.selection.selected.mapM (runtime.progressive.loadOutcome packagesRoot) =
    .ok prepared.loadedSkills
  status : prepared.status = if prepared.loadedSkills = [] then .blocked else .ready

theorem prepare_eq_ok
    (returned : runtime.prepare packagesRoot authorization goal capabilityContext maximumSelected =
      .ok prepared) :
    ∃ descriptors, Steps runtime packagesRoot authorization goal capabilityContext maximumSelected
      prepared descriptors := by
  simp only [prepare, except_bind_eq_ok] at returned
  obtain ⟨descriptors, discovered, selection, selected, loaded, loads, built⟩ := returned
  cases built
  unfold ProgressiveSkillLoader.loadSelected at loads
  split at loads
  · cases loads
  · next short => exact ⟨descriptors, discovered, selected, not_lt.mp short, loads, rfl⟩

/-- A loaded outcome carries the package that was loaded. -/
theorem loadOutcome_eq_ok
    (loaded : runtime.progressive.loadOutcome packagesRoot outcome = .ok skill) :
    ∃ descriptor, outcome.descriptor = some descriptor ∧
      runtime.progressive.loader.load packagesRoot descriptor = .ok skill := by
  unfold ProgressiveSkillLoader.loadOutcome at loaded
  split at loaded
  · next descriptor _ found => exact ⟨descriptor, found, loaded⟩
  · cases loaded

/-- A loaded skill is an eligible package that was selected. -/
theorem Steps.of_mem_loadedSkills
    (steps : Steps runtime packagesRoot authorization goal capabilityContext maximumSelected
      prepared descriptors) (member : skill ∈ prepared.loadedSkills) :
    ∃ outcome ∈ prepared.selection.selected, ∃ descriptor ∈ descriptors,
      SkillSelector.Selects outcome descriptor ∧
        runtime.progressive.loader.load packagesRoot descriptor = .ok skill ∧
          runtime.selector.Eligible
            (selectionArguments authorization goal capabilityContext maximumSelected)
            descriptor := by
  obtain ⟨outcome, inSelection, loaded⟩ := exists_of_mem_mapM steps.loaded member
  obtain ⟨descriptor, carried, loads⟩ := loadOutcome_eq_ok loaded
  obtain ⟨descriptor', discovered, selects, eligible⟩ :=
    SkillSelector.of_mem_selected steps.selected inSelection
  cases carried.symm.trans selects.descriptor
  exact ⟨outcome, inSelection, descriptor, discovered, selects, loads, eligible⟩

/-- The selected outcomes are paired with the skills loaded for them. -/
theorem Steps.corresponding
    (steps : Steps runtime packagesRoot authorization goal capabilityContext maximumSelected
      prepared descriptors) :
    List.Forall₂ LoadedFor prepared.selection.selected prepared.loadedSkills := by
  have selects : ∀ outcome ∈ prepared.selection.selected,
      ∃ descriptor, SkillSelector.Selects outcome descriptor := by
    intro outcome member
    obtain ⟨descriptor, -, selects, -⟩ := SkillSelector.of_mem_selected steps.selected member
    exact ⟨descriptor, selects⟩
  have paired := (List.forall₂_and_left _ _).mpr ⟨selects, mapM_eq_ok_iff.mp steps.loaded⟩
  apply paired.imp
  intro outcome skill both
  rcases both with ⟨⟨descriptor, selects⟩, loaded⟩
  obtain ⟨descriptor', carried, loads⟩ := loadOutcome_eq_ok loaded
  cases carried.symm.trans selects.descriptor
  have loadedPackage := (FileSystemSkillLoader.load_eq_ok loads).1
  refine ⟨selects.status, ?_, ?_⟩
  · rw [selects.reference, loadedPackage.specification]
    rfl
  · rw [selects.descriptor, loadedPackage.specification, loadedPackage.packagePath]

/-- An eligible package is within the authority the snapshot was made from. -/
theorem withinAuthority_of_eligible {descriptor : SkillDescriptor}
    (eligible : runtime.selector.Eligible
      (selectionArguments (.fromBackend context authority) goal capabilityContext maximumSelected)
      descriptor)
    (same : skill.specification = descriptor.specification) :
    WithinAuthority context authority skill := by
  have authorized : descriptor.specification.reference ∈
      (SkillAuthorizationSnapshot.fromBackend context authority).authorizedSkillRefs :=
    eligible.authorized
  rw [SkillAuthorizationSnapshot.mem_authorizedSkillRefs] at authorized
  constructor <;> rw [same]
  · exact authorized.1
  · exact authorized.2
  · intro tool required
    have effective := SkillSelector.mem_effectiveTools.mp (eligible.tools required)
    exact mem_common.mp effective.1
  · intro permission required
    exact mem_common.mp (eligible.permissions required)
  · intro scope required
    exact mem_common.mp (eligible.scopes required)

/-- The effective tools of a selection from a snapshot. -/
theorem Steps.effectiveToolIds
    (steps : Steps runtime packagesRoot (.fromBackend context authority) goal capabilityContext
      maximumSelected prepared descriptors) :
    prepared.selection.effectiveToolIds.Nodup ∧
      ∀ tool, tool ∈ prepared.selection.effectiveToolIds ↔
        tool ∈ context.allowedToolIds ∧ tool ∈ authority.agentAllowedToolIds := by
  obtain ⟨-, -, effective⟩ := SkillSelector.select_eq_ok steps.selected
  rw [effective, (List.perm_insertionSort _ _).nodup_iff]
  refine ⟨nodup_fromKeys _, fun tool => ?_⟩
  rw [(List.perm_insertionSort _ _).mem_iff, SkillSelector.mem_effectiveTools]
  refine ⟨fun effective => mem_common.mp effective.1, fun both => ⟨mem_common.mpr both, nofun⟩⟩

end

/-- Whatever the packages, the goal and the bounds are, a prepared context is
confined to what both the Backend and the Agent authorize; and a selection above
the loading bound raises. -/
theorem prepare_confined (runtime : SkillRuntime) (packagesRoot : Tree)
    (context : ExecutionContextView) (authority : AgentAuthority) (goal : String)
    (capabilityContext : List String) (maximumSelected : ℤ) :
    (∀ prepared, runtime.prepare packagesRoot (.fromBackend context authority) goal
        capabilityContext maximumSelected = .ok prepared →
      Confined context authority maximumSelected runtime.progressive.maximumLoaded prepared) ∧
    ∀ descriptors selection, runtime.progressive.loader.discover packagesRoot = .ok descriptors →
      runtime.selector.select descriptors (selectionArguments (.fromBackend context authority)
        goal capabilityContext maximumSelected) = .ok selection →
      runtime.progressive.maximumLoaded < selection.selected.length →
        runtime.prepare packagesRoot (.fromBackend context authority) goal capabilityContext
          maximumSelected = .error ProgressiveSkillLoader.loadLimitExceeded := by
  refine ⟨?_, ?_⟩
  · intro prepared returned
    obtain ⟨descriptors, steps⟩ := prepare_eq_ok returned
    have corresponding := steps.corresponding
    refine ⟨?_, steps.effectiveToolIds, corresponding, ?_, ?_⟩
    · intro skill member
      obtain ⟨_, -, descriptor, -, -, loads, eligible⟩ := steps.of_mem_loadedSkills member
      exact withinAuthority_of_eligible eligible
        (FileSystemSkillLoader.load_eq_ok loads).1.specification
    · have short := steps.short
      have few := SkillSelector.length_selected_le steps.selected
      rw [← corresponding.length_eq]
      dsimp only [selectionArguments] at few
      omega
    · rw [steps.status]
      split
      · next none => simp [none]
      · next some => simp [some]
  · intro descriptors selection discovered selected tooMany
    have refused : runtime.progressive.loadSelected packagesRoot selection.selected =
        .error ProgressiveSkillLoader.loadLimitExceeded := if_pos tooMany
    rw [prepare, discovered]
    change (runtime.selector.select descriptors _ >>= _) = _
    rw [selected]
    change (runtime.progressive.loadSelected packagesRoot selection.selected >>= _) = _
    rw [refused]
    rfl

/-! ## A package of the tests -/

/-- A loader that reads these manifests, on schemas that accept every document. -/
def packageLoader (manifests : List (String × JsonObject)) : FileSystemSkillLoader where
  contracts := ⟨fun _ => some fun _ => none⟩
  unicode := .ascii
  safeLoad text := (Dict.get? manifests text).map Json.obj

def packageManifest (skillId purpose : String) : JsonObject :=
  [("skill_id", .str skillId), ("skill_version", .str "1.0.0"), ("name", .str "package"),
    ("description", .str purpose), ("purpose", .str purpose), ("when_to_use", strTuple [purpose]),
    ("input_schema_ref", .str "schema.request"), ("output_schema_ref", .str "schema.result"),
    ("required_tool_ids", strTuple ["tool.a"]), ("permission_refs", strTuple ["permission.a"]),
    ("scope_refs", strTuple ["scope.x"])]

def packageRuntime : SkillRuntime where
  selector := { unicode := .ascii }
  progressive :=
    { loader := packageLoader
        [("technology", packageManifest "skill.research.technology"
            "Analyze technology architecture."),
          ("management", packageManifest "skill.research.management"
            "Review management KPI governance.")]
      maximumLoaded := 4 }

/-- A tree of these files and the directories above them. -/
def packageNode (files : List (Path × String)) (path : Path) : Node :=
  match files.lookup path with
  | some text => .file (some text)
  | none => .dir

def packagesTree : Tree where
  paths := [[], ["technology"], ["technology", "skill.yaml"], ["technology", "SKILL.md"],
    ["management"], ["management", "skill.yaml"], ["management", "SKILL.md"]]
  node := packageNode
    [(["technology", "skill.yaml"], "technology"),
      (["technology", "SKILL.md"], "Analyze the architecture."),
      (["management", "skill.yaml"], "management"),
      (["management", "SKILL.md"], "Review the indicators.")]

def packageContext : ExecutionContextView where
  tenantId := "tenant_test"
  organizationId := "organization_test"
  workspaceId := "workspace_test"
  actorId := "actor_test"
  authorityContext := { role := "runner", authorityLevel := .system }
  permissionRefs := ["permission.a", "permission.b"]
  allowedToolIds := ["tool.a", "tool.b"]
  scopeRefs := ["scope.x", "scope.y"]
  dataClassification := .internal
  correlationId := "corr_skill_test"
  executionBudget := ⟨{ maxSteps := some 1 }, by decide⟩
  wellFormed := by decide

def packageReferences : List SkillReference :=
  [{ skillId := "skill.research.technology", skillVersion := "1.0.0" },
    { skillId := "skill.research.management", skillVersion := "1.0.0" }]

def packageAuthority : AgentAuthority where
  authorizedSkillRefs := packageReferences
  agentSkillRefs := packageReferences
  agentPermissionRefs := ["permission.a"]
  agentScopeRefs := ["scope.x"]
  agentAllowedToolIds := ["tool.a"]

/-- Of two authorized packages only the one that matches the goal is loaded. -/
theorem loads_packagesTree :
    (packageRuntime.prepare packagesTree (.fromBackend packageContext packageAuthority)
      "technology architecture" [] 1).toOption.map
        (fun prepared => prepared.loadedSkills.map fun skill => (skill.packagePath,
          skill.instructions)) = some [(["technology"], "Analyze the architecture.")] := by
  decide +kernel

theorem prepare_confined_technology :
    ∃ prepared, packageRuntime.prepare packagesTree (.fromBackend packageContext packageAuthority)
      "technology architecture" [] 1 = .ok prepared ∧
        prepared.loadedSkills.map LoadedSkill.instructions = ["Analyze the architecture."] ∧
          Confined packageContext packageAuthority 1 4 prepared := by
  obtain ⟨prepared, returned, loaded⟩ := exists_ok_of_map loads_packagesTree
  have instructions := congrArg (List.map Prod.snd) loaded
  rw [List.map_map] at instructions
  have confined := (prepare_confined packageRuntime packagesTree packageContext packageAuthority
    "technology architecture" [] 1).1
  exact ⟨prepared, returned, instructions, confined prepared returned⟩

end SkillRuntime

end Genesis

import Genesis.Capabilities.Resolver

/-!
# The order of a catalog

Whether a resolution depends on the order in which the Backend lists its catalog.
The ranking sorts by score and `capability_id`, not by version, so it keeps two
candidate items of one capability and one score in the order they are listed in:
`resolve_order_iff` says that these items are all the order makes a difference to.
-/

namespace Genesis

open Py Priority

namespace CapabilityResolver

section

variable {resolver : CapabilityResolver} {understanding : RequirementUnderstanding}
  {requirement : Requirement} {catalog : List CapabilityCatalogItem}

/-- The sort key of an item. -/
def itemKey (resolver : CapabilityResolver) (understanding : RequirementUnderstanding)
    (item : CapabilityCatalogItem) : ℤ ×ₗ String :=
  rankKey (resolver.rank understanding item)

/-- What is resolved are the candidate items, sorted by their key. -/
theorem resolved_eq_sortBy :
    resolver.resolved understanding catalog =
      sortBy (resolver.itemKey understanding) (catalog.filter (isRequested understanding)) := by
  rw [resolved_eq, sortBy_map, List.map_map]
  exact List.map_id _

/-- How many distinct terms of the statement the texts of the item contain. -/
def matchedTerms (resolver : CapabilityResolver) (understanding : RequirementUnderstanding)
    (item : CapabilityCatalogItem) : ℕ :=
  ((fromKeys (tokens understanding.normalizedIntent)).filter fun term =>
    isIn term (resolver.unicode.casefold
      (join " " ([item.capabilityId, item.name, item.purpose] ++ item.keywords)))).length

/-- No two items of one candidate capability contain equally many terms of the statement. -/
def NoTies (resolver : CapabilityResolver) (understanding : RequirementUnderstanding)
    (catalog : List CapabilityCatalogItem) : Prop :=
  ∀ item ∈ catalog, ∀ other ∈ catalog,
    item.capabilityId ∈ understanding.candidateCapabilityIds →
      item.capabilityId = other.capabilityId →
        resolver.matchedTerms understanding item = resolver.matchedTerms understanding other →
          item = other

instance decidableNoTies (resolver : CapabilityResolver)
    (understanding : RequirementUnderstanding) (catalog : List CapabilityCatalogItem) :
    Decidable (resolver.NoTies understanding catalog) :=
  inferInstanceAs (Decidable (∀ item ∈ catalog, ∀ other ∈ catalog, _ → _ → _ → item = other))

/-- Two candidate items have one key when they are of one capability and contain
equally many terms. -/
theorem itemKey_eq_iff {item other : CapabilityCatalogItem}
    (requested : isRequested understanding item = true)
    (alsoRequested : isRequested understanding other = true) :
    resolver.itemKey understanding item = resolver.itemKey understanding other ↔
      resolver.matchedTerms understanding item = resolver.matchedTerms understanding other ∧
        item.capabilityId = other.capabilityId := by
  have score : ∀ requestedItem, isRequested understanding requestedItem = true →
      (resolver.rank understanding requestedItem).score =
        resolver.matchedTerms understanding requestedItem + 100 :=
    fun requestedItem isCandidate => if_pos isCandidate
  unfold itemKey rankKey
  rw [toLex_inj, Prod.mk.injEq, neg_inj, Int.natCast_inj, score item requested,
    score other alsoRequested, Nat.add_right_cancel_iff]
  rfl

/-- Without ties every order of the catalog resolves the same items in the same order. -/
theorem resolved_perm (noTies : resolver.NoTies understanding catalog)
    {others : List CapabilityCatalogItem} (perm : others.Perm catalog) :
    resolver.resolved understanding others = resolver.resolved understanding catalog := by
  rw [resolved_eq_sortBy, resolved_eq_sortBy]
  symm
  refine sortBy_eq_of_perm (perm.symm.filter _) ?_
  intro item member other also tied
  obtain ⟨listed, requested⟩ := List.mem_filter.mp member
  obtain ⟨alsoListed, alsoRequested⟩ := List.mem_filter.mp also
  obtain ⟨sameTerms, sameId⟩ := (itemKey_eq_iff requested alsoRequested).mp tied
  exact noTies item listed other alsoListed (of_decide_eq_true requested) sameId sameTerms

/-- A catalog that resolves like its reverse has no ties. -/
theorem noTies_of_reverse (nodup : catalog.Nodup)
    (same : resolver.resolved understanding catalog.reverse =
      resolver.resolved understanding catalog) : resolver.NoTies understanding catalog := by
  rw [resolved_eq_sortBy, resolved_eq_sortBy, List.filter_reverse] at same
  intro item listed other alsoListed candidate sameId sameTerms
  have requested : isRequested understanding item = true := decide_eq_true candidate
  have alsoRequested : isRequested understanding other = true := decide_eq_true (sameId ▸ candidate)
  exact eq_of_sortBy_reverse (nodup.filter _) same (List.mem_filter.mpr ⟨listed, requested⟩)
    (List.mem_filter.mpr ⟨alsoListed, alsoRequested⟩)
    ((itemKey_eq_iff requested alsoRequested).mpr ⟨sameTerms, sameId⟩)

/-! ## When a resolution is returned -/

theorem decisionReason_nonempty {decision : ResolutionDecision}
    {resolved : List CapabilityCatalogItem} {missing : List String} {unavailable : Bool} :
    1 ≤ (decisionReason decision resolved missing unavailable).length := by
  unfold decisionReason
  dsimp only
  split_ifs
  · simp only [String.length_append]
    exact Nat.le_add_left_of_le (by decide)
  · decide
  · rw [String.length_append]
    exact Nat.le_add_right_of_le (by decide)

/-- A resolution meets its constraints unless the statement is blank. -/
theorem resolution_wellFormed_iff {resolved : List CapabilityCatalogItem} :
    (resolver.resolution requirement understanding resolved).WellFormed ↔
      strip requirement.statement ≠ "" := by
  obtain ⟨-, -, -, -, -, -, -, scopes⟩ := requirement.wellFormed
  refine ⟨fun wellFormed => one_le_length_iff.mp wellFormed.2.1, fun purpose => ?_⟩
  exact ⟨decisionReason_nonempty, one_le_length_iff.mpr purpose, scopes, nofun, nofun⟩

theorem resolve_of_blank (blank : strip requirement.statement = "") :
    resolver.resolve requirement catalog = .error (.validationError "CapabilityResolution") := by
  unfold resolve CapabilityResolution.ofFields construct
  exact dif_neg fun wellFormed => resolution_wellFormed_iff.mp wellFormed blank

variable (resolver catalog) in
theorem exists_resolve (stated : strip requirement.statement ≠ "") :
    ∃ resolution, resolver.resolve requirement catalog = .ok resolution := by
  unfold resolve CapabilityResolution.ofFields
  exact ⟨_, construct_eq_ok_iff.mpr ⟨resolution_wellFormed_iff.mpr stated, rfl⟩⟩

theorem resolved_of_resolve {resolution : CapabilityResolution}
    (returned : resolver.resolve requirement catalog = .ok resolution) :
    resolution.resolved = resolver.resolved (resolver.understand requirement) catalog := by
  rw [CapabilityResolution.fields_of_ofFields returned]
  rfl

end

/-- A catalog of distinct items is resolved the same way in every order exactly
when the statement is blank, which is refused in every order, or no two
items of one candidate capability contain equally many terms of it. -/
theorem resolve_order_iff (resolver : CapabilityResolver) (requirement : Requirement)
    (catalog : List CapabilityCatalogItem)
    (distinct : (catalog.map fun item => (item.capabilityId, item.version)).Nodup) :
    (∀ others, others.Perm catalog →
      resolver.resolve requirement others = resolver.resolve requirement catalog) ↔
      strip requirement.statement = "" ∨
        resolver.NoTies (resolver.understand requirement) catalog := by
  refine ⟨?_, ?_⟩
  · intro same
    by_cases blank : strip requirement.statement = ""
    · exact .inl blank
    obtain ⟨resolution, returned⟩ := exists_resolve resolver catalog blank
    have reversed := same _ (List.reverse_perm catalog)
    rw [returned] at reversed
    refine .inr (noTies_of_reverse distinct.of_map ?_)
    exact (resolved_of_resolve reversed).symm.trans (resolved_of_resolve returned)
  · intro holds others perm
    rcases holds with blank | noTies
    · rw [resolve_of_blank blank, resolve_of_blank blank]
    · unfold resolve
      dsimp only
      rw [resolved_perm noTies perm]

/-- A requirement about tasks. -/
def taskRequirement : Requirement where
  tenantId := "tenant_test"
  organizationId := "organization_test"
  workspaceId := "workspace_test"
  actorId := "actor_test"
  correlationId := "corr_catalog_order"
  statement := "List every overdue task of the workspace"
  scopeRefs := ["scope.workspace"]
  wellFormed := by decide

/-- What is understood of the requirement about tasks. -/
def taskUnderstanding : RequirementUnderstanding where
  normalizedIntent := "list every overdue task of the workspace"
  domains := ["general"]
  candidateCapabilityIds := ["task.list", "task.read"]
  recommendedType := .skill
  riskLevel := .low
  requiresAgent := false
  rationale := ["Matched 2 capability intent(s).", "Classified delivery as SKILL.",
    "Capability-first policy does not require an Agent runtime."]

theorem understand_taskRequirement : understand ⟨.ascii⟩ taskRequirement = taskUnderstanding := by
  decide +kernel

def taskList : CapabilityCatalogItem where
  capabilityId := "task.list"
  version := "1.0.0"
  name := "List tasks"
  purpose := "List the tasks of a workspace"
  capabilityType := .toolRequirement
  backingToolIds := ["task.list.v1"]

/-- The next version of the same capability, on another tool. -/
def nextTaskList : CapabilityCatalogItem :=
  { taskList with
    version := "2.0.0"
    backingToolIds := ["task.list.v2"]
    wellFormed := by decide }

def taskRead : CapabilityCatalogItem :=
  { taskList with
    capabilityId := "task.read"
    wellFormed := by decide }

theorem resolve_order_task :
    resolve ⟨.ascii⟩ taskRequirement [taskRead, taskList] =
      resolve ⟨.ascii⟩ taskRequirement [taskList, taskRead] := by
  have noTies : NoTies ⟨.ascii⟩ (understand ⟨.ascii⟩ taskRequirement) [taskList, taskRead] := by
    rw [understand_taskRequirement]
    decide +kernel
  exact (resolve_order_iff ⟨.ascii⟩ taskRequirement _ (by decide)).mpr (.inr noTies) _
    (.swap _ _ _)

/-- Two versions of a capability are resolved, and their tools required, in the
order the catalog lists them in. -/
theorem catalogOrder_counterexample :
    ([taskList, nextTaskList].map fun item => (item.capabilityId, item.version)).Nodup ∧
      [nextTaskList, taskList].Perm [taskList, nextTaskList] ∧
      (resolve ⟨.ascii⟩ taskRequirement [taskList, nextTaskList]).toOption.map
          (fun resolution => resolution.requiredToolIds) =
        some ["task.list.v1", "task.list.v2"] ∧
      (resolve ⟨.ascii⟩ taskRequirement [nextTaskList, taskList]).toOption.map
          (fun resolution => resolution.requiredToolIds) =
        some ["task.list.v2", "task.list.v1"] ∧
      resolve ⟨.ascii⟩ taskRequirement [taskList, nextTaskList] ≠
        resolve ⟨.ascii⟩ taskRequirement [nextTaskList, taskList] := by
  have listed : (resolve ⟨.ascii⟩ taskRequirement [taskList, nextTaskList]).toOption.map
      (fun resolution => resolution.requiredToolIds) =
        some ["task.list.v1", "task.list.v2"] := by
    rw [resolve, understand_taskRequirement]
    decide +kernel
  have reversed : (resolve ⟨.ascii⟩ taskRequirement [nextTaskList, taskList]).toOption.map
      (fun resolution => resolution.requiredToolIds) =
        some ["task.list.v2", "task.list.v1"] := by
    rw [resolve, understand_taskRequirement]
    decide +kernel
  refine ⟨by decide, .swap _ _ _, listed, reversed, fun same => ?_⟩
  rw [same, reversed] at listed
  exact absurd listed (by decide)

end CapabilityResolver

end Genesis

import Genesis.Delegation.Limits
import Genesis.Lib.Branching

/-!
# Delegation fleets

The runs that descend from one root, delegating in any order.  The guard keeps no
state, so a step assumes what its callers owe it: the parent state it is given is
the current one, an accepted child adopts its request and starts without
children, and its parent then counts one child more.

* `DelegationGuard.Delegates` is one accepted delegation of a fleet, and
  `Delegates.grows` and `exists_delegates` say that it is a growth step under the
  height and the branching of the policy, and possible wherever that one is.
* `Descends` is what a member of the fleet keeps of the root.
* `fleet_capacity`: the policy fixes the size at which every fleet stops.  Nothing
  divides the authority or the budget of the root among the members.
-/

namespace Genesis

open Relation

namespace DelegationGuard

/-- Some run of the fleet delegates, and the guard accepts. -/
inductive Delegates (policy : DelegationPolicy) : List ParentRunState → List ParentRunState → Prop
  | mk {before after : List ParentRunState} {parent state : ParentRunState}
    {child : DelegationRequest} (accepted : validate parent child policy = .ok ())
    (adopts : state.Adopts child) (childless : state.childCount = 0) :
    Delegates policy (before ++ parent :: after)
      (before ++ { parent with childCount := parent.childCount + 1 } :: (after ++ [state]))

/-- The growth that a policy allows. -/
def growth (policy : DelegationPolicy) : Branching ParentRunState where
  depth := ParentRunState.depth
  children := ParentRunState.childCount
  height := policy.maxDepth
  branching := policy.maxChildren

/-- The number of runs a root and its descendants may come to: itself, and below every
child it may still get a full tree. -/
def capacity (policy : DelegationPolicy) (root : ParentRunState) : ℕ :=
  1 + (policy.maxChildren - root.childCount) *
    ∑ i ∈ Finset.range (policy.maxDepth - root.depth), policy.maxChildren ^ i

section

variable {policy : DelegationPolicy} {fleet next : List ParentRunState} {parent : ParentRunState}

theorem open_iff : (growth policy).Open parent ↔ policy.Admits parent :=
  ⟨fun admitted => ⟨admitted.above, admitted.fewer⟩,
    fun admits => ⟨admits.maxDepth, admits.maxChildren⟩⟩

theorem weight_singleton {root : ParentRunState} :
    (growth policy).weight [root] = capacity policy root :=
  rfl

/-- What the guard accepts is a growth step. -/
theorem Delegates.grows (delegates : Delegates policy fleet next) :
    (growth policy).Grows fleet next := by
  cases delegates with
  | mk accepted adopts childless =>
    have accepts := validate_eq_ok_iff.mp accepted
    exact .mk ⟨open_iff.mpr accepts.admits, rfl, rfl, adopts.depth.trans accepts.depth, childless⟩

/-- The state of a run that adopts a request. -/
def adopted (child : DelegationRequest) : ParentRunState where
  runId := child.runId
  rootRunId := child.rootRunId
  agentId := child.childAgentId
  depth := child.depth
  childCount := 0
  authority := child.authority
  budget := child.budget
  runId_length := child.runId_length
  rootRunId_length := child.rootRunId_length
  agentId_length := child.childAgentId_length

theorem adopts_adopted {child : DelegationRequest} : (adopted child).Adopts child :=
  ⟨rfl, rfl, rfl, rfl, rfl, rfl⟩

/-- A run that the policy admits can delegate all it has. -/
theorem exists_delegates {before after : List ParentRunState} (admits : policy.Admits parent) :
    ∃ state : ParentRunState, state.authority = parent.authority ∧ state.budget = parent.budget ∧
      Delegates policy (before ++ parent :: after)
        (before ++ { parent with childCount := parent.childCount + 1 } :: (after ++ [state])) :=
  ⟨adopted (fullestRequest parent policy), rfl, rfl,
    .mk (validate_eq_ok_iff.mpr (accepts_fullestRequest admits)) adopts_adopted rfl⟩

end

/-! ## What the members keep -/

/-- What a member of the fleet keeps of the root: lineage, tenant and workspace, no more
than its grant, and a depth that the policy allows. -/
structure Descends (policy : DelegationPolicy) (root state : ParentRunState) : Prop where
  rootRunId : state.rootRunId = root.rootRunId
  tenantId : state.authority.tenantId = root.authority.tenantId
  workspaceId : state.authority.workspaceId = root.authority.workspaceId
  grant : state.grant ≤ root.grant
  depth : root.depth ≤ state.depth
  maxDepth : state.depth = root.depth ∨ state.depth ≤ policy.maxDepth

section

variable {policy : DelegationPolicy} {fleet next : List ParentRunState}
  {root parent state : ParentRunState}

theorem Descends.refl : Descends policy root root :=
  ⟨rfl, rfl, rfl, le_rfl, le_rfl, .inl rfl⟩

/-- A child of a member is one, if the guard accepts it. -/
theorem Descends.child {child : DelegationRequest} (descends : Descends policy root parent)
    (accepts : Accepts parent child policy) (adopts : state.Adopts child) :
    Descends policy root state := by
  have grant : state.grant ≤ parent.grant := by
    rw [ParentRunState.grant_le_iff, adopts.authority, adopts.budget]
    exact ⟨accepts.permissionRefs, accepts.scopeRefs, accepts.allowedToolIds, accepts.budget⟩
  have depth := adopts.depth.trans accepts.depth
  have above := descends.depth
  have maxDepth := accepts.maxDepth
  rw [← adopts.depth] at maxDepth
  refine ⟨?_, ?_, ?_, grant.trans descends.grant, ?_, .inr maxDepth⟩
  · exact (adopts.rootRunId.trans accepts.rootRunId).trans descends.rootRunId
  · rw [adopts.authority, accepts.tenantId, descends.tenantId]
  · rw [adopts.authority, accepts.workspaceId, descends.workspaceId]
  · omega

/-- Counting a child changes nothing that a member keeps. -/
theorem Descends.counted {childCount : ℕ} (descends : Descends policy root parent) :
    Descends policy root { parent with childCount } :=
  ⟨descends.rootRunId, descends.tenantId, descends.workspaceId, descends.grant, descends.depth,
    descends.maxDepth⟩

theorem Delegates.descend (delegates : Delegates policy fleet next)
    (all : ∀ state ∈ fleet, Descends policy root state) :
    ∀ state ∈ next, Descends policy root state := by
  cases delegates with
  | mk accepted adopts childless =>
    obtain ⟨front, self, back⟩ :=
      List.forall_mem_append.trans (and_congr_right' List.forall_mem_cons) |>.mp all
    refine List.forall_mem_append.mpr ⟨front, List.forall_mem_cons.mpr ⟨self.counted, ?_⟩⟩
    refine List.forall_mem_append.mpr ⟨back, List.forall_mem_singleton.mpr ?_⟩
    exact self.child (validate_eq_ok_iff.mp accepted) adopts

theorem descend_of_run (run : ReflTransGen (Delegates policy) [root] fleet) :
    ∀ state ∈ fleet, Descends policy root state := by
  induction run with
  | refl => exact List.forall_mem_singleton.mpr .refl
  | tail _ last ih => exact last.descend ih

/-! ## The size of a fleet -/

theorem weight_of_run (run : ReflTransGen (Delegates policy) [root] fleet) :
    (growth policy).weight fleet = capacity policy root :=
  (Branching.weight_of_grown (run.lift id fun _ _ => Delegates.grows)).trans weight_singleton

theorem exists_next (member : parent ∈ fleet) (admitted : (growth policy).Open parent) :
    ∃ next, Delegates policy fleet next := by
  obtain ⟨before, after, rfl⟩ := List.append_of_mem member
  obtain ⟨child, -, -, delegates⟩ := exists_delegates (open_iff.mp admitted)
  exact ⟨_, delegates⟩

/-- A fleet is stuck exactly when no member is admitted another child. -/
theorem stuck_iff : (∀ next, ¬ Delegates policy fleet next) ↔
    ∀ state ∈ fleet, ¬ (growth policy).Open state := by
  refine ⟨?_, ?_⟩
  · intro stuck state member admitted
    obtain ⟨next, delegates⟩ := exists_next member admitted
    exact stuck next delegates
  · intro closed next delegates
    cases delegates with
    | mk accepted =>
      have admits := (validate_eq_ok_iff.mp accepted).admits
      exact closed _ (List.mem_append_right _ List.mem_cons_self) (open_iff.mpr admits)

/-- The whole authority and budget of the root. -/
def Undivided (root : ParentRunState) (fleet : List ParentRunState) : Prop :=
  ∀ state ∈ fleet, state.authority = root.authority ∧ state.budget = root.budget

/-- A fleet in which every member has all of the root can grow on as one. -/
theorem Undivided.delegates (undivided : Undivided root fleet) (member : parent ∈ fleet)
    (admitted : (growth policy).Open parent) :
    ∃ next, Delegates policy fleet next ∧ Undivided root next := by
  obtain ⟨before, after, rfl⟩ := List.append_of_mem member
  obtain ⟨state, authority, budget, delegates⟩ := exists_delegates (open_iff.mp admitted)
  obtain ⟨front, self, back⟩ :=
    List.forall_mem_append.trans (and_congr_right' List.forall_mem_cons) |>.mp undivided
  refine ⟨_, delegates, ?_⟩
  refine List.forall_mem_append.mpr ⟨front, List.forall_mem_cons.mpr ⟨self, ?_⟩⟩
  refine List.forall_mem_append.mpr ⟨back, List.forall_mem_singleton.mpr ?_⟩
  exact ⟨authority.trans self.1, budget.trans self.2⟩

theorem exists_undivided : ∃ full, ReflTransGen (Delegates policy) [root] full ∧
    Undivided root full ∧ full.length = capacity policy root := by
  obtain ⟨full, run, undivided, closed⟩ := Branching.exists_full (Undivided root)
    (fun _ _ => Delegates.grows) (fun _ holds _ => holds.delegates)
    (List.forall_mem_singleton.mpr ⟨rfl, rfl⟩)
  exact ⟨full, run, undivided, (Branching.full_iff.mpr closed).trans (weight_of_run run)⟩

end

/-- In whatever order the runs of a fleet delegate, its members keep the lineage, the
tenant and the workspace of the root and stay within its grant, and the policy fixes
the size at which the fleet stops.  In the fullest fleet every member has all of the
root's authority and budget. -/
theorem fleet_capacity (policy : DelegationPolicy) (root : ParentRunState) :
    (∀ fleet, ReflTransGen (Delegates policy) [root] fleet →
      (∀ state ∈ fleet, Descends policy root state) ∧
      fleet.length ≤ capacity policy root ∧
      ((∀ next, ¬ Delegates policy fleet next) ↔ fleet.length = capacity policy root) ∧
      ∃ full, ReflTransGen (Delegates policy) fleet full ∧
        full.length = capacity policy root) ∧
    ∃ full, ReflTransGen (Delegates policy) [root] full ∧ Undivided root full ∧
      full.length = capacity policy root := by
  refine ⟨?_, exists_undivided⟩
  intro fleet run
  have weight := weight_of_run run
  refine ⟨descend_of_run run, ?_, ?_, ?_⟩
  · rw [← weight]
    exact Branching.length_le_weight
  · rw [stuck_iff, ← weight, Branching.full_iff]
  · obtain ⟨full, rest, -, closed⟩ := Branching.exists_full (fun _ => True)
      (fun _ _ => Delegates.grows)
      (fun _ _ _ member admitted => (exists_next member admitted).imp fun _ delegates =>
        ⟨delegates, trivial⟩)
      trivial
    exact ⟨full, rest, (Branching.full_iff.mpr closed).trans (weight_of_run (run.trans rest))⟩

/-! ## A fleet of two levels -/

def fleetPolicy : DelegationPolicy := DelegationChain.repeatedLineage.policy 0

def fleetRoot : ParentRunState := DelegationChain.repeatedLineage.state (Fin.castSucc 0)

def fleetChild : ParentRunState := DelegationChain.repeatedLineage.state (Fin.succ 0)

theorem fleet_capacity_researchState :
    capacity fleetPolicy fleetRoot = 7 ∧
      ∃ full, ReflTransGen (Delegates fleetPolicy)
        [{ fleetRoot with childCount := 1 }, fleetChild] full ∧ full.length = 7 := by
  have accepted : validate fleetRoot (DelegationChain.repeatedLineage.request 0) fleetPolicy =
      .ok () := by
    decide
  have adopts : fleetChild.Adopts (DelegationChain.repeatedLineage.request 0) :=
    ⟨rfl, rfl, rfl, rfl, rfl, rfl⟩
  have run : ReflTransGen (Delegates fleetPolicy) [fleetRoot]
      [{ fleetRoot with childCount := 1 }, fleetChild] :=
    .single (@Delegates.mk fleetPolicy [] [] fleetRoot fleetChild _ accepted adopts rfl)
  have size : capacity fleetPolicy fleetRoot = 7 := by decide
  obtain ⟨-, -, -, grown⟩ := (fleet_capacity fleetPolicy fleetRoot).1 _ run
  rw [size] at grown
  exact ⟨size, grown⟩

end DelegationGuard

end Genesis

import Mathlib.Data.Fin.VecNotation
import Genesis.Delegation.Guard
import Genesis.Lib.Chain

/-!
# Delegation chains

A `DelegationChain n` is a run state followed by `n` delegations, each accepted
by the guard against the state before it and adopted by the state after it.
The policies may differ from link to link, and `childCount` of an adopting
state is free.

* `Grant` is what a run may use: its permissions, scopes and tools as sets and
  the ceilings of its budget, ordered componentwise.  `DelegationChain.grant_antitone`
  is the abstract law: a grant never grows along a chain.
* `DelegationChain.bounded` reads that law back in the terms of the code.
* `DelegationChain.acyclic_iff` says which requests keep a lineage free of
  repeated agents and runs.  The guard only rejects an agent that the request's
  own ancestry names, so `repeatedLineage` is an accepted chain with a cycle.
-/

namespace Genesis

open DelegationGuard

/-! ## Grants -/

/-- What a run may use. -/
@[ext] structure Grant where
  permissions : Set String
  scopes : Set String
  tools : Set String
  ceilings : BudgetField → WithTop ℚ

namespace Grant

/-- A smaller grant allows nothing the greater one does not. -/
instance : PartialOrder Grant where
  le g h := g.permissions ⊆ h.permissions ∧ g.scopes ⊆ h.scopes ∧ g.tools ⊆ h.tools ∧
    g.ceilings ≤ h.ceilings
  le_refl g := ⟨subset_rfl, subset_rfl, subset_rfl, le_rfl⟩
  le_trans _ _ _ first second :=
    ⟨first.1.trans second.1, first.2.1.trans second.2.1, first.2.2.1.trans second.2.2.1,
      first.2.2.2.trans second.2.2.2⟩
  le_antisymm _ _ below above :=
    Grant.ext (below.1.antisymm above.1) (below.2.1.antisymm above.2.1)
      (below.2.2.1.antisymm above.2.2.1) (below.2.2.2.antisymm above.2.2.2)

theorem le_iff {g h : Grant} :
    g ≤ h ↔ g.permissions ⊆ h.permissions ∧ g.scopes ⊆ h.scopes ∧ g.tools ⊆ h.tools ∧
      g.ceilings ≤ h.ceilings :=
  Iff.rfl

end Grant

def ParentRunState.grant (state : ParentRunState) : Grant where
  permissions := state.authority.permissionRefs
  scopes := state.authority.scopeRefs
  tools := state.authority.allowedToolIds
  ceilings := state.budget.ceilings

theorem ParentRunState.grant_le_iff {s t : ParentRunState} :
    t.grant ≤ s.grant ↔ t.authority.permissionRefs ⊆ s.authority.permissionRefs ∧
      t.authority.scopeRefs ⊆ s.authority.scopeRefs ∧
      t.authority.allowedToolIds ⊆ s.authority.allowedToolIds ∧
      s.budget.contains t.budget = true := by
  rw [Grant.le_iff, ExecutionBudget.contains_iff]
  simp only [grant, Finset.coe_subset]

/-! ## Chains -/

/-- The state of a child run takes its identity, depth, authority and budget
from the request that created it. -/
structure ParentRunState.Adopts (state : ParentRunState) (request : DelegationRequest) : Prop where
  runId : state.runId = request.runId
  rootRunId : state.rootRunId = request.rootRunId
  agentId : state.agentId = request.childAgentId
  depth : state.depth = request.depth
  authority : state.authority = request.authority
  budget : state.budget = request.budget

structure DelegationChain (n : ℕ) where
  state : Fin (n + 1) → ParentRunState
  request : Fin n → DelegationRequest
  policy : Fin n → DelegationPolicy
  accepted : ∀ i : Fin n, validate (state i.castSucc) (request i) (policy i) = .ok ()
  adopted : ∀ i : Fin n, (state i.succ).Adopts (request i)

namespace DelegationChain

section

variable {n : ℕ} (chain : DelegationChain n)

theorem accepts (i : Fin n) :
    Accepts (chain.state i.castSucc) (chain.request i) (chain.policy i) :=
  validate_eq_ok_iff.mp (chain.accepted i)

theorem grant_step (i : Fin n) :
    (chain.state i.succ).grant ≤ (chain.state i.castSucc).grant := by
  have accepts := chain.accepts i
  have adopted := chain.adopted i
  rw [ParentRunState.grant_le_iff, adopted.authority, adopted.budget]
  exact ⟨accepts.permissionRefs, accepts.scopeRefs, accepts.allowedToolIds, accepts.budget⟩

/-- A grant never grows along a chain, however long. -/
theorem grant_antitone : Antitone fun i => (chain.state i).grant :=
  Fin.antitone_iff_succ_le.mpr chain.grant_step

theorem rootRunId_eq (i : Fin (n + 1)) : (chain.state i).rootRunId = (chain.state 0).rootRunId :=
  Chain.eq_start (f := fun i => (chain.state i).rootRunId)
    (fun i => (chain.adopted i).rootRunId.trans (chain.accepts i).rootRunId) i

theorem tenantId_eq (i : Fin (n + 1)) :
    (chain.state i).authority.tenantId = (chain.state 0).authority.tenantId :=
  Chain.eq_start (f := fun i => (chain.state i).authority.tenantId)
    (fun i => by
      have tenant := (chain.accepts i).tenantId
      rwa [← (chain.adopted i).authority] at tenant) i

theorem workspaceId_eq (i : Fin (n + 1)) :
    (chain.state i).authority.workspaceId = (chain.state 0).authority.workspaceId :=
  Chain.eq_start (f := fun i => (chain.state i).authority.workspaceId)
    (fun i => by
      have workspace := (chain.accepts i).workspaceId
      rwa [← (chain.adopted i).authority] at workspace) i

theorem depth_eq (i : Fin (n + 1)) : (chain.state i).depth = (chain.state 0).depth + i :=
  Chain.counter (f := fun i => (chain.state i).depth)
    (fun i => (chain.adopted i).depth.trans (chain.accepts i).depth) i

/-- No link lies deeper than its own policy allows. -/
theorem length_le (i : Fin n) :
    (i : ℕ) + 1 ≤ (chain.policy i).maxDepth - (chain.state 0).depth := by
  have reached : (chain.state i.succ).depth = (chain.state 0).depth + (i + 1) := by
    rw [chain.depth_eq, Fin.val_succ]
  have allowed : (chain.state i.succ).depth ≤ (chain.policy i).maxDepth := by
    rw [(chain.adopted i).depth]
    exact (chain.accepts i).maxDepth
  omega

end

/-- Authority, budget and lineage never grow along a chain of delegations, and
the policy of the last link bounds the length of the chain. -/
theorem bounded {n : ℕ} (chain : DelegationChain n) :
    (∀ i, (chain.state i).rootRunId = (chain.state 0).rootRunId ∧
      (chain.state i).authority.tenantId = (chain.state 0).authority.tenantId ∧
      (chain.state i).authority.workspaceId = (chain.state 0).authority.workspaceId) ∧
    (∀ j i, j ≤ i →
      (chain.state i).authority.permissionRefs ⊆ (chain.state j).authority.permissionRefs ∧
      (chain.state i).authority.scopeRefs ⊆ (chain.state j).authority.scopeRefs ∧
      (chain.state i).authority.allowedToolIds ⊆ (chain.state j).authority.allowedToolIds ∧
      (chain.state j).budget.contains (chain.state i).budget = true) ∧
    (∀ i, (chain.state i).depth = (chain.state 0).depth + i) ∧
    (∀ last : Fin n, (last : ℕ) + 1 = n →
      n ≤ (chain.policy last).maxDepth - (chain.state 0).depth) := by
  refine ⟨fun i => ⟨chain.rootRunId_eq i, chain.tenantId_eq i, chain.workspaceId_eq i⟩,
    fun j i le => ?_, chain.depth_eq, fun last eq => ?_⟩
  · exact ParentRunState.grant_le_iff.mp (chain.grant_antitone le)
  · have bound := chain.length_le last
    omega

/-! ## Repeated agents and runs -/

/-- A lineage names no agent and no run twice exactly when, at every link, the
ancestry the requester presents does not leave out the child's own agent if that
agent is already on the chain, and the request's run id is new to the chain. -/
theorem acyclic_iff {n : ℕ} (chain : DelegationChain n) :
    (Function.Injective (fun i => (chain.state i).agentId) ∧
      Function.Injective (fun i => (chain.state i).runId)) ↔
    ∀ (i : Fin n), ∀ j ≤ i.castSucc,
      ((chain.state j).agentId = (chain.request i).childAgentId →
        (chain.request i).childAgentId ∈ (chain.request i).ancestryAgentIds) ∧
      (chain.state j).runId ≠ (chain.request i).runId := by
  have fresh : ∀ (i : Fin n) (j : Fin (n + 1)),
      ((chain.state j).agentId = (chain.request i).childAgentId →
        (chain.request i).childAgentId ∈ (chain.request i).ancestryAgentIds) ↔
      (chain.state j).agentId ≠ (chain.state i.succ).agentId := by
    intro i j
    have unlisted := (chain.accepts i).ancestry
    rw [(chain.adopted i).agentId]
    exact ⟨fun listed same => unlisted (listed same), fun ne same => absurd same ne⟩
  rw [Chain.injective_iff_fresh, Chain.injective_iff_fresh, ← forall_and]
  apply forall_congr'
  intro i
  rw [← forall₂_and]
  apply forall₂_congr
  intro j _
  rw [fresh, (chain.adopted i).runId]

/-- The ancestry that names every agent already on the chain is enough. -/
theorem agentIds_injective_of_ancestry {n : ℕ} (chain : DelegationChain n)
    (complete : ∀ (i : Fin n), ∀ j ≤ i.castSucc,
      (chain.state j).agentId ∈ (chain.request i).ancestryAgentIds) :
    Function.Injective fun i => (chain.state i).agentId := by
  apply Chain.injective_iff_fresh.mpr
  intro i j le same
  apply (chain.accepts i).ancestry
  rw [← (chain.adopted i).agentId, ← same]
  exact complete i j le

/-! ## An accepted cycle -/

def researchAuthority : AuthorityEnvelope where
  tenantId := "tenant_001"
  workspaceId := "workspace_001"
  permissionRefs := {"research.read"}
  scopeRefs := {"scope.research"}
  allowedToolIds := {"tool.source.read"}

def researchBudget : ExecutionBudget :=
  ⟨{ maxTokens := some 1000, maxChildren := some 2, maxDepth := some 3,
     timeoutSeconds := some 60 }, by decide⟩

def researchState (runId agentId : String) (depth : ℕ)
    (runId_length : 3 ≤ runId.length := by decide)
    (agentId_length : 3 ≤ agentId.length := by decide) : ParentRunState where
  runId := runId
  rootRunId := "run_root_001"
  agentId := agentId
  depth := depth
  childCount := 0
  authority := researchAuthority
  budget := researchBudget
  runId_length := runId_length
  agentId_length := agentId_length

def researchRequest (runId parentRunId childAgentId : String) (depth : ℕ)
    (ancestryAgentIds : List String) (runId_length : 3 ≤ runId.length := by decide)
    (parentRunId_length : 3 ≤ parentRunId.length := by decide)
    (childAgentId_length : 3 ≤ childAgentId.length := by decide)
    (depth_pos : 1 ≤ depth := by decide) : DelegationRequest where
  runId := runId
  rootRunId := "run_root_001"
  parentRunId := parentRunId
  childAgentId := childAgentId
  depth := depth
  ancestryAgentIds := ancestryAgentIds
  authority := researchAuthority
  budget := researchBudget
  timeoutSeconds := 30
  task := [("question", .str "Summarize evidence")]
  runId_length := runId_length
  parentRunId_length := parentRunId_length
  childAgentId_length := childAgentId_length
  depth_pos := depth_pos

/-- Agent and run return after two delegations: the second request names only
its immediate parent as ancestry. -/
def repeatedLineage : DelegationChain 2 where
  state := ![researchState "run_a_001" "agent_a" 1, researchState "run_b_001" "agent_b" 2,
    researchState "run_a_001" "agent_a" 3]
  request := ![researchRequest "run_b_001" "run_a_001" "agent_b" 2 ["agent_a"],
    researchRequest "run_a_001" "run_b_001" "agent_a" 3 ["agent_b"]]
  policy := fun _ => { maxDepth := 3, maxChildren := 2, timeoutSeconds := 60 }
  accepted := by decide
  adopted
    | 0 => ⟨rfl, rfl, rfl, rfl, rfl, rfl⟩
    | 1 => ⟨rfl, rfl, rfl, rfl, rfl, rfl⟩

theorem bounded_repeatedLineage :
    (repeatedLineage.state 0).budget.contains (repeatedLineage.state 2).budget = true ∧
      2 ≤ (repeatedLineage.policy 1).maxDepth - (repeatedLineage.state 0).depth :=
  ⟨(repeatedLineage.bounded.2.1 0 2 (Fin.zero_le 2)).2.2.2, repeatedLineage.bounded.2.2.2 1 rfl⟩

/-- The guard accepts lineages that repeat an agent and a run. -/
theorem acyclic_counterexample :
    ¬ ∀ (n : ℕ) (chain : DelegationChain n),
      Function.Injective (fun i => (chain.state i).agentId) ∧
        Function.Injective (fun i => (chain.state i).runId) := by
  intro acyclic
  have ends : (0 : Fin 3) = 2 := (acyclic 2 repeatedLineage).1 rfl
  exact absurd ends (by decide)

end DelegationChain

end Genesis

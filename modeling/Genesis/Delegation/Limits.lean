import Genesis.Delegation.Lineage

/-!
# Limits stated twice

A parent's `max_children` and `timeout_seconds` stand in its own budget and in
the delegation policy.  The guard compares a request's timeout and the parent's
child count with the policy only; the budget is compared with the budget of the
request, whose `timeout_seconds` nothing ties to the request's own.

* `DelegationRequest.WithinBudget` is what the parent's budget asks of a request.
* `DelegationPolicy.KeepsTo` is what makes the policy ask as much, and
  `withinBudget_iff` that nothing less does: `fullestRequest` uses up whatever
  the policy leaves open.
* `DelegationChain.timeoutSeconds_le` carries the timeout to every ancestor.
-/

namespace Genesis

open DelegationGuard

/-- The request stays below the timeout and the number of children of the
budget its parent runs on. -/
structure DelegationRequest.WithinBudget (child : DelegationRequest) (parent : ParentRunState) :
    Prop where
  timeoutSeconds : ∀ limit ∈ parent.budget.timeoutSeconds, child.timeoutSeconds ≤ limit
  maxChildren : ∀ limit ∈ parent.budget.maxChildren, parent.childCount < limit

/-- The policy lets the parent delegate once more. -/
structure DelegationPolicy.Admits (policy : DelegationPolicy) (parent : ParentRunState) :
    Prop where
  maxDepth : parent.depth + 1 ≤ policy.maxDepth
  maxChildren : parent.childCount < policy.maxChildren

/-- The policy's timeout is within the parent's, and the parent's child count is
not at or above the limit of its budget while the policy has room for more. -/
structure DelegationPolicy.KeepsTo (policy : DelegationPolicy) (parent : ParentRunState) :
    Prop where
  timeoutSeconds : ∀ limit ∈ parent.budget.timeoutSeconds, policy.timeoutSeconds ≤ limit
  maxChildren : ∀ limit ∈ parent.budget.maxChildren,
    ¬ (limit ≤ parent.childCount ∧ parent.childCount < policy.maxChildren)

namespace DelegationGuard

variable {parent : ParentRunState} {child : DelegationRequest} {policy : DelegationPolicy}

theorem Accepts.admits (accepts : Accepts parent child policy) : policy.Admits parent := by
  have depth := accepts.depth
  have maxDepth := accepts.maxDepth
  refine ⟨?_, accepts.maxChildren⟩
  omega

/-- A policy no looser than the budget keeps to it, whatever the child count. -/
theorem keepsTo_of_le
    (timeout : ∀ limit ∈ parent.budget.timeoutSeconds, policy.timeoutSeconds ≤ limit)
    (children : ∀ limit ∈ parent.budget.maxChildren, policy.maxChildren ≤ limit) :
    policy.KeepsTo parent := by
  refine ⟨timeout, ?_⟩
  rintro limit set ⟨reached, room⟩
  have least := children limit set
  omega

theorem Accepts.withinBudget (accepts : Accepts parent child policy)
    (keepsTo : policy.KeepsTo parent) : child.WithinBudget parent := by
  refine ⟨?_, ?_⟩
  · intro limit set
    exact accepts.timeout.trans (keepsTo.timeoutSeconds limit set)
  · intro limit set
    have room := accepts.maxChildren
    have apart := keepsTo.maxChildren limit set
    omega

/-- The request that uses up what the guard lets through: all the authority and
the budget of the parent, and the timeout of the policy. -/
def fullestRequest (parent : ParentRunState) (policy : DelegationPolicy) : DelegationRequest where
  runId := "run_child_001"
  rootRunId := parent.rootRunId
  parentRunId := parent.runId
  childAgentId := "agent_child"
  depth := parent.depth + 1
  ancestryAgentIds := []
  authority := parent.authority
  budget := parent.budget
  timeoutSeconds := policy.timeoutSeconds
  task := []
  rootRunId_length := parent.rootRunId_length
  parentRunId_length := parent.runId_length
  depth_pos := Nat.le_add_left 1 parent.depth
  timeoutSeconds_pos := policy.timeoutSeconds_pos

theorem accepts_fullestRequest (admits : policy.Admits parent) :
    Accepts parent (fullestRequest parent policy) policy where
  rootRunId := rfl
  parentRunId := rfl
  depth := rfl
  maxDepth := admits.maxDepth
  maxChildren := admits.maxChildren
  ancestry := List.not_mem_nil
  timeout := le_rfl
  tenantId := rfl
  workspaceId := rfl
  permissionRefs := subset_rfl
  scopeRefs := subset_rfl
  allowedToolIds := subset_rfl
  budget := ExecutionBudget.contains_iff.mpr le_rfl

/-- The parent's budget binds every request the guard accepts exactly when the
policy admits none or keeps to the budget itself. -/
theorem withinBudget_iff :
    (∀ child, validate parent child policy = .ok () → child.WithinBudget parent) ↔
      ¬ policy.Admits parent ∨ policy.KeepsTo parent := by
  refine ⟨?_, ?_⟩
  · intro binds
    by_cases admits : policy.Admits parent
    · -- the request that leaves nothing over shows both limits
      have within := binds _ (validate_eq_ok_iff.mpr (accepts_fullestRequest admits))
      refine .inr ⟨within.timeoutSeconds, ?_⟩
      intro limit set gap
      have below := within.maxChildren limit set
      omega
    · exact .inl admits
  · intro condition child valid
    have accepts := validate_eq_ok_iff.mp valid
    rcases condition with closed | keepsTo
    · exact absurd accepts.admits closed
    · exact accepts.withinBudget keepsTo

end DelegationGuard

/-! ## Along a chain -/

namespace ExecutionBudget

/-- A contained budget sets a timeout wherever the containing one does, and none later. -/
theorem timeoutSeconds_of_contains {parent child : ExecutionBudget}
    (contains : parent.contains child = true) {limit : ℕ} (set : limit ∈ parent.timeoutSeconds) :
    ∃ own ∈ child.timeoutSeconds, own ≤ limit := by
  have within := List.all_eq_true.mp contains .timeoutSeconds (BudgetField.mem_all _)
  rw [Option.mem_def] at set
  cases unset : child.timeoutSeconds with
  | none => simp [ExecutionBudgetFields.value, Bounds.within, set, unset] at within
  | some own =>
    have le : (own : ℚ) ≤ limit := by
      simpa only [ExecutionBudgetFields.value, Bounds.within, set, unset, Option.map_some,
        decide_eq_true_eq] using within
    exact ⟨own, rfl, by exact_mod_cast le⟩

end ExecutionBudget

namespace DelegationChain

variable {n : ℕ} (chain : DelegationChain n)

/-- Where every link's policy keeps to the budget of its parent, no request asks
for more time than any run before it has. -/
theorem timeoutSeconds_le (keepsTo : ∀ i, (chain.policy i).KeepsTo (chain.state i.castSucc))
    (i : Fin n) {j : Fin (n + 1)} (le : j ≤ i.castSucc) {limit : ℕ}
    (set : limit ∈ (chain.state j).budget.timeoutSeconds) :
    (chain.request i).timeoutSeconds ≤ limit := by
  have grant := ParentRunState.grant_le_iff.mp (chain.grant_antitone le)
  obtain ⟨own, ownSet, ownLe⟩ := ExecutionBudget.timeoutSeconds_of_contains grant.2.2.2 set
  have within := (chain.accepts i).withinBudget (keepsTo i)
  exact (within.timeoutSeconds own ownSet).trans ownLe

end DelegationChain

/-- The budget of a parent binds its delegations exactly when the policy admits
none or keeps to the budget; along a chain of such links the timeout budget of
every ancestor binds every request. -/
theorem budget_binds_iff (parent : ParentRunState) (policy : DelegationPolicy) :
    ((∀ child, validate parent child policy = .ok () →
        (∀ limit ∈ parent.budget.timeoutSeconds, child.timeoutSeconds ≤ limit) ∧
          ∀ limit ∈ parent.budget.maxChildren, parent.childCount < limit) ↔
      ¬ policy.Admits parent ∨ policy.KeepsTo parent) ∧
    ∀ (n : ℕ) (chain : DelegationChain n),
      (∀ i, (chain.policy i).KeepsTo (chain.state i.castSucc)) →
        ∀ i, ∀ j ≤ i.castSucc, ∀ limit ∈ (chain.state j).budget.timeoutSeconds,
          (chain.request i).timeoutSeconds ≤ limit := by
  refine ⟨?_, ?_⟩
  · rw [← withinBudget_iff]
    apply forall₂_congr
    intro child _
    exact ⟨fun limits => ⟨limits.1, limits.2⟩, fun within => ⟨within.1, within.2⟩⟩
  · intro n chain keepsTo i j le limit set
    exact chain.timeoutSeconds_le keepsTo i le set

theorem keepsTo_repeatedLineage (i : Fin 2) :
    (DelegationChain.repeatedLineage.policy i).KeepsTo
      (DelegationChain.repeatedLineage.state i.castSucc) := by
  have budget : ∀ i, (DelegationChain.repeatedLineage.state i).budget =
      DelegationChain.researchBudget := by decide
  apply keepsTo_of_le
  · rw [budget]
    decide +revert
  · rw [budget]
    decide +revert

theorem budget_binds_repeatedLineage :
    (DelegationChain.repeatedLineage.request 1).timeoutSeconds ≤ 60 :=
  (budget_binds_iff (DelegationChain.repeatedLineage.state 0)
    (DelegationChain.repeatedLineage.policy 0)).2 2 DelegationChain.repeatedLineage
      keepsTo_repeatedLineage 1 0 (Fin.zero_le _) 60 rfl

/-! ## A policy looser than the budget -/

/-- A parent of two children whose budget allows two. -/
def exhaustedState : ParentRunState :=
  { DelegationChain.repeatedLineage.state 0 with childCount := 2 }

def looserPolicy : DelegationPolicy := { maxDepth := 3, maxChildren := 4, timeoutSeconds := 120 }

/-- The guard lets a third child of twice the parent's timeout through. -/
theorem budget_binds_counterexample :
    ¬ ∀ (parent : ParentRunState) (child : DelegationRequest) (policy : DelegationPolicy),
      validate parent child policy = .ok () →
        (∀ limit ∈ parent.budget.timeoutSeconds, child.timeoutSeconds ≤ limit) ∧
          ∀ limit ∈ parent.budget.maxChildren, parent.childCount < limit := by
  intro binds
  have accepted : validate exhaustedState (fullestRequest exhaustedState looserPolicy)
      looserPolicy = .ok () := by decide
  have limits := binds _ _ _ accepted
  exact absurd (limits.1 60 rfl) (by decide)

end Genesis

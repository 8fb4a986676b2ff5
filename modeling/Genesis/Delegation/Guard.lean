import Mathlib.Data.Finset.Basic
import Genesis.Limits

/-!
# The delegation guard

`DelegationGuard.validate` compares one delegation request with the run that
issues it and with the delegation policy.  The guard keeps no state: what it
knows about earlier runs is what the parent state and the request say.
-/

namespace Genesis

open Py

structure AuthorityEnvelope where
  tenantId : String
  workspaceId : String
  permissionRefs : Finset String := ∅
  scopeRefs : Finset String
  allowedToolIds : Finset String := ∅
  tenantId_length : 3 ≤ tenantId.length := by decide
  workspaceId_length : 3 ≤ workspaceId.length := by decide
  scopeRefs_nonempty : scopeRefs.Nonempty := by decide
  deriving DecidableEq

structure DelegationPolicy where
  maxDepth : ℕ
  maxChildren : ℕ
  timeoutSeconds : ℕ
  timeoutSeconds_pos : 1 ≤ timeoutSeconds := by decide
  deriving DecidableEq

structure ParentRunState where
  runId : String
  rootRunId : String
  agentId : String
  depth : ℕ
  childCount : ℕ
  authority : AuthorityEnvelope
  budget : ExecutionBudget
  runId_length : 3 ≤ runId.length := by decide
  rootRunId_length : 3 ≤ rootRunId.length := by decide
  agentId_length : 3 ≤ agentId.length := by decide
  deriving DecidableEq

structure DelegationRequest where
  runId : String
  rootRunId : String
  parentRunId : String
  childAgentId : String
  depth : ℕ
  ancestryAgentIds : List String
  authority : AuthorityEnvelope
  budget : ExecutionBudget
  timeoutSeconds : ℕ
  task : JsonObject
  runId_length : 3 ≤ runId.length := by decide
  rootRunId_length : 3 ≤ rootRunId.length := by decide
  parentRunId_length : 3 ≤ parentRunId.length := by decide
  childAgentId_length : 3 ≤ childAgentId.length := by decide
  depth_pos : 1 ≤ depth := by decide
  timeoutSeconds_pos : 1 ≤ timeoutSeconds := by decide
  deriving DecidableEq

namespace DelegationGuard

def deny (message : String) : Except PyException Unit := .error (.delegationDenied message)

/-- `DelegationGuard.validate`. -/
def validate (parent : ParentRunState) (child : DelegationRequest) (policy : DelegationPolicy) :
    Except PyException Unit :=
  if child.rootRunId ≠ parent.rootRunId ∨ child.parentRunId ≠ parent.runId then
    deny "Delegation lineage does not match the parent run"
  else if child.depth ≠ parent.depth + 1 ∨ child.depth > policy.maxDepth then
    deny "Delegation exceeds max_depth or has invalid depth"
  else if parent.childCount ≥ policy.maxChildren then
    deny "Delegation exceeds max_children"
  else if child.childAgentId ∈ child.ancestryAgentIds then
    deny "Delegation cycle detected"
  else if child.timeoutSeconds > policy.timeoutSeconds then
    deny "Child timeout exceeds delegation policy"
  else if child.authority.tenantId ≠ parent.authority.tenantId then
    deny "Child tenant cannot differ from parent"
  else if child.authority.workspaceId ≠ parent.authority.workspaceId then
    deny "Child workspace cannot differ from parent"
  else if ¬ child.authority.permissionRefs ⊆ parent.authority.permissionRefs then
    deny "Child permissions cannot exceed parent permissions"
  else if ¬ child.authority.scopeRefs ⊆ parent.authority.scopeRefs then
    deny "Child scopes cannot exceed parent scopes"
  else if ¬ child.authority.allowedToolIds ⊆ parent.authority.allowedToolIds then
    deny "Child tools cannot exceed parent tool restrictions"
  else if ¬ parent.budget.contains child.budget then
    deny "Child execution budget cannot exceed parent budget"
  else .ok ()

/-- Everything an accepted request satisfies. -/
structure Accepts (parent : ParentRunState) (child : DelegationRequest)
    (policy : DelegationPolicy) : Prop where
  rootRunId : child.rootRunId = parent.rootRunId
  parentRunId : child.parentRunId = parent.runId
  depth : child.depth = parent.depth + 1
  maxDepth : child.depth ≤ policy.maxDepth
  maxChildren : parent.childCount < policy.maxChildren
  ancestry : child.childAgentId ∉ child.ancestryAgentIds
  timeout : child.timeoutSeconds ≤ policy.timeoutSeconds
  tenantId : child.authority.tenantId = parent.authority.tenantId
  workspaceId : child.authority.workspaceId = parent.authority.workspaceId
  permissionRefs : child.authority.permissionRefs ⊆ parent.authority.permissionRefs
  scopeRefs : child.authority.scopeRefs ⊆ parent.authority.scopeRefs
  allowedToolIds : child.authority.allowedToolIds ⊆ parent.authority.allowedToolIds
  budget : parent.budget.contains child.budget = true

/-- One branch of a chain of denials. -/
theorem deny_or_eq_ok_iff {p : Prop} [Decidable p] {message : String}
    {rest : Except PyException Unit} :
    (if p then deny message else rest) = .ok () ↔ ¬ p ∧ rest = .ok () := by
  split <;> simp_all [deny]

theorem validate_eq_ok_iff {parent : ParentRunState} {child : DelegationRequest}
    {policy : DelegationPolicy} :
    validate parent child policy = .ok () ↔ Accepts parent child policy := by
  simp only [validate, deny_or_eq_ok_iff, not_or, not_not, not_lt, ge_iff_le, not_le, gt_iff_lt,
    ne_eq]
  refine ⟨?_, ?_⟩
  · intro h
    obtain ⟨⟨root, lineage⟩, ⟨depth, maxDepth⟩, children, ancestry, timeout, tenant, workspace,
      permissions, scopes, tools, budget, -⟩ := h
    exact ⟨root, lineage, depth, maxDepth, children, ancestry, timeout, tenant, workspace,
      permissions, scopes, tools, budget⟩
  · intro a
    exact ⟨⟨a.rootRunId, a.parentRunId⟩, ⟨a.depth, a.maxDepth⟩, a.maxChildren, a.ancestry,
      a.timeout, a.tenantId, a.workspaceId, a.permissionRefs, a.scopeRefs, a.allowedToolIds,
      a.budget, trivial⟩

end DelegationGuard

end Genesis

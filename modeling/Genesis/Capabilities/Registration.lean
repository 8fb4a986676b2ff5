import Mathlib.Logic.Relation
import Genesis.Capabilities.Privilege

/-!
# Registering what was drafted

A result that proposes drafts asks the Backend to register them, and the catalog of
a later request can have an item for a drafted capability.  The id of a draft is
never one that a requirement hints at (`capabilityId_not_hinted`), so such an item
is not looked at: `registration_inert` says that the factory analyzes a requirement
as if nothing it ever drafted had been registered.
-/

namespace Genesis

open Py Relation

namespace CapabilityResolver

/-- Every id that a requirement can hint at. -/
def HINTED_IDS : List String :=
  CAPABILITY_HINTS.flatMap Prod.snd ++ ["global.search", "organization.context.read"]

theorem candidates_subset (normalized : String) : candidates normalized ⊆ HINTED_IDS := by
  unfold candidates HINTED_IDS
  dsimp only
  split
  · exact List.subset_append_right _ _
  · refine List.subset_append_of_subset_left _ fun id member => ?_
    obtain ⟨hint, kept, listed⟩ := List.mem_flatMap.mp member
    exact List.mem_flatMap.mpr ⟨hint, (List.mem_filter.mp kept).1, listed⟩

/-- No requirement hints at the id of a draft. -/
theorem append_not_mem_candidates (normalized digest : String) :
    "capability_" ++ digest ∉ candidates normalized := by
  have hinted : ∀ id ∈ HINTED_IDS, ¬ "capability_".toList <+: id.toList := by decide +kernel
  intro member
  refine hinted _ (candidates_subset normalized member) ?_
  rw [String.toList_append]
  exact List.prefix_append _ _

theorem candidateCapabilityIds_understand (resolver : CapabilityResolver)
    (requirement : Requirement) :
    (resolver.understand requirement).candidateCapabilityIds =
      fromKeys (candidates (resolver.normalize requirement.statement)) := by
  unfold understand
  dsimp only

end CapabilityResolver

namespace CapabilityFactory

variable {factory : CapabilityFactory} {request : FactoryAnalysisRequest}
  {result : FactoryAnalysisResult} {draft : JsonObject} {item : CapabilityCatalogItem}
  {catalog later : List CapabilityCatalogItem} {requirement : Requirement}

/-- The draft of a proposal is named after a digest of the statement. -/
theorem capabilityId_of_create {resolution : CapabilityResolution}
    (created : factory.create requirement resolution = .ok result)
    (drafted : result.capabilityDraft = some draft) :
    draft.get? "capability_id" = some (.str ("capability_" ++
      takeChars 16 (factory.platform.sha256Hex requirement.statement))) := by
  simp only [create, except_bind_eq_ok] at created
  obtain ⟨accepted, valid, agentDraft, -, built⟩ := created
  cases CanonicalContractCatalog.eq_of_validate valid
  rw [validatedResult_eq built] at drafted
  cases drafted
  rfl

theorem capabilityId_of_analyze (analyzed : factory.analyze request = .ok result)
    (drafted : result.capabilityDraft = some draft) :
    draft.get? "capability_id" = some (.str ("capability_" ++
      takeChars 16 (factory.platform.sha256Hex
        request.requirement.toResolverRequirement.statement))) := by
  simp only [analyze, propose, except_bind_eq_ok] at analyzed
  obtain ⟨-, -, resolution, -, proposed⟩ := analyzed
  split at proposed
  · rw [validatedResult_eq proposed] at drafted
    cases drafted
  · exact capabilityId_of_create proposed drafted

/-- The item stands for a capability that an analysis of some request drafted. -/
def IsDrafted (factory : CapabilityFactory) (item : CapabilityCatalogItem) : Prop :=
  ∃ request result draft, factory.analyze request = .ok result ∧
    result.capabilityDraft = some draft ∧
    draft.get? "capability_id" = some (.str item.capabilityId)

theorem IsDrafted.capabilityId_eq (drafted : factory.IsDrafted item) :
    ∃ digest, item.capabilityId = "capability_" ++ digest := by
  obtain ⟨request, result, draft, analyzed, proposes, named⟩ := drafted
  have prefixed := capabilityId_of_analyze analyzed proposes
  exact ⟨_, Json.str.inj (Option.some.inj (named.symm.trans prefixed))⟩

/-- No requirement asks for a drafted capability. -/
theorem IsDrafted.not_isRequested (drafted : factory.IsDrafted item) (requirement : Requirement) :
    CapabilityResolver.isRequested (factory.resolver.understand requirement) item = false := by
  obtain ⟨digest, same⟩ := drafted.capabilityId_eq
  rw [CapabilityResolver.isRequested, decide_eq_false_iff_not,
    CapabilityResolver.candidateCapabilityIds_understand, mem_fromKeys, same]
  exact CapabilityResolver.append_not_mem_candidates _ _

/-- The Backend puts an item for a drafted capability anywhere in the catalog. -/
inductive Registers (factory : CapabilityFactory) :
    List CapabilityCatalogItem → List CapabilityCatalogItem → Prop
  | mk {item : CapabilityCatalogItem} (drafted : factory.IsDrafted item)
    (before after : List CapabilityCatalogItem) :
    Registers factory (before ++ after) (before ++ item :: after)

theorem Registers.filter_eq (registers : factory.Registers catalog later)
    (requirement : Requirement) :
    later.filter (CapabilityResolver.isRequested (factory.resolver.understand requirement)) =
      catalog.filter
        (CapabilityResolver.isRequested (factory.resolver.understand requirement)) := by
  cases registers with
  | mk drafted before after =>
    rw [List.filter_append, List.filter_append, List.filter_cons_of_neg]
    rw [drafted.not_isRequested requirement]
    exact Bool.false_ne_true

theorem filter_eq_of_run (run : ReflTransGen factory.Registers catalog later)
    (requirement : Requirement) :
    later.filter (CapabilityResolver.isRequested (factory.resolver.understand requirement)) =
      catalog.filter
        (CapabilityResolver.isRequested (factory.resolver.understand requirement)) := by
  induction run with
  | refl => rfl
  | tail _ registers ih => rw [registers.filter_eq requirement, ih]

/-- However many drafts are registered after however many analyses, an accepted request
with the catalog that results is answered as it was with the catalog before, by the same
drafts, the same references or the same exception. -/
theorem registration_inert (factory : CapabilityFactory) (requirement : FactoryRequirement)
    (catalog later : List CapabilityCatalogItem)
    (run : ReflTransGen factory.Registers catalog later)
    (accepted : factory.Accepts { requirement, capabilityCatalog := catalog })
    (accepted' : factory.Accepts { requirement, capabilityCatalog := later }) :
    factory.analyze { requirement, capabilityCatalog := later } =
      factory.analyze { requirement, capabilityCatalog := catalog } := by
  rw [analyze_eq_propose accepted, analyze_eq_propose accepted']
  exact propose_congr (filter_eq_of_run run requirement.toResolverRequirement)

/-- The item under which the Backend registers what the regression test drafts. -/
def draftedItem : CapabilityCatalogItem :=
  { documentItem with
    capabilityId := "capability_61a958ab738e29c5"
    wellFormed := by decide }

theorem isDrafted_draftedItem : regressionFactory.IsDrafted draftedItem := by
  obtain ⟨result, analyzed, shown⟩ := exists_ok_of_map analyze_regressionRequest
  obtain ⟨draft, proposes, -⟩ :=
    (leastPrivilege_of_analyze analyzed (Prod.mk.inj shown).1).capabilityDraft
  refine ⟨_, result, draft, analyzed, proposes, ?_⟩
  rw [capabilityId_of_analyze analyzed proposes]
  decide +kernel

/-- Registering what was drafted leads to the same drafts again. -/
theorem registration_inert_documents :
    ∃ result, regressionFactory.analyze
        (regressionRequest ["admin.all", "sources.read"] [archiveItem, documentItem]) =
          .ok result ∧
      result.resolution.decision = .create ∧
      regressionFactory.analyze (regressionRequest ["admin.all", "sources.read"]
        [archiveItem, draftedItem, documentItem]) = .ok result := by
  obtain ⟨result, analyzed, shown⟩ := exists_ok_of_map analyze_regressionRequest
  have run : ReflTransGen regressionFactory.Registers [archiveItem, documentItem]
      [archiveItem, draftedItem, documentItem] :=
    .single (.mk isDrafted_draftedItem [archiveItem] [documentItem])
  have same := registration_inert regressionFactory
    (regressionRequest ["admin.all", "sources.read"] []).requirement _ _ run rfl rfl
  exact ⟨result, analyzed, (Prod.mk.inj shown).1, same.trans analyzed⟩

end CapabilityFactory

end Genesis

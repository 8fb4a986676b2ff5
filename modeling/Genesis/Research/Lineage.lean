import Genesis.Context.Header
import Genesis.Memory.Ranking
import Genesis.Research.Engine

/-!
# Evidence lineage from build to research

A bundle represents its evidence twice: an item holds the content, a reference
the provenance.  `build_evidenceParallel` shows that a build writes the two lists
from the same segments, `EvidenceAwareRanker.rank_traced` that ranking keeps an
item and its references together, and `rank_lineage` follows a bundle from the
build through the ranking to the checks of the research engine.
-/

namespace Genesis

open Py EvidenceAwareRanker

/-! ## The built bundle -/

/-- The item and the reference describe the same evidence. -/
structure SameEvidence (item ref : JsonObject) : Prop where
  described : ∀ key ∈ ["evidence_id", "source_id", "source_version", "content_hash", "anchor"],
    ∃ value, item.get? key = some value ∧ ref.get? key = some value

/-- The segments that carry evidence, with the evidence they carry. -/
def carriers (selected : List ContextSegment) : List (ContextSegment × EvidenceReference) :=
  selected.filterMap fun item => item.evidence.map fun evidence => (item, evidence)

/-- The items and the references of a bundle are written from the same selected
segments, in their order. -/
structure EvidenceParallel (bundle : RuntimeContextBundle) (items refs : List JsonObject) :
    Prop where
  hasItems : bundle.canonicalContextBundle.get? "items" = some (.arr (items.map Json.obj))
  hasRefs : bundle.canonicalContextBundle.get? "evidence_refs" = some (.arr (refs.map Json.obj))
  items_eq : items = (carriers bundle.selectedSegments).map fun carrier =>
    ContextManager.canonicalItem carrier.1 carrier.2
  refs_eq : refs = (carriers bundle.selectedSegments).map fun carrier => carrier.2.modelDump
  same : List.Forall₂ SameEvidence items refs

theorem sameEvidence_of_carrier (item : ContextSegment) (evidence : EvidenceReference) :
    SameEvidence (ContextManager.canonicalItem item evidence) evidence.modelDump := by
  constructor
  simp only [List.forall_mem_cons]
  exact ⟨⟨_, rfl, rfl⟩, ⟨_, rfl, rfl⟩, ⟨_, rfl, rfl⟩, ⟨_, rfl, rfl⟩, ⟨_, rfl, rfl⟩,
    List.forall_mem_nil _⟩

/-- A comprehension over the evidence of the segments goes over the carriers. -/
theorem map_carriers {α : Type} (f : ContextSegment → EvidenceReference → α)
    (selected : List ContextSegment) :
    (selected.filterMap fun item => item.evidence.map (f item)) =
      (carriers selected).map fun carrier => f carrier.1 carrier.2 := by
  rw [carriers, List.map_filterMap]
  apply congrArg (List.filterMap · selected)
  funext item
  rw [Option.map_map]
  rfl

theorem build_evidenceParallel {manager : ContextManager} {args : BuildArguments}
    {bundle : RuntimeContextBundle} (built : manager.build args = .ok bundle) :
    ∃ items refs, EvidenceParallel bundle items refs := by
  obtain ⟨context, header, selection, b⟩ := ContextManager.build_eq_ok_iff.mp built
  have selected : bundle.selectedSegments = selection.selected := by rw [b.bundle]; rfl
  have same : List.Forall₂ SameEvidence
      ((carriers bundle.selectedSegments).map fun carrier =>
        ContextManager.canonicalItem carrier.1 carrier.2)
      ((carriers bundle.selectedSegments).map fun carrier => carrier.2.modelDump) := by
    rw [List.forall₂_map_left_iff, List.forall₂_map_right_iff, List.forall₂_same]
    intro carrier _
    exact sameEvidence_of_carrier carrier.1 carrier.2
  refine ⟨_, _, ?_, ?_, rfl, rfl, same⟩
  · rw [selected, List.map_map, b.bundle]
    exact congrArg (fun items => some (Json.arr items))
      (map_carriers (fun item evidence => Json.obj (ContextManager.canonicalItem item evidence)) _)
  · rw [selected, List.map_map, b.bundle]
    exact congrArg (fun items => some (Json.arr items))
      (map_carriers (fun _ evidence => Json.obj evidence.modelDump) _)

/-! ## The ranked bundle -/

/-- What ranking keeps of a bundle with these items and references. -/
structure Traced (document ranked : JsonObject) (maxItems : ℤ)
    (items refs kept cited : List JsonObject) : Prop where
  hasItems : ranked.get? "items" = some (.arr (kept.map Json.obj))
  hasRefs : ranked.get? "evidence_refs" = some (.arr (cited.map Json.obj))
  unmodified : kept.Subperm items
  length : kept.length = min maxItems.toNat items.length
  refs_sublist : cited.Sublist refs
  supported : ∀ item ∈ kept, ∃ ref ∈ cited, ∃ id, Names item id ∧ Names ref id
  grounded : ∀ ref ∈ cited, ∃ item ∈ kept, ∃ id, Names item id ∧ Names ref id
  unchanged : ∀ key, key ≠ "items" → key ≠ "evidence_refs" → ranked.get? key = document.get? key
  nonempty : refs ≠ [] → cited ≠ []

/-- Paired lists have their evidence ids in common. -/
theorem names_of_sameEvidence {item ref : JsonObject} {id : String}
    (same : SameEvidence item ref) : Names item id ↔ Names ref id := by
  obtain ⟨value, inItem, inRef⟩ := same.described "evidence_id" List.mem_cons_self
  rw [Names, Names, inItem, inRef]

/-- Ranking keeps an item and the references to its evidence together. -/
theorem EvidenceAwareRanker.rank_traced (ranker : EvidenceAwareRanker) {document : JsonObject}
    {items refs : List JsonObject} {maxItems : ℤ} (query : String)
    (bounded : 1 ≤ maxItems ∧ maxItems ≤ 50)
    (hasItems : document.get? "items" = some (.arr (items.map Json.obj)))
    (hasRefs : document.get? "evidence_refs" = some (.arr (refs.map Json.obj)))
    (same : List.Forall₂ SameEvidence items refs)
    (named : ∀ item ∈ items, ∃ id, Names item id) :
    ∃ ranked kept cited, ranker.rank document query maxItems = .ok ranked ∧
      Traced document ranked maxItems items refs kept cited := by
  obtain ⟨ids, mem, ranked⟩ := rank_eq_ok ranker query bounded hasItems hasRefs named
  have subperm : (ranker.kept items query maxItems).Subperm items := kept_subperm
  have length : (ranker.kept items query maxItems).length = min maxItems.toNat items.length :=
    length_kept
  have refNamed : ∀ ref ∈ refs, ∃ id, Names ref id := by
    intro ref member
    obtain ⟨item, inItems, described⟩ := exists_left_of_forall₂ same member
    obtain ⟨id, names⟩ := named item inItems
    exact ⟨id, (names_of_sameEvidence described).mp names⟩
  -- an item that is kept keeps the reference it is paired with
  have supported : ∀ item ∈ ranker.kept items query maxItems,
      ∃ ref ∈ refs.filter (ranker.isCited ids), ∃ id, Names item id ∧ Names ref id := by
    intro item member
    obtain ⟨ref, inRefs, described⟩ := exists_right_of_forall₂ same (subperm.subset member)
    obtain ⟨id, names⟩ := named item (subperm.subset member)
    have refNames := (names_of_sameEvidence described).mp names
    have listed := (mem id).mpr ⟨item, member, names⟩
    have inCited : ref ∈ refs.filter (ranker.isCited ids) :=
      List.mem_filter.mpr ⟨inRefs, (isCited_iff refNames).mpr listed⟩
    exact ⟨ref, inCited, id, names, refNames⟩
  have grounded : ∀ ref ∈ refs.filter (ranker.isCited ids),
      ∃ item ∈ ranker.kept items query maxItems, ∃ id, Names item id ∧ Names ref id := by
    intro ref member
    obtain ⟨inRefs, isCited⟩ := List.mem_filter.mp member
    obtain ⟨id, names⟩ := refNamed ref inRefs
    obtain ⟨item, inKept, itemNames⟩ := (mem id).mp ((isCited_iff names).mp isCited)
    exact ⟨item, inKept, id, itemNames, names⟩
  have nonempty : refs ≠ [] → refs.filter (ranker.isCited ids) ≠ [] := by
    intro some none
    have present : 0 < items.length := by
      rw [same.length_eq]
      exact List.length_pos_iff.mpr some
    have keeps : 0 < (ranker.kept items query maxItems).length := by omega
    obtain ⟨item, member⟩ := List.exists_mem_of_length_pos keeps
    obtain ⟨ref, inCited, -⟩ := supported item member
    rw [none] at inCited
    cases inCited
  refine ⟨_, _, _, ranked, ?_, ?_, subperm, length, List.filter_sublist, supported, grounded, ?_,
    nonempty⟩
  · rw [Dict.get?_set, if_neg (by decide), Dict.get?_set, if_pos rfl]
  · rw [Dict.get?_set, if_pos rfl]
  · intro key notItems notRefs
    rw [Dict.get?_set, if_neg notRefs, Dict.get?_set, if_neg notItems]

/-! ## The checks of the research engine -/

/-- The identity check of the research engine accepts the bundle, and so does the
check for evidence if there is a reference. -/
structure ResearchAccepts (engine : ResearchEngine) (executionContext ranked : JsonObject)
    (refs : List JsonObject) : Prop where
  identity : ResearchEngine.validateContextIdentity ranked executionContext = .ok ()
  evidence : ∃ evidence, ResearchEngine.evidenceById engine.platform ranked = .ok evidence ∧
    (refs ≠ [] → evidence ≠ [])

theorem evidenceById_eq_ok (platform : Platform) {ranked : JsonObject} {cited : List JsonObject}
    (hasRefs : ranked.get? "evidence_refs" = some (.arr (cited.map Json.obj)))
    (named : ∀ ref ∈ cited, ∃ id, Names ref id) :
    ∃ evidence, ResearchEngine.evidenceById platform ranked = .ok evidence ∧
      (cited ≠ [] → evidence ≠ []) := by
  have each : ∀ ref ∈ cited.map Json.obj,
      ∃ pair, ResearchEngine.evidencePair platform ref = .ok pair := by
    intro ref member
    obtain ⟨fields, inCited, rfl⟩ := List.mem_map.mp member
    obtain ⟨id, names⟩ := named fields inCited
    have found : subscript (.obj fields) "evidence_id" = .ok (.str id) :=
      subscript_eq_ok_iff.mpr ⟨fields, rfl, names⟩
    refine ⟨(id, .obj fields), ?_⟩
    rw [ResearchEngine.evidencePair, found]
    rfl
  obtain ⟨pairs, collected, paired⟩ := exists_mapM_eq_ok each
  have listed : ResearchEngine.evidencePairs platform ranked = .ok pairs := by
    rw [ResearchEngine.evidencePairs, hasRefs]
    exact collected
  refine ⟨.ofPairs pairs, ?_, ?_⟩
  · rw [ResearchEngine.evidenceById, listed]
    rfl
  · intro some
    have length := paired.length_eq
    rw [List.length_map] at length
    have nonempty : pairs ≠ [] := by
      rw [← List.length_pos_iff, ← length]
      exact List.length_pos_iff.mpr some
    exact Dict.ofPairs_ne_nil nonempty

/-- Equal identities pass the identity check. -/
theorem validateContextIdentity_eq_ok {ranked executionContext : JsonObject}
    (same : ∀ field ∈ ["tenant_id", "organization_id", "workspace_id", "actor_id",
      "correlation_id"], ∃ text, ranked.get? field = some (.str text) ∧
        executionContext.get? field = some (.str text)) :
    ResearchEngine.validateContextIdentity ranked executionContext = .ok () := by
  rw [ResearchEngine.validateContextIdentity_eq_ok_iff]
  intro field listed
  obtain ⟨text, actual, expected⟩ := same field listed
  refine ⟨.str text, actual, .str text, expected, ?_⟩
  rw [Json.pyEq]
  exact beq_self_eq_true text

section

variable {manager : ContextManager} {args : BuildArguments} {bundle : RuntimeContextBundle}

/-- The identity of a built bundle is that of the execution context it was built for. -/
theorem build_identity (built : manager.build args = .ok bundle) :
    ∀ field ∈ ["tenant_id", "organization_id", "workspace_id", "actor_id", "correlation_id"],
      ∃ text, bundle.canonicalContextBundle.get? field = some (.str text) ∧
        args.executionContext.get? field = some (.str text) := by
  obtain ⟨context, header, selection, b⟩ := ContextManager.build_eq_ok_iff.mp built
  have document := ContextManager.executionContextView_identifies b.view
  have canonical := b.sameIdentity
  have correlation : bundle.canonicalContextBundle.get? "correlation_id" =
      some (.str context.correlationId) := by
    rw [b.bundle]
    rfl
  simp only [List.forall_mem_cons]
  exact ⟨⟨_, canonical.canonicalTenant, document.tenantId⟩,
    ⟨_, canonical.canonicalOrganization, document.organizationId⟩,
    ⟨_, canonical.canonicalWorkspace, document.workspaceId⟩,
    ⟨_, canonical.canonicalActor, document.actorId⟩, ⟨_, correlation, document.correlationId⟩,
    List.forall_mem_nil _⟩

theorem EvidenceParallel.named {items refs : List JsonObject}
    (parallel : EvidenceParallel bundle items refs) : ∀ item ∈ items, ∃ id, Names item id := by
  rw [parallel.items_eq]
  intro item member
  obtain ⟨carrier, -, rfl⟩ := List.mem_map.mp member
  exact ⟨_, rfl⟩

end

/-- Evidence lineage: the items and references of a built bundle describe the
same evidence in the same order; ranked under any query and bound, an unmodified
item stays with the references to its evidence and the other way round; and the
research engine accepts the ranked bundle for the same execution context. -/
theorem rank_lineage {manager : ContextManager} {args : BuildArguments}
    {bundle : RuntimeContextBundle} (built : manager.build args = .ok bundle)
    (ranker : EvidenceAwareRanker) (engine : ResearchEngine) (query : String) {maxItems : ℤ}
    (bounded : 1 ≤ maxItems ∧ maxItems ≤ 50) :
    ∃ items refs ranked kept cited, EvidenceParallel bundle items refs ∧
      ranker.rank bundle.canonicalContextBundle query maxItems = .ok ranked ∧
        Traced bundle.canonicalContextBundle ranked maxItems items refs kept cited ∧
          ResearchAccepts engine args.executionContext ranked refs := by
  obtain ⟨items, refs, parallel⟩ := build_evidenceParallel built
  obtain ⟨ranked, kept, cited, returned, traced⟩ := ranker.rank_traced query bounded
    parallel.hasItems parallel.hasRefs parallel.same parallel.named
  have named : ∀ ref ∈ cited, ∃ id, Names ref id := by
    intro ref member
    obtain ⟨_, -, id, -, names⟩ := traced.grounded ref member
    exact ⟨id, names⟩
  obtain ⟨evidence, collected, some⟩ := evidenceById_eq_ok engine.platform
    traced.hasRefs named
  have identity : ResearchEngine.validateContextIdentity ranked args.executionContext = .ok () := by
    apply validateContextIdentity_eq_ok
    intro field listed
    obtain ⟨text, actual, expected⟩ := build_identity built field listed
    have notItems : field ≠ "items" := by
      intro same
      rw [same] at listed
      exact absurd listed (by decide)
    have notRefs : field ≠ "evidence_refs" := by
      intro same
      rw [same] at listed
      exact absurd listed (by decide)
    rw [traced.unchanged field notItems notRefs]
    exact ⟨text, actual, expected⟩
  exact ⟨items, refs, ranked, kept, cited, parallel, returned, traced, identity, evidence,
    collected, fun present => some (traced.nonempty present)⟩

/-! ## Three segments of evidence -/

def retentionSegment : ContextSegment :=
  { ContextManager.evidenceSegment with
    segmentId := "authoritative_evidence_002"
    content := "Retention is seven years."
    evidence := some
      { ContextManager.contextEvidence with
        evidenceId := "evidence_context_002"
        wellFormed := by decide +kernel }
    wellFormed := by decide }

def periodSegment : ContextSegment :=
  { ContextManager.evidenceSegment with
    segmentId := "authoritative_evidence_003"
    content := "The retention period is seven years."
    evidence := some
      { ContextManager.contextEvidence with
        evidenceId := "evidence_context_003"
        wellFormed := by decide +kernel }
    wellFormed := by decide }

def threeSegments : List ContextSegment :=
  [ContextManager.evidenceSegment, retentionSegment, periodSegment]

/-- The generated segments carry no evidence, so what is written are the three. -/
theorem carriers_threeSegments {bundle : RuntimeContextBundle} {header : List ContextSegment}
    {selection : ContextSelection}
    (b : ContextManager.Built ContextManager.contextManager
      (ContextManager.contextArguments threeSegments) bundle ContextManager.contextView header
      selection) :
    carriers bundle.selectedSegments = carriers threeSegments := by
  have behind : ∀ item ∈ threeSegments, ∀ a ∈ header, segmentKey a ≤ segmentKey item := by
    intro item member
    have sorts : ∀ item ∈ threeSegments, ContextManager.SortsBehindHeader item := by decide
    exact (ContextManager.header_le_iff b.generated).mpr (sorts item member)
  have sorted : Priority.sortBy segmentKey threeSegments = threeSegments := by decide +kernel
  have none : carriers header = [] := by
    refine List.filterMap_eq_nil_iff.mpr fun item member => ?_
    rw [b.evidence_eq_none member]
    rfl
  rw [ContextManager.selectedSegments_contextArguments b (by decide),
    Priority.sortBy_append (ContextManager.header_pairwise b.generated) behind, sorted, carriers,
    List.filterMap_append]
  exact congrArg (· ++ carriers threeSegments) none

/-- Of three items the two about the query are kept, the one that says more first. -/
theorem rank_lineage_contextArguments :
    ∃ bundle items refs ranked kept cited,
      ContextManager.contextManager.build (ContextManager.contextArguments threeSegments) =
        .ok bundle ∧
      EvidenceParallel bundle items refs ∧
      EvidenceAwareRanker.rank ⟨.sample, .ascii⟩ bundle.canonicalContextBundle
        "retention period" 2 = .ok ranked ∧
      Traced bundle.canonicalContextBundle ranked 2 items refs kept cited ∧
      ResearchAccepts ⟨.sample, ⟨fun _ => some fun _ => none⟩, false, "2026-09-19T00:00:00Z"⟩
        ContextManager.contextDocument ranked refs ∧
      items.map (fun item => item.get? "evidence_id") =
        [some (.str "evidence_context_001"), some (.str "evidence_context_002"),
          some (.str "evidence_context_003")] ∧
      kept.map (fun item => item.get? "evidence_id") =
        [some (.str "evidence_context_003"), some (.str "evidence_context_002")] := by
  obtain ⟨bundle, header, selection, b⟩ :=
    ContextManager.exists_build_contextArguments threeSegments (by decide +kernel)
      (by decide +kernel)
  have built := ContextManager.build_eq_ok_iff.mpr ⟨_, header, selection, b⟩
  have bounded : (1 : ℤ) ≤ 2 ∧ (2 : ℤ) ≤ 50 := by decide
  obtain ⟨items, refs, ranked, kept, cited, parallel, returned, traced, accepts⟩ :=
    rank_lineage built ⟨.sample, .ascii⟩
      ⟨.sample, ⟨fun _ => some fun _ => none⟩, false, "2026-09-19T00:00:00Z"⟩ "retention period"
      bounded
  have written := parallel.items_eq
  rw [carriers_threeSegments b] at written
  obtain ⟨ids, -, ranks⟩ := rank_eq_ok ⟨.sample, .ascii⟩ "retention period" bounded
    parallel.hasItems parallel.hasRefs parallel.named
  have keeps : kept.map Json.obj = ((EvidenceAwareRanker.kept ⟨.sample, .ascii⟩ items
      "retention period" 2).map Json.obj) := by
    have hasItems := traced.hasItems
    rw [Except.ok.inj (returned.symm.trans ranks), Dict.get?_set, if_neg (by decide),
      Dict.get?_set, if_pos rfl] at hasItems
    exact (Json.arr.inj (Option.some.inj hasItems)).symm
  have keeps := List.map_injective_iff.mpr (fun _ _ same => Json.obj.inj same) keeps
  refine ⟨bundle, items, refs, ranked, kept, cited, built, parallel, returned, traced, accepts,
    ?_, ?_⟩
  · rw [written]
    decide +kernel
  · rw [keeps, written]
    decide +kernel

end Genesis

import Genesis.Context.Header
import Genesis.Context.Injection
import Genesis.Lib.JsonText

/-!
# What a context id identifies

`_context_id` hashes the identity, the goal, the scope, the capability, the tools
and the ids of the selected segments.  While the hash tells the texts of two
builds apart, equal context ids name equal contexts in these fields
(`contextId_identifies`); the budget, the memory refs and what the segments say
are not in the hash.
-/

namespace Genesis

open Py ContextManager

/-! ## Dumps that lose nothing -/

theorem strTuple_injective : Function.Injective strTuple := fun _ _ same =>
  List.map_injective_iff.mpr (fun _ _ equal => Json.str.inj equal) (Json.arr.inj same)

theorem DataClassification.value_injective : Function.Injective value := by
  intro x y
  cases x <;> cases y <;> decide

theorem SourceType.value_injective : Function.Injective value := by
  intro x y
  cases x <;> cases y <;> decide

theorem Freshness.value_injective : Function.Injective value := by
  intro x y
  cases x <;> cases y <;> decide

theorem Reliability.value_injective : Function.Injective value := by
  intro x y
  cases x <;> cases y <;> decide

theorem ContextTrust.value_injective : Function.Injective value := by
  intro x y
  cases x <;> cases y <;> decide

theorem ValidationStatus.value_injective : Function.Injective value := by
  intro x y
  cases x <;> cases y <;> decide

/-- The dump of an evidence reference has all its fields. -/
theorem EvidenceReference.modelDump_injective : Function.Injective modelDump := by
  intro e e' same
  simp only [modelDump, List.cons.injEq, Prod.mk.injEq, Json.str.injEq, Json.obj.injEq, true_and,
    and_true] at same
  obtain ⟨tenant, organization, workspace, run, correlation, scope, evidence, source, uri, captured,
    retrieved, hash, version, anchor, excerpt, classification, type, fresh, reliable, trust,
    status, metadata⟩ := same
  have scopeRefs := strTuple_injective scope
  have capturedAt : e.capturedAt = e'.capturedAt := congrArg Timestamp.mk captured
  have retrievedAt : e.retrievedAt = e'.retrievedAt := congrArg Timestamp.mk retrieved
  have dataClassification := DataClassification.value_injective classification
  have sourceType := SourceType.value_injective type
  have freshness := Freshness.value_injective fresh
  have reliability := Reliability.value_injective reliable
  have contentTrust := ContextTrust.value_injective trust
  have validationStatus := ValidationStatus.value_injective status
  obtain ⟨⟨⟩, _⟩ := e
  obtain ⟨⟨⟩, _⟩ := e'
  subst tenant organization workspace run correlation scopeRefs evidence source uri capturedAt
    retrievedAt hash version anchor excerpt dataClassification sourceType freshness reliability
    contentTrust validationStatus metadata
  rfl

/-! ## Lists that determine others -/

section

variable {α β γ : Type}

theorem filterMap_eq_of_factors {f : α → Option β} {g : α → Option γ}
    (factors : Function.FactorsThrough g f) (nothing : ∀ x, f x = none → g x = none)
    {xs ys : List α} (same : xs.filterMap f = ys.filterMap f) :
    xs.filterMap g = ys.filterMap g := by
  obtain ⟨e, rfl⟩ := (Function.factorsThrough_iff g).mp factors
  have composed : ∀ zs : List α,
      zs.filterMap (e ∘ f) = (zs.filterMap f).filterMap fun b => e (some b) := by
    intro zs
    rw [List.filterMap_filterMap]
    refine List.filterMap_congr fun x _ => ?_
    cases found : f x with
    | none => exact nothing x found
    | some b => simp [found]
  rw [composed, composed, same]

theorem filterMap_eq_of_names {name : α → β} {f : α → Option γ} {xs ys : List α}
    (names : xs.map name = ys.map name)
    (each : ∀ x ∈ xs, ∀ y ∈ ys, name x = name y → f x = f y) :
    xs.filterMap f = ys.filterMap f := by
  induction xs generalizing ys with
  | nil =>
    cases ys with
    | nil => rfl
    | cons y ys => cases names
  | cons x xs ih =>
    cases ys with
    | nil => cases names
    | cons y ys =>
      rw [List.map_cons, List.map_cons, List.cons.injEq] at names
      have first := each x List.mem_cons_self y List.mem_cons_self names.1
      have others := ih names.2 fun x inXs y inYs =>
        each x (List.mem_cons_of_mem _ inXs) y (List.mem_cons_of_mem _ inYs)
      rw [List.filterMap_cons, List.filterMap_cons, first, others]

theorem eq_of_map_eq_map {f : α → β} {g : α → γ} {xs ys : List α} (first : xs.map f = ys.map f)
    (second : xs.map g = ys.map g) (determined : ∀ x y, f x = f y → g x = g y → x = y) :
    xs = ys := by
  have pairs : xs.map (fun x => (f x, g x)) = ys.map fun x => (f x, g x) := by
    rw [← List.zip_map', ← List.zip_map', first, second]
  refine List.map_injective_iff.mpr (fun x y same => ?_) pairs
  exact determined x y (congrArg Prod.fst same) (congrArg Prod.snd same)

end

namespace ContextManager

/-! ## The hashed names -/

/-- What `_context_id` hashes, read off the bundle. -/
def hashedFields (b : BundleFields) : JsonObject :=
  [("tenant_id", .str b.tenantId), ("organization_id", .str b.organizationId),
    ("workspace_id", .str b.workspaceId), ("actor_id", .str b.actorId),
    ("correlation_id", .str b.correlationId), ("goal", .str b.goal),
    ("scope", b.scope.modelDump), ("capability_id", .str b.capabilityId),
    ("tool_ids", strTuple b.allowedToolIds),
    ("selected_segment_ids", strTuple b.selection.selectedSegmentIds)]

def hashedPayload (platform : Platform) (b : BundleFields) : String :=
  platform.dumps (.obj (hashedFields b))

/-- The first 24 digits of the hash of a text. -/
def shortDigest (platform : Platform) (payload : String) : String :=
  String.ofList ((platform.sha256Hex payload).toList.take 24)

/-- The truncated hash is injective on the two texts. -/
def TellsApart (platform : Platform) (p q : String) : Prop :=
  shortDigest platform p = shortDigest platform q → p = q

/-- Two contexts with the same names. -/
structure SameNames (b b' : BundleFields) : Prop where
  tenantId : b.tenantId = b'.tenantId
  organizationId : b.organizationId = b'.organizationId
  workspaceId : b.workspaceId = b'.workspaceId
  actorId : b.actorId = b'.actorId
  correlationId : b.correlationId = b'.correlationId
  goal : b.goal = b'.goal
  scope : b.scope = b'.scope
  capabilityId : b.capabilityId = b'.capabilityId
  allowedToolIds : b.allowedToolIds = b'.allowedToolIds
  selectedSegmentIds : b.selection.selectedSegmentIds = b'.selection.selectedSegmentIds

theorem Built.contextId_eq {manager : ContextManager} {args : BuildArguments}
    {bundle : RuntimeContextBundle} {context : ExecutionContextView}
    {header : List ContextSegment} {selection : ContextSelection}
    (b : Built manager args bundle context header selection) :
    bundle.contextId =
      "context_" ++ shortDigest manager.platform
        (hashedPayload manager.platform bundle.toBundleFields) := by
  rw [b.bundle]
  rfl

theorem textual_modelDump (scope : ContextScope) : Json.Textual scope.modelDump := by
  refine .obj fun field member => ?_
  simp only [List.mem_cons, List.not_mem_nil, or_false] at member
  rcases member with rfl | rfl
  · exact .strs _
  · exact .strs _

theorem textual_hashedFields (b : BundleFields) : Json.Textual (.obj (hashedFields b)) := by
  refine .obj fun field member => ?_
  simp only [hashedFields, List.mem_cons, List.not_mem_nil, or_false] at member
  rcases member with rfl | rfl | rfl | rfl | rfl | rfl | rfl | rfl | rfl | rfl
  all_goals first
    | exact .str _
    | exact .strs _
    | exact textual_modelDump _

theorem scope_of_dumpsChars {floatRepr : ℚ → String} {scope scope' : ContextScope}
    (same : Json.dumpsChars floatRepr scope.modelDump =
      Json.dumpsChars floatRepr scope'.modelDump) : scope = scope' := by
  have nodup : ["division_refs", "project_refs"].Nodup := by decide
  have texts := Json.texts_of_dumpsChars_obj (textual_modelDump scope) (textual_modelDump scope')
    rfl nodup same
  simp only [List.map_cons, List.map_nil, List.cons.injEq, and_true] at texts
  obtain ⟨divisions, projects⟩ := texts
  have divisionRefs := Json.strs_of_dumpsChars divisions
  have projectRefs := Json.strs_of_dumpsChars projects
  obtain ⟨_, _, _⟩ := scope
  obtain ⟨_, _, _⟩ := scope'
  subst divisionRefs projectRefs
  rfl

/-- The hashed text tells the names, and nothing else. -/
theorem hashedPayload_eq_iff {platform : Platform} {b b' : BundleFields} :
    hashedPayload platform b = hashedPayload platform b' ↔ SameNames b b' := by
  refine ⟨?_, ?_⟩
  · intro same
    have nodup : ["tenant_id", "organization_id", "workspace_id", "actor_id", "correlation_id",
        "goal", "scope", "capability_id", "tool_ids", "selected_segment_ids"].Nodup := by decide
    have texts := Json.texts_of_dumpsChars_obj (textual_hashedFields b) (textual_hashedFields b')
      rfl nodup (String.ofList_inj.mp same)
    simp only [hashedFields, List.map_cons, List.map_nil, List.cons.injEq, and_true] at texts
    obtain ⟨tenant, organization, workspace, actor, correlation, goal, scope, capability, tools,
      segments⟩ := texts
    exact
      { tenantId := Json.str_of_dumpsChars tenant
        organizationId := Json.str_of_dumpsChars organization
        workspaceId := Json.str_of_dumpsChars workspace
        actorId := Json.str_of_dumpsChars actor
        correlationId := Json.str_of_dumpsChars correlation
        goal := Json.str_of_dumpsChars goal
        scope := scope_of_dumpsChars scope
        capabilityId := Json.str_of_dumpsChars capability
        allowedToolIds := Json.strs_of_dumpsChars tools
        selectedSegmentIds := Json.strs_of_dumpsChars segments }
  · intro same
    rw [hashedPayload, hashedPayload, hashedFields, hashedFields, same.tenantId,
      same.organizationId, same.workspaceId, same.actorId, same.correlationId, same.goal,
      same.scope, same.capabilityId, same.allowedToolIds, same.selectedSegmentIds]

/-! ## The canonical bundle -/

/-- The canonical bundle without `created_at`. -/
def apartFromCreatedAt (document : JsonObject) : JsonObject :=
  document.filter fun field => field.1 ≠ "created_at"

/-- What a segment adds to the items and evidence references. -/
def contribution (item : ContextSegment) : Option (String × String × EvidenceReference) :=
  item.evidence.map fun evidence => (item.key, item.content, evidence)

/-- Two contexts with the same contents beyond their names. -/
structure SameContents (b b' : BundleFields) : Prop where
  executionBudget : b.executionBudget = b'.executionBudget
  memoryRefs : b.memoryRefs = b'.memoryRefs
  contributions : b.selectedSegments.filterMap contribution =
    b'.selectedSegments.filterMap contribution

/-- The `items` of the canonical bundle. -/
def itemsOf (selected : List ContextSegment) : List Json :=
  selected.filterMap fun item =>
    item.evidence.map fun evidence => .obj (canonicalItem item evidence)

/-- The `evidence_refs` of the canonical bundle. -/
def referencesOf (selected : List ContextSegment) : List Json :=
  selected.filterMap fun item => item.evidence.map fun evidence => .obj evidence.modelDump

/-- The keys and contents of the segments with evidence. -/
def textsOf (selected : List ContextSegment) : List (String × String) :=
  selected.filterMap fun item => item.evidence.map fun _ => (item.key, item.content)

section

variable {selected selected' : List ContextSegment}

theorem referencesOf_eq (selected : List ContextSegment) :
    referencesOf selected =
      (selected.filterMap contribution).map fun entry => .obj entry.2.2.modelDump := by
  rw [referencesOf, List.map_filterMap]
  refine List.filterMap_congr fun item _ => ?_
  rw [contribution, Option.map_map]
  rfl

theorem textsOf_eq (selected : List ContextSegment) :
    textsOf selected =
      (selected.filterMap contribution).map fun entry => (entry.1, entry.2.1) := by
  rw [textsOf, List.map_filterMap]
  refine List.filterMap_congr fun item _ => ?_
  rw [contribution, Option.map_map]
  rfl

theorem textsOf_of_itemsOf (items : itemsOf selected = itemsOf selected') :
    textsOf selected = textsOf selected' := by
  refine filterMap_eq_of_factors ?_ ?_ items
  · intro item item' written
    cases carried : item.evidence <;> cases carried' : item'.evidence
    all_goals simp_all [canonicalItem]
  · intro item nothing
    rw [Option.map_eq_none_iff] at nothing ⊢
    exact nothing

theorem itemsOf_of_contributions
    (same : selected.filterMap contribution = selected'.filterMap contribution) :
    itemsOf selected = itemsOf selected' := by
  refine filterMap_eq_of_factors ?_ ?_ same
  · intro item item' contributed
    simp only [contribution] at contributed
    cases carried : item.evidence <;> cases carried' : item'.evidence
    all_goals simp_all [canonicalItem]
  · intro item nothing
    rw [contribution, Option.map_eq_none_iff] at nothing
    rw [nothing, Option.map_none]

/-- The items and the evidence references tell what the segments contribute. -/
theorem contributions_iff :
    itemsOf selected = itemsOf selected' ∧ referencesOf selected = referencesOf selected' ↔
      selected.filterMap contribution = selected'.filterMap contribution := by
  refine ⟨?_, ?_⟩
  · intro same
    obtain ⟨items, references⟩ := same
    have texts := textsOf_of_itemsOf items
    rw [textsOf_eq, textsOf_eq] at texts
    rw [referencesOf_eq, referencesOf_eq] at references
    refine eq_of_map_eq_map texts references fun entry entry' text reference => ?_
    have evidence := EvidenceReference.modelDump_injective (Json.obj.inj reference)
    rw [Prod.mk.injEq] at text
    exact Prod.ext text.1 (Prod.ext text.2 evidence)
  · intro same
    refine ⟨itemsOf_of_contributions same, ?_⟩
    rw [referencesOf_eq, referencesOf_eq, same]

end

/-- The canonical bundle without `created_at`, read off the bundle. -/
def timelessFields (b : BundleFields) : JsonObject :=
  [("context_id", .str b.contextId), ("tenant_id", .str b.tenantId),
    ("organization_id", .str b.organizationId), ("workspace_id", .str b.workspaceId),
    ("actor_id", .str b.actorId), ("correlation_id", .str b.correlationId),
    ("goal", .str b.goal), ("capability_id", .str b.capabilityId),
    ("allowed_tool_ids", strTuple b.allowedToolIds),
    ("execution_budget", .obj b.executionBudget.modelDump),
    ("memory_refs", strTuple b.memoryRefs), ("scope_refs", strTuple b.scope.allRefs),
    ("items", .arr (itemsOf b.selectedSegments)),
    ("evidence_refs", .arr (referencesOf b.selectedSegments))]

section

variable {manager : ContextManager} {args : BuildArguments} {bundle : RuntimeContextBundle}
  {context : ExecutionContextView} {header : List ContextSegment} {selection : ContextSelection}

theorem Built.apartFromCreatedAt_eq (b : Built manager args bundle context header selection) :
    apartFromCreatedAt bundle.canonicalContextBundle = timelessFields bundle.toBundleFields := by
  rw [b.bundle]
  rfl

theorem Built.selectedSegmentIds_eq (b : Built manager args bundle context header selection) :
    bundle.selection.selectedSegmentIds =
      bundle.selectedSegments.map fun item => item.segmentId := by
  obtain ⟨s, -, kept, -, -, ids, -⟩ := ContextBudgetManager.eq_of_select b.selected
  rw [b.bundle]
  exact ids.trans (by rw [← kept]; rfl)

theorem Built.memoryRefs_eq (b : Built manager args bundle context header selection) :
    bundle.memoryRefs =
      fromKeys (bundle.selectedSegments.filterMap fun item => item.memoryRef) := by
  rw [b.bundle]
  rfl

end

/-- With the same names, what is left to agree on is the contents. -/
theorem timelessFields_eq_iff {b b' : BundleFields} (id : b.contextId = b'.contextId)
    (names : SameNames b b') : timelessFields b = timelessFields b' ↔ SameContents b b' := by
  refine ⟨?_, ?_⟩
  · intro same
    simp only [timelessFields, List.cons.injEq, Prod.mk.injEq, true_and, and_true] at same
    obtain ⟨-, -, -, -, -, -, -, -, -, budget, memory, -, items, references⟩ := same
    exact
      { executionBudget := ExecutionBudget.modelDump_injective (Json.obj.inj budget)
        memoryRefs := strTuple_injective memory
        contributions := contributions_iff.mp ⟨Json.arr.inj items, Json.arr.inj references⟩ }
  · intro same
    obtain ⟨items, references⟩ := contributions_iff.mpr same.contributions
    rw [timelessFields, timelessFields, id, names.tenantId, names.organizationId,
      names.workspaceId, names.actorId, names.correlationId, names.goal, names.capabilityId,
      names.allowedToolIds, names.scope, same.executionBudget, same.memoryRefs, items, references]

/-- Segments with the same id contribute the same. -/
def IdsIdentify (b b' : BundleFields) : Prop :=
  ∀ item ∈ b.selectedSegments, ∀ item' ∈ b'.selectedSegments,
    item.segmentId = item'.segmentId →
      item.memoryRef = item'.memoryRef ∧ contribution item = contribution item'

/-- Two builds on one platform with the same context id have the same identity,
goal, scope, capability, tools and selected segment ids, if the truncated hash
tells their hashed texts apart.  Their canonical bundles are then the same apart
from `created_at` exactly when budget, memory refs and contributions agree, which
the last two do when segment ids identify segments. -/
theorem contextId_identifies {platform : Platform} {contracts contracts' : CanonicalContractCatalog}
    {now now' : Timestamp} {args args' : BuildArguments} {bundle bundle' : RuntimeContextBundle}
    (built : build ⟨platform, contracts, now⟩ args = .ok bundle)
    (built' : build ⟨platform, contracts', now'⟩ args' = .ok bundle')
    (apart : TellsApart platform (hashedPayload platform bundle.toBundleFields)
      (hashedPayload platform bundle'.toBundleFields))
    (same : bundle.contextId = bundle'.contextId) :
    SameNames bundle.toBundleFields bundle'.toBundleFields ∧
      (apartFromCreatedAt bundle.canonicalContextBundle =
          apartFromCreatedAt bundle'.canonicalContextBundle ↔
        SameContents bundle.toBundleFields bundle'.toBundleFields) ∧
      (IdsIdentify bundle.toBundleFields bundle'.toBundleFields →
        bundle.executionBudget = bundle'.executionBudget →
          apartFromCreatedAt bundle.canonicalContextBundle =
            apartFromCreatedAt bundle'.canonicalContextBundle) := by
  obtain ⟨context, header, selection, b⟩ := build_eq_ok_iff.mp built
  obtain ⟨context', header', selection', b'⟩ := build_eq_ok_iff.mp built'
  have digests := same
  rw [b.contextId_eq, b'.contextId_eq, String.append_right_inj] at digests
  have names := hashedPayload_eq_iff.mp (apart digests)
  have contents := timelessFields_eq_iff same names
  rw [b.apartFromCreatedAt_eq, b'.apartFromCreatedAt_eq]
  refine ⟨names, contents, ?_⟩
  intro identify budget
  have ids := names.selectedSegmentIds
  rw [b.selectedSegmentIds_eq, b'.selectedSegmentIds_eq] at ids
  have memory := filterMap_eq_of_names ids fun item member item' member' equal =>
    (identify item member item' member' equal).1
  have contributions := filterMap_eq_of_names ids fun item member item' member' equal =>
    (identify item member item' member' equal).2
  refine contents.mpr ⟨budget, ?_, contributions⟩
  rw [b.memoryRefs_eq, b'.memoryRefs_eq, memory]

/-! ## A revised segment -/

/-- The evidence segment with another content. -/
def revisedSegment : ContextSegment :=
  { evidenceSegment with
    content := "Revised internal evidence."
    wellFormed := by decide }

theorem selectedSegmentIds_contextArguments {segments header : List ContextSegment}
    {bundle : RuntimeContextBundle} {selection : ContextSelection}
    (b : Built contextManager (contextArguments segments) bundle contextView header selection)
    (small : Priority.total ContextSegment.sizeCharacters segments ≤ 2000) :
    bundle.selection.selectedSegmentIds =
      (Priority.sortBy id ([toLex (1, "system_security_authority"),
        toLex (2, "execution_context_scope"), toLex (3, "authorized_user_goal")] ++
          segments.map segmentKey)).map fun key => (ofLex key).2 := by
  rw [b.selectedSegmentIds_eq, selectedSegments_contextArguments b small,
    ← segmentKey_header b.generated, ← List.map_append, Priority.sortBy_map, List.map_map]
  rfl

/-- Segments of the same priorities and ids are the same names. -/
theorem sameNames_contextArguments {segments segments' header header' : List ContextSegment}
    {bundle bundle' : RuntimeContextBundle} {selection selection' : ContextSelection}
    (b : Built contextManager (contextArguments segments) bundle contextView header selection)
    (b' : Built contextManager (contextArguments segments') bundle' contextView header' selection')
    (small : Priority.total ContextSegment.sizeCharacters segments ≤ 2000)
    (small' : Priority.total ContextSegment.sizeCharacters segments' ≤ 2000)
    (keys : segments.map segmentKey = segments'.map segmentKey) :
    SameNames bundle.toBundleFields bundle'.toBundleFields := by
  constructor
  case selectedSegmentIds =>
    rw [selectedSegmentIds_contextArguments b small,
      selectedSegmentIds_contextArguments b' small', keys]
  all_goals
    rw [b.bundle, b'.bundle]
    rfl

theorem shortDigest_evidenceFields :
    shortDigest contextPlatform (contextPlatform.dumps (.obj evidenceFields)) =
      "e6ef1191d722dbe3a3be6b5f" := by
  have prints : contextPlatform.floatRepr = Platform.sample.floatRepr := rfl
  have digest : contextPlatform.sha256Hex (Platform.sample.dumps (.obj evidenceFields)) =
      "e6ef1191d722dbe3a3be6b5fb00b9b845d07aadd74c4d06d6723c4e1a9bbcff1" := by
    simp [contextPlatform, Platform.hashing, Dict.get?]
  rw [shortDigest, Platform.dumps, prints, ← Platform.dumps, digest]
  decide +kernel

/-- What such segments are hashed to. -/
theorem contextId_contextArguments {segments header : List ContextSegment}
    {bundle : RuntimeContextBundle} {selection : ContextSelection}
    (b : Built contextManager (contextArguments segments) bundle contextView header selection)
    (small : Priority.total ContextSegment.sizeCharacters segments ≤ 2000)
    (keys : segments.map segmentKey = [segmentKey evidenceSegment]) :
    bundle.contextId = "context_e6ef1191d722dbe3a3be6b5f" := by
  have ids := selectedSegmentIds_contextArguments b small
  have sorted : ((Priority.sortBy id ([toLex (1, "system_security_authority"),
      toLex (2, "execution_context_scope"), toLex (3, "authorized_user_goal")] ++
        [segmentKey evidenceSegment])).map fun key => (ofLex key).2) =
      ["system_security_authority", "execution_context_scope", "authorized_user_goal",
        "authoritative_evidence_001"] := by
    decide +kernel
  have goal : normalizedGoal "Evaluate the authorized evidence." =
      "Evaluate the authorized evidence." := by
    decide +kernel
  have hashed : hashedFields bundle.toBundleFields = evidenceFields := by
    rw [hashedFields, ids, keys, sorted, b.bundle]
    dsimp only [bundleFields, contextArguments]
    rw [goal]
    rfl
  rw [b.contextId_eq, hashedPayload, hashed]
  exact congrArg _ shortDigest_evidenceFields

theorem sameNames_revised :
    ∃ bundle bundle' header header' selection selection',
      Built contextManager (contextArguments [evidenceSegment]) bundle contextView header
        selection ∧
      Built contextManager (contextArguments [revisedSegment]) bundle' contextView header'
        selection' ∧
      SameNames bundle.toBundleFields bundle'.toBundleFields ∧
      bundle.contextId = "context_e6ef1191d722dbe3a3be6b5f" ∧
      bundle'.contextId = "context_e6ef1191d722dbe3a3be6b5f" := by
  obtain ⟨bundle, header, selection, b⟩ :=
    exists_build_contextArguments [evidenceSegment] (by decide +kernel) (by decide +kernel)
  obtain ⟨bundle', header', selection', b'⟩ :=
    exists_build_contextArguments [revisedSegment] (by decide +kernel) (by decide +kernel)
  exact ⟨bundle, bundle', header, header', selection, selection', b, b',
    sameNames_contextArguments b b' (by decide) (by decide) (by decide),
    contextId_contextArguments b (by decide) rfl, contextId_contextArguments b' (by decide) rfl⟩

theorem contextId_identifies_revised :
    ∃ bundle bundle', contextManager.build (contextArguments [evidenceSegment]) = .ok bundle ∧
      contextManager.build (contextArguments [revisedSegment]) = .ok bundle' ∧
      bundle.contextId = "context_e6ef1191d722dbe3a3be6b5f" ∧
      bundle'.contextId = "context_e6ef1191d722dbe3a3be6b5f" ∧
      SameNames bundle.toBundleFields bundle'.toBundleFields := by
  obtain ⟨bundle, bundle', header, header', selection, selection', b, b', names, id, id'⟩ :=
    sameNames_revised
  have built := build_eq_ok_iff.mpr ⟨_, header, selection, b⟩
  have built' := build_eq_ok_iff.mpr ⟨_, header', selection', b'⟩
  have apart : TellsApart contextPlatform
      (hashedPayload contextPlatform bundle.toBundleFields)
      (hashedPayload contextPlatform bundle'.toBundleFields) :=
    fun _ => hashedPayload_eq_iff.mpr names
  exact ⟨bundle, bundle', built, built', id, id',
    (contextId_identifies built built' apart (id.trans id'.symm)).1⟩

/-- Two builds have one context id, and bundles with different contents. -/
theorem contextId_counterexample :
    ¬ ∀ (platform : Platform) (contracts contracts' : CanonicalContractCatalog)
      (now now' : Timestamp) (args args' : BuildArguments) (bundle bundle' : RuntimeContextBundle),
      build ⟨platform, contracts, now⟩ args = .ok bundle →
        build ⟨platform, contracts', now'⟩ args' = .ok bundle' →
          TellsApart platform (hashedPayload platform bundle.toBundleFields)
            (hashedPayload platform bundle'.toBundleFields) →
          bundle.contextId = bundle'.contextId →
            apartFromCreatedAt bundle.canonicalContextBundle =
              apartFromCreatedAt bundle'.canonicalContextBundle := by
  intro identifies
  obtain ⟨bundle, bundle', header, header', selection, selection', b, b', names, id, id'⟩ :=
    sameNames_revised
  have same := id.trans id'.symm
  have equal := identifies _ _ _ _ _ _ _ _ _ (build_eq_ok_iff.mpr ⟨_, header, selection, b⟩)
    (build_eq_ok_iff.mpr ⟨_, header', selection', b'⟩)
    (fun _ => hashedPayload_eq_iff.mpr names) same
  rw [b.apartFromCreatedAt_eq, b'.apartFromCreatedAt_eq, timelessFields_eq_iff same names] at equal
  have kept : evidenceSegment ∈ bundle.selectedSegments :=
    mem_selected_contextArguments b (by decide) (List.mem_singleton.mpr rfl)
  have contributed : (evidenceSegment.key, evidenceSegment.content, contextEvidence) ∈
      bundle.selectedSegments.filterMap contribution := List.mem_filterMap.mpr ⟨_, kept, rfl⟩
  rw [equal.contributions] at contributed
  obtain ⟨item, member, contributes⟩ := List.mem_filterMap.mp contributed
  rw [selectedSegments_contextArguments b' (by decide), (Priority.sortBy_perm _ _).mem_iff]
    at member
  rcases List.mem_append.mp member with generated | supplied
  · rw [contribution, b'.evidence_eq_none generated] at contributes
    cases contributes
  · rw [List.mem_singleton.mp supplied] at contributes
    exact absurd contributes (by decide +kernel)

end ContextManager

end Genesis

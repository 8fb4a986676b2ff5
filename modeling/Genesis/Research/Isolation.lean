import Genesis.Research.Engine

/-!
# Isolation of research evidence

The references a result returns are exactly the references of the bundle that
are the last with their evidence id (`mem_returnedRefs_iff`): no reference is
made up, and none is left out.  The engine compares the identity of the bundle
with the execution context and the identity of a reference with nothing, so a
result stays inside the tenant exactly when these references do.
-/

namespace Genesis

open Py Session

/-! ## Reading documents -/

/-- `document[key]`, if the document is a dictionary that has the key. -/
def field? (document : Json) (key : String) : Option Json :=
  document.dict?.bind fun d => d.get? key

/-- The members of a list field. -/
def listField (document : Json) (key : String) : List Json :=
  match field? document key with
  | some (.arr items) => items
  | _ => []

theorem listField_eq {document : Json} {key : String} {items : List Json}
    (found : field? document key = some (.arr items)) : listField document key = items := by
  rw [listField, found]

namespace ResearchEngine

/-- The evidence references of a result: in its evidence bundle, its findings and
its recommendations. -/
def returnedRefs (result : JsonObject) : List Json :=
  listField ((result.get? "evidence_bundle").getD .null) "evidence_refs" ++
    (listField (.obj result) "findings" ++ listField (.obj result) "recommendations").flatMap
      fun document => listField document "evidence_refs"

/-- The reference has the tenant, organization and workspace of the context. -/
def SameIdentity (executionContext : JsonObject) (ref : Json) : Prop :=
  ∀ key ∈ ["tenant_id", "organization_id", "workspace_id"], ∃ expected actual,
    executionContext.get? key = some expected ∧ field? ref key = some actual ∧
      actual.pyEq expected = true

/-- `str(ref["evidence_id"])`. -/
def evidenceKey (platform : Platform) (ref : Json) : Option String :=
  (field? ref "evidence_id").map platform.str

/-- The reference is the last of the bundle with its evidence id. -/
def Canonical (platform : Platform) (bundle : JsonObject) (ref : Json) : Prop :=
  ∃ before after key, listField (.obj bundle) "evidence_refs" = before ++ ref :: after ∧
    evidenceKey platform ref = some key ∧ ∀ later ∈ after, evidenceKey platform later ≠ some key

/-- The reference is the last of the bundle with this evidence id. -/
def LastUnder (platform : Platform) (bundle : JsonObject) (key : String) (ref : Json) : Prop :=
  ∃ before after, listField (.obj bundle) "evidence_refs" = before ++ ref :: after ∧
    evidenceKey platform ref = some key ∧ ∀ later ∈ after, evidenceKey platform later ≠ some key

theorem canonical_iff {platform : Platform} {bundle : JsonObject} {ref : Json} :
    Canonical platform bundle ref ↔ ∃ key, LastUnder platform bundle key ref := by
  refine ⟨?_, ?_⟩
  · intro h
    rcases h with ⟨before, after, key, last⟩
    exact ⟨key, before, after, last⟩
  · intro h
    rcases h with ⟨key, before, after, last⟩
    exact ⟨before, after, key, last⟩

section

variable {engine : ResearchEngine} {platform : Platform}
  {payload request executionContext bundle result : JsonObject} {t : ResearchTrace}
  {evidence : Dict Json} {pairs : List (String × Json)}

/-! ## The evidence of a bundle -/

theorem evidencePair_eq_ok {ref : Json} {pair : String × Json}
    (built : evidencePair platform ref = .ok pair) :
    pair.2 = ref ∧ (∃ d, ref = .obj d) ∧ evidenceKey platform ref = some pair.1 := by
  simp only [evidencePair, except_bind_eq_ok, subscript_eq_ok_iff] at built
  obtain ⟨id, ⟨d, rfl, found⟩, same⟩ := built
  cases same
  have key : field? (.obj d) "evidence_id" = some id := found
  refine ⟨rfl, ⟨d, rfl⟩, ?_⟩
  rw [evidenceKey, key]
  rfl

/-- A list of references under the texts of their ids. -/
theorem refs_of_pairs {refs : List Json}
    (each : List.Forall₂ (fun ref pair => evidencePair platform ref = .ok pair) refs pairs) :
    refs = pairs.map Prod.snd ∧
      ∀ pair ∈ pairs, (∃ d, pair.2 = .obj d) ∧ evidenceKey platform pair.2 = some pair.1 := by
  induction each with
  | nil => exact ⟨rfl, fun _ none => absurd none List.not_mem_nil⟩
  | cons built _ ih =>
    obtain ⟨rfl, dict, key⟩ := evidencePair_eq_ok built
    refine ⟨congrArg (_ :: ·) ih.1, fun pair member => ?_⟩
    rcases List.mem_cons.mp member with rfl | later
    · exact ⟨dict, key⟩
    · exact ih.2 pair later

/-- What can be iterated over to a dictionary is a list. -/
theorem eq_arr_of_iterate? {value : Json} {d : JsonObject} {items : List Json}
    (iterated : value.iterate? = some items) (member : .obj d ∈ items) : value = .arr items := by
  cases value with
  | arr xs =>
    cases iterated
    rfl
  | obj fields =>
    cases iterated
    obtain ⟨kv, -, impossible⟩ := List.mem_map.mp member
    cases impossible
  | str s =>
    cases iterated
    obtain ⟨c, -, impossible⟩ := List.mem_map.mp member
    cases impossible
  | _ => cases iterated

/-- The evidence of a bundle is its list of references, each under the text of its id. -/
theorem evidencePairs_eq_ok (built : evidencePairs platform bundle = .ok pairs)
    (nonempty : pairs ≠ []) :
    listField (.obj bundle) "evidence_refs" = pairs.map Prod.snd ∧
      ∀ pair ∈ pairs, evidenceKey platform pair.2 = some pair.1 := by
  unfold evidencePairs at built
  split at built
  · cases built
  next refs iterated =>
  obtain ⟨rfl, keyed⟩ := refs_of_pairs (mapM_eq_ok_iff.mp built)
  refine ⟨listField_eq ?_, fun pair member => (keyed pair member).2⟩
  obtain ⟨first, member⟩ := List.exists_mem_of_ne_nil pairs nonempty
  obtain ⟨d, dict⟩ := (keyed first member).1
  have inRefs : .obj d ∈ pairs.map Prod.snd := by
    rw [← dict]
    exact List.mem_map_of_mem member
  have list := eq_arr_of_iterate? iterated inRefs
  cases found : bundle.get? "evidence_refs" with
  | none =>
    rw [found] at list
    cases pairs with
    | nil => cases member
    | cons => cases list
  | some value =>
    rw [found] at list
    cases list
    exact found

/-- The evidence dictionary of a bundle is written from its references. -/
theorem evidence_eq_ofPairs (found : evidenceById platform bundle = .ok evidence)
    (nonempty : evidence ≠ []) :
    ∃ pairs, evidence = .ofPairs pairs ∧
      listField (.obj bundle) "evidence_refs" = pairs.map Prod.snd ∧
      ∀ pair ∈ pairs, evidenceKey platform pair.2 = some pair.1 := by
  simp only [evidenceById, except_bind_eq_ok] at found
  rcases found with ⟨pairs, built, same⟩
  cases same
  have pairs_nonempty : pairs ≠ [] := by
    intro none
    cases none
    exact nonempty rfl
  exact ⟨pairs, rfl, evidencePairs_eq_ok built pairs_nonempty⟩

/-- The reference under an id is the last one of the bundle with it. -/
theorem get?_evidence_eq_some_iff {key : String} {ref : Json}
    (found : evidenceById platform bundle = .ok evidence) (nonempty : evidence ≠ []) :
    evidence.get? key = some ref ↔ LastUnder platform bundle key ref := by
  obtain ⟨pairs, rfl, refs, keyed⟩ := evidence_eq_ofPairs found nonempty
  rw [Dict.get?_ofPairs_eq_some_iff]
  unfold LastUnder
  rw [refs]
  refine ⟨?_, ?_⟩
  · intro h
    rcases h with ⟨before, after, split, last⟩
    refine ⟨before.map Prod.snd, after.map Prod.snd, ?_, ?_, fun later member same => ?_⟩
    · rw [split, List.map_append, List.map_cons]
    · exact keyed (key, ref) (by rw [split]; simp)
    · obtain ⟨pair, inAfter, rfl⟩ := List.mem_map.mp member
      have own := keyed pair (by rw [split]; simp [inAfter])
      cases own.symm.trans same
      exact last (List.mem_map_of_mem inAfter)
  · intro h
    rcases h with ⟨before, after, split, own, last⟩
    obtain ⟨l₁, l₂, rfl, rfl, tail⟩ := List.map_eq_append_iff.mp split
    obtain ⟨pair, l₃, rfl, rfl, rfl⟩ := List.map_eq_cons_iff.mp tail
    have same := keyed pair (by simp)
    cases own.symm.trans same
    refine ⟨l₁, l₃, rfl, fun member => ?_⟩
    obtain ⟨later, inAfter, sameKey⟩ := List.mem_map.mp member
    apply last later.2 (List.mem_map_of_mem inAfter)
    rw [keyed later (by simp [inAfter]), sameKey]

/-- An id without a reference is the id of no reference of the bundle. -/
theorem get?_evidence_eq_none_iff {key : String}
    (found : evidenceById platform bundle = .ok evidence) (nonempty : evidence ≠ []) :
    evidence.get? key = none ↔
      ∀ ref ∈ listField (.obj bundle) "evidence_refs", evidenceKey platform ref ≠ some key := by
  obtain ⟨pairs, rfl, refs, keyed⟩ := evidence_eq_ofPairs found nonempty
  rw [Dict.get?_ofPairs_eq_none_iff, refs]
  refine ⟨?_, ?_⟩
  · intro absent ref member own
    obtain ⟨pair, inPairs, rfl⟩ := List.mem_map.mp member
    cases (keyed pair inPairs).symm.trans own
    exact absent (List.mem_map_of_mem inPairs)
  · intro absent member
    obtain ⟨pair, inPairs, rfl⟩ := List.mem_map.mp member
    exact absent pair.2 (List.mem_map_of_mem inPairs) (keyed pair inPairs)

/-- The values of the evidence dictionary are the canonical references. -/
theorem mem_values_evidence_iff {ref : Json}
    (found : evidenceById platform bundle = .ok evidence) (nonempty : evidence ≠ []) :
    ref ∈ evidence.values ↔ Canonical platform bundle ref := by
  have nodup : (evidence.map Prod.fst).Nodup := by
    obtain ⟨pairs, rfl, -⟩ := evidence_eq_ofPairs found nonempty
    exact Dict.nodup_keys_ofPairs pairs
  rw [Dict.mem_values_iff nodup, canonical_iff]
  exact exists_congr fun _ => get?_evidence_eq_some_iff found nonempty

/-! ## The references of a result -/

/-- Every reference the draft cites is in the evidence. -/
theorem references_subset {evidenceIds : List String} {refs : List Json}
    (built : references evidenceIds evidence = .ok refs) : refs ⊆ evidence.values := by
  unfold references at built
  rw [check_bind_eq_ok] at built
  intro ref member
  obtain ⟨evidenceId, -, found⟩ := exists_of_mem_mapM built.2 member
  rw [item_eq_ok_iff] at found
  exact List.mem_map.mpr ⟨_, Dict.mem_of_get?_eq_some found, rfl⟩

theorem finding_refs {draft : FindingDraft} {document : JsonObject}
    (built : finding evidence draft = .ok document) :
    listField (.obj document) "evidence_refs" ⊆ evidence.values := by
  simp only [finding, except_bind_eq_ok] at built
  obtain ⟨refs, cited, same⟩ := built
  cases same
  exact references_subset cited

theorem recommendation_refs {draft : RecommendationDraft} {document : JsonObject}
    (built : recommendation evidence draft = .ok document) :
    listField (.obj document) "evidence_refs" ⊆ evidence.values := by
  simp only [recommendation, except_bind_eq_ok] at built
  obtain ⟨refs, cited, same⟩ := built
  cases same
  exact references_subset cited

/-- A result returns its evidence bundle and what its findings and recommendations cite. -/
theorem returnedRefs_resultDocument {findings recommendations : List JsonObject}
    {evidenceRefs : List Json} {limitations : List String}
    (built : engine.resultDocument request executionContext findings recommendations evidenceRefs
      limitations = .ok result) :
    returnedRefs result = evidenceRefs ++
      ((findings ++ recommendations).map Json.obj).flatMap
        fun document => listField document "evidence_refs" := by
  simp only [resultDocument, except_bind_eq_ok] at built
  obtain ⟨_, -, _, -, _, -, _, -, _, -, _, -, same⟩ := built
  cases same
  rw [List.map_append]
  rfl

/-- A result returns the values of the evidence dictionary, and nothing else. -/
theorem mem_returnedRefs_iff {response : ModelResponse} {ref : Json}
    (concluded : engine.conclude payload executionContext evidence response = .ok result) :
    ref ∈ returnedRefs result ↔ ref ∈ evidence.values := by
  obtain ⟨draft, findings, recommendations, -, found, recommended, built⟩ :=
    conclude_eq_ok concluded
  rw [returnedRefs_resultDocument built, List.mem_append]
  refine ⟨fun returned => ?_, .inl⟩
  rcases returned with listed | cited
  · exact listed
  obtain ⟨_, inDocuments, member⟩ := List.mem_flatMap.mp cited
  obtain ⟨document, source, rfl⟩ := List.mem_map.mp inDocuments
  rcases List.mem_append.mp source with inFindings | inRecommendations
  · obtain ⟨item, -, one⟩ := exists_left_of_forall₂ found inFindings
    exact finding_refs one member
  · obtain ⟨item, -, one⟩ := exists_left_of_forall₂ recommended inRecommendations
    exact recommendation_refs one member

end

/-- The references of a result are those of the tenant, organization and workspace
of the request exactly when the canonical references of the bundle are. -/
theorem research_isolated_iff {engine : ResearchEngine}
    {payload executionContext bundle result : JsonObject} {t : ResearchTrace}
    (run : Runs (engine.research payload) () t (.ok result) ())
    (context : payload.get? "execution_context" = some (.obj executionContext))
    (supplied : Supplied payload t.retrieved bundle) :
    (∀ ref ∈ returnedRefs result, SameIdentity executionContext ref) ↔
      ∀ ref, Canonical engine.platform bundle ref → SameIdentity executionContext ref := by
  obtain ⟨before, executionContext', bundle', model, evidence, response, prepared, rfl,
    concluded⟩ := runs_research_ok run
  cases context.symm.trans (executionContext_eq_ok prepared.context)
  obtain rfl := prepared.supplied_iff.mp supplied
  obtain ⟨found, nonempty, -⟩ := prepare_eq_ok prepared.prepared
  apply forall_congr'
  intro ref
  apply imp_congr_left
  rw [mem_returnedRefs_iff concluded, mem_values_evidence_iff found nonempty]

/-! ## A research run -/

def policyEvidence (tenantId classification : String) : JsonObject :=
  [("tenant_id", .str tenantId), ("organization_id", .str "org_research_001"),
    ("workspace_id", .str "workspace_research_001"), ("evidence_id", .str "evidence_policy_001"),
    ("source_id", .str "source_policy_001"), ("uri", .str "urn:alos:source:policy:1"),
    ("captured_at", .str "2026-09-18T00:00:00Z"),
    ("content_hash",
      .str "sha256:aaaaaaaaaaaaaaaaaaaaaaaaaaaaaaaaaaaaaaaaaaaaaaaaaaaaaaaaaaaaaaaa"),
    ("source_version", .str "1.0.0"), ("anchor", .str "lines 1-1"),
    ("excerpt", .str "Retention is seven years."),
    ("data_classification", .str classification), ("validation_status", .str "VALID")]

def policyItem (classification : String) : JsonObject :=
  [("key", .str "policy-retention"), ("value", .str "Retention is seven years."),
    ("source_id", .str "source_policy_001"), ("evidence_id", .str "evidence_policy_001"),
    ("source_version", .str "1.0.0"),
    ("content_hash",
      .str "sha256:aaaaaaaaaaaaaaaaaaaaaaaaaaaaaaaaaaaaaaaaaaaaaaaaaaaaaaaaaaaaaaaa"),
    ("anchor", .str "lines 1-1"), ("data_classification", .str classification)]

/-- A bundle with one item and one reference, both with this label. -/
def policyBundle (tenantId classification : String) : JsonObject :=
  [("context_id", .str "context_research_001"), ("tenant_id", .str "tenant_research_001"),
    ("organization_id", .str "org_research_001"),
    ("workspace_id", .str "workspace_research_001"), ("actor_id", .str "actor_research_001"),
    ("correlation_id", .str "corr_research_001"),
    ("scope_refs", strTuple ["scope.sources.read"]),
    ("created_at", .str "2026-09-18T00:00:00Z"), ("items", .arr [.obj (policyItem classification)]),
    ("evidence_refs", .arr [.obj (policyEvidence tenantId classification)])]

def policyContext : JsonObject :=
  [("tenant_id", .str "tenant_research_001"), ("organization_id", .str "org_research_001"),
    ("workspace_id", .str "workspace_research_001"), ("actor_id", .str "actor_research_001"),
    ("authority_context", .obj [("role", .str "RESEARCHER"),
      ("authority_level", .str "REQUESTER")]),
    ("permission_refs", strTuple ["sources.read"]),
    ("scope_refs", strTuple ["scope.sources.read"]), ("data_classification", .str "INTERNAL"),
    ("correlation_id", .str "corr_research_001"),
    ("execution_budget", .obj [("max_tokens", .int 1000), ("max_steps", .int 2)])]

def policyRequest (bundle : JsonObject) : JsonObject :=
  [("research_id", .str "research_policy_001"), ("run_id", .str "run_research_001"),
    ("correlation_id", .str "corr_research_001"), ("domain", .str "MANAGEMENT"),
    ("question", .str "What is the retention period?"), ("execution_context", .obj policyContext),
    ("scope", strTuple ["retention-policy"]), ("context_bundle", .obj bundle)]

/-- A draft with one finding that cites the reference of the bundle. -/
def policyDraft : Json :=
  .obj [("findings", .arr [.obj [("finding_id", .str "finding_policy_001"),
      ("statement", .str "The retention period is seven years."), ("confidence", .int 1),
      ("evidence_ids", strTuple ["evidence_policy_001"])]]),
    ("recommendations", .arr [])]

/-- An engine on a platform that parses the draft; every document satisfies its schema. -/
def policyEngine : ResearchEngine where
  platform :=
    { Platform.sample with
      sha256Hex := fun _ => "c836564b3eed7329d1afc626996169cf3181ac6f1c8d26cf000a68d354cbcd51"
      validateJson := fun _ => some policyDraft }
  contracts := ⟨fun _ => some fun _ => none⟩
  contextProvider := false
  completedAt := "2026-09-18T00:00:01Z"

/-- A gateway that completes every request with the draft. -/
def policyReply : ResearchTrace → (call : ResearchCall) → Except PyException call.Reply
  | _, .retrieve _ _ _ => .ok .null
  | _, .complete _ =>
    .ok { content := policyEngine.platform.dumps policyDraft, routeId := "deterministic-test",
          inputTokens := 10, outputTokens := 20 }

/-- The run of a request, every model call of it answered with the draft. -/
def answeredRun (engine : ResearchEngine) (payload : JsonObject) :
    ResearchTrace × Except PyException JsonObject × Unit :=
  ((engine.research payload).run.run ()).converse policyReply []

def answeredResult (engine : ResearchEngine) (payload : JsonObject) : JsonObject :=
  (answeredRun engine payload).2.1.toOption.getD []

/-- A result that was returned is the result of a run. -/
theorem runs_answeredRun {engine : ResearchEngine} {payload : JsonObject}
    (returned : (answeredRun engine payload).2.1 = .ok (answeredResult engine payload)) :
    Runs (engine.research payload) () (answeredRun engine payload).1
      (.ok (answeredResult engine payload)) () := by
  have run := Dialogue.converse_runs policyReply [] ((engine.research payload).run.run ())
  rw [← returned]
  exact run

def policyRun (bundle : JsonObject) : ResearchTrace × Except PyException JsonObject × Unit :=
  ((policyEngine.research (policyRequest bundle)).run.run ()).converse policyReply []

def policyResult (bundle : JsonObject) : JsonObject := (policyRun bundle).2.1.toOption.getD []

theorem runs_policyRun {bundle : JsonObject}
    (returned : (policyRun bundle).2.1 = .ok (policyResult bundle)) :
    Runs (policyEngine.research (policyRequest bundle)) () (policyRun bundle).1
      (.ok (policyResult bundle)) () :=
  runs_answeredRun returned

/-- The one reference of a bundle is the one that counts. -/
theorem canonical_policyBundle {platform : Platform} {tenantId classification : String} {ref : Json}
    (canonical : Canonical platform (policyBundle tenantId classification) ref) :
    ref = .obj (policyEvidence tenantId classification) := by
  obtain ⟨before, after, key, split, -, -⟩ := canonical
  have member : ref ∈ listField (.obj (policyBundle tenantId classification)) "evidence_refs" := by
    rw [split]
    exact List.mem_append_right before List.mem_cons_self
  exact List.mem_singleton.mp member

theorem research_isolated_policy :
    (policyRun (policyBundle "tenant_research_001" "INTERNAL")).2.1.isOk = true ∧
      ∀ ref ∈ returnedRefs (policyResult (policyBundle "tenant_research_001" "INTERNAL")),
        SameIdentity policyContext ref := by
  have returned : (policyRun (policyBundle "tenant_research_001" "INTERNAL")).2.1 =
      .ok (policyResult (policyBundle "tenant_research_001" "INTERNAL")) := by
    decide +kernel
  refine ⟨by rw [returned]; rfl, ?_⟩
  apply (research_isolated_iff (runs_policyRun returned) rfl (.inl rfl)).mpr
  intro ref canonical
  rw [canonical_policyBundle canonical]
  intro key member
  simp only [List.mem_cons, List.not_mem_nil, or_false] at member
  rcases member with rfl | rfl | rfl
  · exact ⟨_, _, rfl, rfl, by decide⟩
  · exact ⟨_, _, rfl, rfl, by decide⟩
  · exact ⟨_, _, rfl, rfl, by decide⟩

/-- A reference of another tenant is returned as evidence. -/
theorem isolation_counterexample :
    ¬ ∀ (engine : ResearchEngine) (payload executionContext result : JsonObject)
      (t : ResearchTrace), Runs (engine.research payload) () t (.ok result) () →
        payload.get? "execution_context" = some (.obj executionContext) →
          ∀ ref ∈ returnedRefs result, SameIdentity executionContext ref := by
  intro isolated
  have returned : (policyRun (policyBundle "tenant_other_002" "INTERNAL")).2.1 =
      .ok (policyResult (policyBundle "tenant_other_002" "INTERNAL")) := by
    decide +kernel
  have foreign : .obj (policyEvidence "tenant_other_002" "INTERNAL") ∈
      returnedRefs (policyResult (policyBundle "tenant_other_002" "INTERNAL")) := by
    decide +kernel
  rcases isolated _ _ policyContext _ _ (runs_policyRun returned) rfl _ foreign "tenant_id"
    List.mem_cons_self with ⟨expected, actual, own, other, same⟩
  cases own
  cases other
  exact absurd same (by decide)

end ResearchEngine

end Genesis

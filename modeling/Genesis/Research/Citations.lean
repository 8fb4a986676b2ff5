import Genesis.Research.Isolation
import Mathlib.Data.List.Count

/-!
# Citations of a research result

A draft cites evidence by id and findings by id.  The engine resolves the first
kind and copies the second.

- `research_bindsCitations`: a result cites the references of its bundle whose
  ids the draft cites, in the order of the draft, and a draft that cites another
  id has no result.
- `research_keepsReferences_iff`: the evidence is a dictionary by id, so a result
  keeps every reference exactly when no id of the bundle has two of them.
- `research_linksFindings_iff`: the findings that the recommendations of a result
  name are its own exactly when the draft is closed in this sense.
-/

namespace Genesis

open Py Session

namespace ResearchEngine

/-! ## What a draft and a result say -/

/-- The gateway answered the run with this draft. -/
def Drafted (platform : Platform) (t : ResearchTrace) (draft : ResearchDraft) : Prop :=
  ∃ model response, (⟨.complete model, .ok response⟩ : ResearchEvent) ∈ t ∧
    ResearchDraft.modelValidateJson platform response.content = .ok draft

/-- The references of the evidence bundle of a result. -/
def bundledRefs (result : JsonObject) : List Json :=
  listField ((result.get? "evidence_bundle").getD .null) "evidence_refs"

/-- The document has these fields, and lacks those that are `none`. -/
def Carries (fields : List (String × Option Json)) (document : Json) : Prop :=
  ∀ field ∈ fields, field? document field.1 = field.2

/-- What a finding takes over from its draft. -/
def findingFields (draft : FindingDraft) : List (String × Option Json) :=
  [("finding_id", some (.str draft.findingId)), ("finding_type", some (.str draft.findingType)),
    ("domain", draft.domain.map .str), ("title", draft.title.map .str),
    ("statement", some (.str draft.statement)), ("severity", draft.severity.map .str),
    ("confidence", some (.float draft.confidence)),
    ("limitations", some (strTuple draft.limitations))]

/-- What a recommendation takes over from its draft. -/
def recommendationFields (draft : RecommendationDraft) : List (String × Option Json) :=
  [("recommendation_id", some (.str draft.recommendationId)),
    ("summary", some (.str draft.summary)),
    ("recommended_action", some (.str draft.recommendedAction)),
    ("confidence", some (.float draft.confidence)),
    ("finding_ids", some (strTuple draft.findingIds)),
    ("limitations", some (strTuple draft.limitations)),
    ("backlog_candidate", some (.bool draft.backlogCandidate))]

/-- Every evidence id a draft cites. -/
def citedIds (draft : ResearchDraft) : List String :=
  draft.findings.flatMap (fun item => item.evidenceIds) ++
    draft.recommendations.flatMap fun item => item.evidenceIds

/-- The references of the document are references of the bundle and of the result,
with these ids in this order. -/
structure Cites (platform : Platform) (bundle result : JsonObject) (evidenceIds : List String)
    (document : Json) : Prop where
  ids : (listField document "evidence_refs").map (evidenceKey platform) = evidenceIds.map some
  supplied : listField document "evidence_refs" ⊆ listField (.obj bundle) "evidence_refs"
  bundled : listField document "evidence_refs" ⊆ bundledRefs result

/-- The findings and recommendations of the result are those of the draft, one to one
and in order, and they cite what the draft cites. -/
structure BindsCitations (platform : Platform) (bundle : JsonObject) (draft : ResearchDraft)
    (result : JsonObject) : Prop where
  findings : List.Forall₂ (fun item document => Carries (findingFields item) document ∧
    Cites platform bundle result item.evidenceIds document)
      draft.findings (listField (.obj result) "findings")
  recommendations : List.Forall₂ (fun item document =>
    Carries (recommendationFields item) document ∧
      Cites platform bundle result item.evidenceIds document)
      draft.recommendations (listField (.obj result) "recommendations")
  supported : ∀ document ∈ listField (.obj result) "findings",
    listField document "evidence_refs" ≠ []

section

variable {engine : ResearchEngine} {platform : Platform}
  {payload request executionContext bundle result : JsonObject} {t : ResearchTrace}
  {evidence : Dict Json} {model : ModelRequest} {draft : ResearchDraft}

/-! ## The draft of a run -/

theorem parseDraft_eq_ok_iff {response : ModelResponse} :
    parseDraft platform response = .ok draft ↔
      ResearchDraft.modelValidateJson platform response.content = .ok draft := by
  unfold parseDraft
  split
  · next invalid =>
    rw [invalid]
    exact ⟨nofun, nofun⟩
  · exact Iff.rfl

/-- A run is answered by the draft in the reply of the gateway, if there is one. -/
theorem Prepared.drafted_iff {reply : Except PyException ModelResponse}
    (prepared : Prepared engine payload t executionContext bundle model evidence) :
    Drafted platform (t ++ [⟨.complete model, reply⟩]) draft ↔
      ∃ response, reply = .ok response ∧ parseDraft platform response = .ok draft := by
  simp only [parseDraft_eq_ok_iff]
  refine ⟨?_, ?_⟩
  · intro h
    rcases h with ⟨asked, response, member, parsed⟩
    exact ⟨response, (prepared.eq_of_mem member).2.symm, parsed⟩
  · intro h
    rcases h with ⟨response, rfl, parsed⟩
    exact ⟨model, response, List.mem_append_right t (List.mem_singleton_self _), parsed⟩

/-! ## Citing evidence -/

/-- The citations of a draft item resolve, one by one, or the item fails. -/
theorem references_eq_ok_iff {evidenceIds : List String} {refs : List Json} :
    references evidenceIds evidence = .ok refs ↔
      List.Forall₂ (fun evidenceId ref => evidence.get? evidenceId = some ref)
        evidenceIds refs := by
  simp only [references, check_bind_eq_ok, raiseUnless_eq_ok_iff, mapM_eq_ok_iff, item_eq_ok_iff]
  refine ⟨And.right, fun resolved => ⟨?_, resolved⟩⟩
  rw [List.filter_eq_nil_iff]
  intro evidenceId cited
  obtain ⟨ref, -, found⟩ := exists_right_of_forall₂ resolved cited
  rw [found]
  exact Bool.false_ne_true

/-- What is resolved against the evidence of a bundle are references of the bundle under
the ids that were cited. -/
theorem ids_of_resolved {evidenceIds : List String} {refs : List Json}
    (found : evidenceById platform bundle = .ok evidence) (nonempty : evidence ≠ [])
    (resolved : List.Forall₂ (fun evidenceId ref => evidence.get? evidenceId = some ref)
      evidenceIds refs) :
    refs.map (evidenceKey platform) = evidenceIds.map some ∧
      refs ⊆ listField (.obj bundle) "evidence_refs" ∧ refs ⊆ evidence.values := by
  induction resolved with
  | nil => exact ⟨rfl, List.nil_subset _, List.nil_subset _⟩
  | @cons evidenceId ref evidenceIds refs first _ ih =>
    obtain ⟨ids, supplied, bundled⟩ := ih
    obtain ⟨before, after, split, own, -⟩ := (get?_evidence_eq_some_iff found nonempty).mp first
    have member : ref ∈ listField (.obj bundle) "evidence_refs" := by
      rw [split]
      exact List.mem_append_right before List.mem_cons_self
    have value : ref ∈ evidence.values :=
      List.mem_map.mpr ⟨_, Dict.mem_of_get?_eq_some first, rfl⟩
    refine ⟨?_, List.cons_subset.mpr ⟨member, supplied⟩, List.cons_subset.mpr ⟨value, bundled⟩⟩
    rw [List.map_cons, List.map_cons, own, ids]

theorem finding_eq_ok {item : FindingDraft} {document : JsonObject}
    (built : finding evidence item = .ok document) :
    Carries (findingFields item) (.obj document) ∧
      references item.evidenceIds evidence = .ok (listField (.obj document) "evidence_refs") := by
  simp only [finding, except_bind_eq_ok] at built
  obtain ⟨refs, cited, same⟩ := built
  cases same
  refine ⟨?_, cited⟩
  unfold Carries findingFields
  simp only [List.forall_mem_cons]
  refine ⟨rfl, rfl, ?_, ?_, rfl, ?_, rfl, rfl, List.forall_mem_nil _⟩
  · cases item.domain <;> cases item.title <;> cases item.severity <;> rfl
  · cases item.domain <;> cases item.title <;> cases item.severity <;> rfl
  · cases item.domain <;> cases item.title <;> cases item.severity <;> rfl

theorem recommendation_eq_ok {item : RecommendationDraft} {document : JsonObject}
    (built : recommendation evidence item = .ok document) :
    Carries (recommendationFields item) (.obj document) ∧
      references item.evidenceIds evidence = .ok (listField (.obj document) "evidence_refs") := by
  simp only [recommendation, except_bind_eq_ok] at built
  obtain ⟨refs, cited, same⟩ := built
  cases same
  refine ⟨?_, cited⟩
  unfold Carries recommendationFields
  simp only [List.forall_mem_cons]
  exact ⟨rfl, rfl, rfl, rfl, rfl, rfl, rfl, List.forall_mem_nil _⟩

/-- Where a result has its parts. -/
theorem resultDocument_eq_ok {findings recommendations : List JsonObject} {refs : List Json}
    {limitations : List String}
    (built : engine.resultDocument request executionContext findings recommendations refs
      limitations = .ok result) :
    listField (.obj result) "findings" = findings.map Json.obj ∧
      listField (.obj result) "recommendations" = recommendations.map Json.obj ∧
      bundledRefs result = refs := by
  simp only [resultDocument, except_bind_eq_ok] at built
  obtain ⟨_, -, _, -, _, -, _, -, _, -, _, -, same⟩ := built
  cases same
  exact ⟨rfl, rfl, rfl⟩

/-- A conclusion binds the citations of the draft in the response. -/
theorem bindsCitations_of_conclude {response : ModelResponse}
    (found : evidenceById engine.platform bundle = .ok evidence) (nonempty : evidence ≠ [])
    (concluded : engine.conclude payload executionContext evidence response = .ok result) :
    ∃ draft, parseDraft engine.platform response = .ok draft ∧
      BindsCitations engine.platform bundle draft result := by
  obtain ⟨draft, findings, recommendations, parsed, each, eachRecommendation, built⟩ :=
    conclude_eq_ok concluded
  obtain ⟨hasFindings, hasRecommendations, hasRefs⟩ := resultDocument_eq_ok built
  have cites {evidenceIds : List String} {document : Json}
      (resolved : references evidenceIds evidence =
        .ok (listField document "evidence_refs")) :
      Cites engine.platform bundle result evidenceIds document := by
    obtain ⟨ids, supplied, bundled⟩ :=
      ids_of_resolved found nonempty (references_eq_ok_iff.mp resolved)
    rw [← hasRefs] at bundled
    exact ⟨ids, supplied, bundled⟩
  have bound : List.Forall₂ (fun item document => Carries (findingFields item) document ∧
      Cites engine.platform bundle result item.evidenceIds document)
        draft.findings (listField (.obj result) "findings") := by
    rw [hasFindings, List.forall₂_map_right_iff]
    refine each.imp fun item document one => ?_
    obtain ⟨carries, resolved⟩ := finding_eq_ok one
    exact ⟨carries, cites resolved⟩
  refine ⟨draft, parsed, bound, ?_, ?_⟩
  · rw [hasRecommendations, List.forall₂_map_right_iff]
    refine eachRecommendation.imp fun item document one => ?_
    obtain ⟨carries, resolved⟩ := recommendation_eq_ok one
    exact ⟨carries, cites resolved⟩
  · intro document member none
    obtain ⟨item, -, -, cited⟩ := exists_left_of_forall₂ bound member
    -- a finding of the draft cites something
    have ids := cited.ids
    rw [none] at ids
    exact item.wellFormed.2.2.2 (List.map_eq_nil_iff.mp ids.symm)

/-- A conclusion has found every id the draft cites. -/
theorem isSome_of_conclude {response : ModelResponse} {evidenceId : String}
    (parsed : parseDraft engine.platform response = .ok draft)
    (concluded : engine.conclude payload executionContext evidence response = .ok result)
    (cited : evidenceId ∈ citedIds draft) : ∃ ref, evidence.get? evidenceId = some ref := by
  obtain ⟨_, findings, recommendations, same, each, eachRecommendation, -⟩ :=
    conclude_eq_ok concluded
  cases parsed.symm.trans same
  have resolves {evidenceIds : List String} {refs : List Json}
      (resolved : references evidenceIds evidence = .ok refs) (member : evidenceId ∈ evidenceIds) :
      ∃ ref, evidence.get? evidenceId = some ref := by
    obtain ⟨ref, -, found⟩ := exists_right_of_forall₂ (references_eq_ok_iff.mp resolved) member
    exact ⟨ref, found⟩
  rcases List.mem_append.mp cited with inFindings | inRecommendations
  · obtain ⟨item, listed, member⟩ := List.mem_flatMap.mp inFindings
    obtain ⟨document, -, one⟩ := exists_right_of_forall₂ each listed
    exact resolves (finding_eq_ok one).2 member
  · obtain ⟨item, listed, member⟩ := List.mem_flatMap.mp inRecommendations
    obtain ⟨document, -, one⟩ := exists_right_of_forall₂ eachRecommendation listed
    exact resolves (recommendation_eq_ok one).2 member

/-- A run that was prepared and returns binds the citations of the one draft. -/
theorem Prepared.bindsCitations {response : ModelResponse}
    (prepared : Prepared engine payload t executionContext bundle model evidence)
    (concluded : engine.conclude payload executionContext evidence response = .ok result) :
    ∃ draft, (∀ other, Drafted engine.platform (t ++ [⟨.complete model, .ok response⟩]) other ↔
      other = draft) ∧ BindsCitations engine.platform bundle draft result := by
  obtain ⟨found, nonempty, -⟩ := prepare_eq_ok prepared.prepared
  obtain ⟨draft, parsed, binds⟩ := bindsCitations_of_conclude found nonempty concluded
  refine ⟨draft, fun other => ?_, binds⟩
  rw [prepared.drafted_iff]
  refine ⟨?_, ?_⟩
  · intro h
    rcases h with ⟨_, same, again⟩
    cases same
    exact Except.ok.inj (again.symm.trans parsed)
  · intro same
    rw [same]
    exact ⟨response, rfl, parsed⟩

/-- A run that was prepared and answered with a draft that cites an unknown id fails. -/
theorem Prepared.error_of_unknown {reply : Except PyException ModelResponse} {evidenceId : String}
    (prepared : Prepared engine payload t executionContext bundle model evidence)
    (drafted : Drafted engine.platform (t ++ [⟨.complete model, reply⟩]) draft)
    (cited : evidenceId ∈ citedIds draft)
    (absent : ∀ ref ∈ listField (.obj bundle) "evidence_refs",
      evidenceKey engine.platform ref ≠ some evidenceId) :
    ∃ e, reply.bind (engine.conclude payload executionContext evidence) = .error e := by
  obtain ⟨found, nonempty, -⟩ := prepare_eq_ok prepared.prepared
  obtain ⟨response, rfl, parsed⟩ := prepared.drafted_iff.mp drafted
  cases concluded : engine.conclude payload executionContext evidence response with
  | error e => exact ⟨e, concluded⟩
  | ok result =>
    obtain ⟨ref, some⟩ := isSome_of_conclude parsed concluded cited
    rw [(get?_evidence_eq_none_iff found nonempty).mpr absent] at some
    cases some

end

/-- The citations of a result are those of the draft of the model, bound to the
references of the bundle; a draft that cites an id the bundle lacks has no result. -/
theorem research_bindsCitations {engine : ResearchEngine} {payload : JsonObject}
    {t : ResearchTrace} {r : Except PyException JsonObject}
    (run : Runs (engine.research payload) () t r ()) :
    (∀ result, r = .ok result → ∃ bundle draft,
      (∀ other, Supplied payload t.retrieved other ↔ other = bundle) ∧
      (∀ other, Drafted engine.platform t other ↔ other = draft) ∧
        BindsCitations engine.platform bundle draft result) ∧
    ∀ bundle draft, Supplied payload t.retrieved bundle → Drafted engine.platform t draft →
      ∀ evidenceId ∈ citedIds draft,
        (∀ ref ∈ listField (.obj bundle) "evidence_refs",
          evidenceKey engine.platform ref ≠ some evidenceId) → ∃ e, r = .error e := by
  rcases runs_research run with ⟨-, e, rfl⟩ |
    ⟨before, executionContext, bundle, model, evidence, reply, prepared, rfl, rfl⟩
  · refine ⟨nofun, ?_⟩
    intro bundle draft supplied drafted evidenceId cited absent
    exact ⟨e, rfl⟩
  refine ⟨?_, ?_⟩
  · intro result returned
    cases reply with
    | error e => cases returned
    | ok response =>
      obtain ⟨draft, only, binds⟩ := prepared.bindsCitations returned
      exact ⟨bundle, draft, fun other => prepared.supplied_iff, only, binds⟩
  · intro other draft supplied drafted evidenceId cited absent
    cases prepared.supplied_iff.mp supplied
    exact prepared.error_of_unknown drafted cited absent

/-! ### Two references, two findings, two recommendations -/

/-- The bundle of the example with these references. -/
def evidenceBundle (refs : List JsonObject) : JsonObject :=
  (policyBundle "tenant_research_001" "INTERNAL").set "evidence_refs" (.arr (refs.map Json.obj))

/-- The reference of the example, and another version of it under the same id. -/
def firstVersion : JsonObject := policyEvidence "tenant_research_001" "INTERNAL"

def secondVersion : JsonObject := firstVersion.set "source_version" (.str "2.0.0")

/-- A reference under an id of its own. -/
def otherReference : JsonObject :=
  (firstVersion.set "evidence_id" (.str "evidence_policy_002")).set "anchor" (.str "lines 2-2")

/-- Two findings that share a reference, and two recommendations, of which the first names
these findings. -/
def citingDraft (findingIds : List String) : Json :=
  .obj [("findings", .arr
      [.obj [("finding_id", .str "finding_policy_001"),
        ("statement", .str "The retention period is seven years."), ("confidence", .int 1),
        ("evidence_ids", strTuple ["evidence_policy_002", "evidence_policy_001"])],
      .obj [("finding_id", .str "finding_policy_002"),
        ("statement", .str "The policy names one period."), ("confidence", .int 1),
        ("evidence_ids", strTuple ["evidence_policy_002"])]]),
    ("recommendations", .arr
      [.obj [("recommendation_id", .str "recommendation_policy_001"),
        ("summary", .str "State the retention period."),
        ("recommended_action", .str "Add it to the backlog."), ("confidence", .int 1),
        ("finding_ids", strTuple findingIds),
        ("evidence_ids", strTuple ["evidence_policy_001"])],
      .obj [("recommendation_id", .str "recommendation_policy_002"),
        ("summary", .str "Review the policy."),
        ("recommended_action", .str "Ask its owner."), ("confidence", .int 1),
        ("finding_ids", strTuple ["finding_policy_002"])]])]

/-- The engine of the example, its model answering with this draft. -/
def draftEngine (draft : Json) : ResearchEngine :=
  { policyEngine with
    platform := { policyEngine.platform with validateJson := fun _ => some draft } }

def draftRun (draft : Json) : ResearchTrace × Except PyException JsonObject × Unit :=
  answeredRun (draftEngine draft) (policyRequest (evidenceBundle [firstVersion, otherReference]))

def draftResult (draft : Json) : JsonObject :=
  answeredResult (draftEngine draft)
    (policyRequest (evidenceBundle [firstVersion, otherReference]))

/-- The draft as the engine reads it, from whatever text. -/
def parsedDraft (draft : Json) : ResearchDraft :=
  (ResearchDraft.modelValidateJson (draftEngine draft).platform "").toOption.getD ⟨[], [], []⟩

theorem drafted_draftRun {draft : Json}
    (returned : (draftRun draft).2.1 = .ok (draftResult draft)) :
    Drafted (draftEngine draft).platform (draftRun draft).1 (parsedDraft draft) := by
  obtain ⟨before, executionContext, bundle, model, evidence, response, prepared, split,
    concluded⟩ := runs_research_ok (runs_answeredRun returned)
  obtain ⟨parsed, -, -, read, -⟩ := conclude_eq_ok concluded
  have any : ResearchDraft.modelValidateJson (draftEngine draft).platform "" = .ok parsed :=
    parseDraft_eq_ok_iff.mp read
  have same : parsedDraft draft = parsed := by
    rw [parsedDraft, any]
    rfl
  rw [draftRun, split, prepared.drafted_iff, same]
  exact ⟨response, rfl, read⟩

theorem research_bindsCitations_cited :
    (citedIds (parsedDraft (citingDraft ["finding_policy_001"]))).length = 4 ∧
      BindsCitations (draftEngine (citingDraft ["finding_policy_001"])).platform
        (evidenceBundle [firstVersion, otherReference])
        (parsedDraft (citingDraft ["finding_policy_001"]))
        (draftResult (citingDraft ["finding_policy_001"])) := by
  have returned : (draftRun (citingDraft ["finding_policy_001"])).2.1 =
      .ok (draftResult (citingDraft ["finding_policy_001"])) := by
    decide +kernel
  refine ⟨by decide +kernel, ?_⟩
  obtain ⟨bundle, draft, only, drafted, binds⟩ :=
    (research_bindsCitations (runs_answeredRun returned)).1 _ rfl
  cases (only (evidenceBundle [firstVersion, otherReference])).mp (.inl rfl)
  cases (drafted _).mp (drafted_draftRun returned)
  exact binds

/-! ## Keeping references -/

/-- The reference is among these under its own id, compared as Python's `in` does. -/
def Holds (platform : Platform) (refs : List Json) (ref : Json) : Prop :=
  ∃ kept ∈ refs, evidenceKey platform kept = evidenceKey platform ref ∧
    (kept = ref ∨ kept.pyEq ref = true)

theorem bundledRefs_of_conclude {engine : ResearchEngine}
    {payload executionContext result : JsonObject} {evidence : Dict Json}
    {response : ModelResponse}
    (concluded : engine.conclude payload executionContext evidence response = .ok result) :
    bundledRefs result = evidence.values := by
  obtain ⟨draft, findings, recommendations, -, -, -, built⟩ := conclude_eq_ok concluded
  exact (resultDocument_eq_ok built).2.2

/-- Every reference of a bundle is bound under some id, if not to itself. -/
theorem exists_lastUnder {platform : Platform} {bundle : JsonObject} {evidence : Dict Json}
    {ref : Json} (found : evidenceById platform bundle = .ok evidence) (nonempty : evidence ≠ [])
    (member : ref ∈ listField (.obj bundle) "evidence_refs") :
    ∃ key last, evidenceKey platform ref = some key ∧ LastUnder platform bundle key last := by
  obtain ⟨pairs, -, refs, keyed⟩ := evidence_eq_ofPairs found nonempty
  have inPairs := member
  rw [refs] at inPairs
  obtain ⟨pair, listed, rfl⟩ := List.mem_map.mp inPairs
  have own := keyed pair listed
  cases bound : evidence.get? pair.1 with
  | none => exact absurd own ((get?_evidence_eq_none_iff found nonempty).mp bound _ member)
  | some last => exact ⟨pair.1, last, own, (get?_evidence_eq_some_iff found nonempty).mp bound⟩

/-- A result keeps every reference of its bundle exactly when each of them is the last
with its id, or equal to the last. -/
theorem research_keepsReferences_iff {engine : ResearchEngine}
    {payload bundle result : JsonObject} {t : ResearchTrace}
    (run : Runs (engine.research payload) () t (.ok result) ())
    (supplied : Supplied payload t.retrieved bundle) :
    (∀ ref ∈ listField (.obj bundle) "evidence_refs",
        Holds engine.platform (bundledRefs result) ref) ↔
      ∀ ref ∈ listField (.obj bundle) "evidence_refs", ∀ key last,
        evidenceKey engine.platform ref = some key →
          LastUnder engine.platform bundle key last → last = ref ∨ last.pyEq ref = true := by
  obtain ⟨before, executionContext, bundle', model, evidence, response, prepared, rfl,
    concluded⟩ := runs_research_ok run
  obtain rfl := prepared.supplied_iff.mp supplied
  obtain ⟨found, nonempty, -⟩ := prepare_eq_ok prepared.prepared
  rw [bundledRefs_of_conclude concluded]
  refine ⟨?_, ?_⟩
  · intro keeps ref member key last own lastUnder
    obtain ⟨kept, value, sameKey, same⟩ := keeps ref member
    rw [mem_values_evidence_iff found nonempty, canonical_iff] at value
    obtain ⟨key', keptUnder⟩ := value
    -- what is kept under the id of the reference is the last reference with it
    obtain ⟨-, -, -, keptKey, -⟩ := id keptUnder
    cases (keptKey.symm.trans sameKey).trans own
    have bound := (get?_evidence_eq_some_iff found nonempty).mpr keptUnder
    cases bound.symm.trans ((get?_evidence_eq_some_iff found nonempty).mpr lastUnder)
    exact same
  · intro single ref member
    obtain ⟨key, last, own, lastUnder⟩ := exists_lastUnder found nonempty member
    obtain ⟨-, -, -, lastKey, -⟩ := id lastUnder
    refine ⟨last, ?_, lastKey.trans own.symm, single ref member key last own lastUnder⟩
    rw [mem_values_evidence_iff found nonempty, canonical_iff]
    exact ⟨key, lastUnder⟩

/-- A bundle with two ids, one of them on two equal references. -/
theorem research_keepsReferences_repeated :
    Holds policyEngine.platform
        (bundledRefs (policyResult (evidenceBundle [firstVersion, otherReference, firstVersion])))
        (.obj firstVersion) ∧
      Holds policyEngine.platform
        (bundledRefs (policyResult (evidenceBundle [firstVersion, otherReference, firstVersion])))
        (.obj otherReference) := by
  have returned : (policyRun (evidenceBundle [firstVersion, otherReference, firstVersion])).2.1 =
      .ok (policyResult (evidenceBundle [firstVersion, otherReference, firstVersion])) := by
    decide +kernel
  have identified : ∀ ref ∈ [firstVersion, otherReference, firstVersion].map Json.obj,
      ∀ last ∈ [firstVersion, otherReference, firstVersion].map Json.obj,
        evidenceKey policyEngine.platform last = evidenceKey policyEngine.platform ref →
          last = ref := by
    decide +kernel
  have keeps := (research_keepsReferences_iff (runs_policyRun returned) (.inl rfl)).mpr (by
    intro ref member key last own lastUnder
    obtain ⟨before, after, split, lastKey, -⟩ := lastUnder
    have among : last ∈ listField (.obj (evidenceBundle
        [firstVersion, otherReference, firstVersion])) "evidence_refs" := by
      rw [split]
      exact List.mem_append_right before List.mem_cons_self
    exact .inl (identified ref member last among (lastKey.trans own.symm)))
  refine ⟨keeps _ ?_, keeps _ ?_⟩
  · exact List.mem_cons_self
  · exact List.mem_cons_of_mem _ List.mem_cons_self

/-- The first of two versions under one id is lost. -/
theorem keepsReferences_counterexample :
    ¬ ∀ (engine : ResearchEngine) (payload bundle result : JsonObject) (t : ResearchTrace),
      Runs (engine.research payload) () t (.ok result) () → Supplied payload t.retrieved bundle →
        ∀ ref ∈ listField (.obj bundle) "evidence_refs",
          Holds engine.platform (bundledRefs result) ref := by
  intro keeps
  have returned : (policyRun (evidenceBundle [firstVersion, secondVersion])).2.1 =
      .ok (policyResult (evidenceBundle [firstVersion, secondVersion])) := by
    decide +kernel
  have refs : bundledRefs (policyResult (evidenceBundle [firstVersion, secondVersion])) =
      [.obj secondVersion] := by
    decide +kernel
  obtain ⟨kept, member, -, same⟩ := keeps _ _ _ _ _ (runs_policyRun returned) (.inl rfl)
    (.obj firstVersion) List.mem_cons_self
  rw [refs] at member
  cases List.mem_singleton.mp member
  revert same
  decide +kernel

/-! ## Linking findings -/

/-- The ids of the findings of a result. -/
def foundIds (result : JsonObject) : List (Option Json) :=
  (listField (.obj result) "findings").map fun document => field? document "finding_id"

/-- A finding that a recommendation of the result names is exactly one finding of it. -/
def LinksFindings (result : JsonObject) : Prop :=
  ∀ document ∈ listField (.obj result) "recommendations",
    ∀ findingId ∈ listField document "finding_ids", (foundIds result).count (some findingId) = 1

/-- A finding id that a recommendation of the draft cites occurs once among its findings. -/
def ClosedDraft (draft : ResearchDraft) : Prop :=
  ∀ item ∈ draft.recommendations, ∀ findingId ∈ item.findingIds,
    (draft.findings.map fun finding => finding.findingId).count findingId = 1

section

variable {platform : Platform} {bundle result : JsonObject} {draft : ResearchDraft}

theorem foundIds_eq (binds : BindsCitations platform bundle draft result) :
    foundIds result =
      (draft.findings.map fun finding => finding.findingId).map fun id => some (.str id) := by
  rw [foundIds, List.map_map, ← List.forall₂_eq_eq_eq, List.forall₂_map_left_iff,
    List.forall₂_map_right_iff]
  apply binds.findings.flip.imp
  intro document item described
  exact described.1 _ List.mem_cons_self

theorem count_foundIds (binds : BindsCitations platform bundle draft result) (findingId : String) :
    (foundIds result).count (some (.str findingId)) =
      (draft.findings.map fun finding => finding.findingId).count findingId := by
  have injective : Function.Injective fun id : String => some (Json.str id) := by
    intro a b same
    cases same
    rfl
  rw [foundIds_eq binds]
  exact List.count_map_of_injective _ _ injective findingId

theorem linksFindings_iff (binds : BindsCitations platform bundle draft result) :
    LinksFindings result ↔ ClosedDraft draft := by
  have named {item : RecommendationDraft} {document : Json}
      (carries : Carries (recommendationFields item) document) :
      listField document "finding_ids" = item.findingIds.map Json.str :=
    listField_eq (carries ("finding_ids", some (strTuple item.findingIds)) (by
      simp [recommendationFields]))
  refine ⟨?_, ?_⟩
  · intro links item listed findingId cited
    obtain ⟨document, member, carries, -⟩ := exists_right_of_forall₂ binds.recommendations listed
    rw [← count_foundIds binds]
    apply links document member
    rw [named carries]
    exact List.mem_map_of_mem cited
  · intro closed document member findingId cited
    obtain ⟨item, listed, carries, -⟩ := exists_left_of_forall₂ binds.recommendations member
    rw [named carries] at cited
    obtain ⟨id, inDraft, rfl⟩ := List.mem_map.mp cited
    rw [count_foundIds binds]
    exact closed item listed id inDraft

end

/-- The recommendations of a result name findings of it, each exactly one, if and only if
the recommendations of the draft do. -/
theorem research_linksFindings_iff {engine : ResearchEngine} {payload result : JsonObject}
    {t : ResearchTrace} {draft : ResearchDraft}
    (run : Runs (engine.research payload) () t (.ok result) ())
    (drafted : Drafted engine.platform t draft) :
    LinksFindings result ↔ ClosedDraft draft := by
  obtain ⟨before, executionContext, bundle, model, evidence, response, prepared, rfl,
    concluded⟩ := runs_research_ok run
  obtain ⟨_, only, binds⟩ := prepared.bindsCitations concluded
  cases (only draft).mp drafted
  exact linksFindings_iff binds

/-- The two recommendations name both findings, one of them twice. -/
theorem research_linksFindings_citing :
    LinksFindings (draftResult (citingDraft ["finding_policy_001", "finding_policy_002"])) := by
  have returned : (draftRun (citingDraft ["finding_policy_001", "finding_policy_002"])).2.1 =
      .ok (draftResult (citingDraft ["finding_policy_001", "finding_policy_002"])) := by
    decide +kernel
  apply (research_linksFindings_iff (runs_answeredRun returned) (drafted_draftRun returned)).mpr
  unfold ClosedDraft
  decide +kernel

/-- A recommendation is returned that names a finding nobody made. -/
theorem linksFindings_counterexample :
    ¬ ∀ (engine : ResearchEngine) (payload result : JsonObject) (t : ResearchTrace),
      Runs (engine.research payload) () t (.ok result) () → LinksFindings result := by
  intro links
  have returned : (draftRun (citingDraft ["finding_other_003"])).2.1 =
      .ok (draftResult (citingDraft ["finding_other_003"])) := by
    decide +kernel
  have linked := links _ _ _ _ (runs_answeredRun returned)
  unfold LinksFindings at linked
  revert linked
  decide +kernel

end ResearchEngine

end Genesis

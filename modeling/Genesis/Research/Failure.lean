import Genesis.Context.FailClosed
import Genesis.Research.Engine

/-!
# Why a research raises

The engine raises value errors of its own, passes on what its ports reply with,
and indexes documents that a schema has accepted.  `ShapedRequest` and
`ShapedBundle` are the values it expects there, so where the schemas require them
nothing else can be raised (`reason_of_runs`).
-/

namespace Genesis

open Py Session

namespace ResearchEngine

/-- The values the engine reads off an execution context. -/
def CONTEXT_FIELDS : List String :=
  ["tenant_id", "organization_id", "workspace_id", "actor_id", "correlation_id",
    "data_classification"]

/-- The values the engine reads off a request. -/
structure ShapedRequest (payload : JsonObject) : Prop where
  fields : ∀ field ∈ ["run_id", "question", "correlation_id", "research_id"],
    (payload.get? field).isSome = true
  context : ∃ context : JsonObject, payload.get? "execution_context" = some (.obj context) ∧
    ∀ field ∈ CONTEXT_FIELDS, (context.get? field).isSome = true

/-- The values the engine reads off a bundle. -/
structure ShapedBundle (bundle : JsonObject) : Prop where
  fields : ∀ field ∈ ["tenant_id", "organization_id", "workspace_id", "actor_id",
    "correlation_id"], (bundle.get? field).isSome = true
  evidence : ∃ refs, ((bundle.get? "evidence_refs").getD (.arr [])).iterate? = some refs ∧
    ∀ ref ∈ refs, ∃ fields : JsonObject, ref = .obj fields ∧
      (fields.get? "evidence_id").isSome = true

/-- The schema accepts a bundle that lacks a value the engine reads. -/
def AcceptsUnshaped (contracts : CanonicalContractCatalog) : Prop :=
  ∃ bundle, contracts.validate CONTEXT_BUNDLE_SCHEMA bundle = .ok bundle ∧ ¬ ShapedBundle bundle

section

variable {engine : ResearchEngine} {platform : Platform}
  {payload context executionContext bundle : JsonObject} {evidence : Dict Json}

theorem item_raisesOnly_of_mem {P : PyException → Prop} {d : JsonObject} {key : String}
    {fields : List String} (present : ∀ field ∈ fields, (d.get? field).isSome = true)
    (listed : key ∈ fields) : RaisesOnly P (item d key) := by
  obtain ⟨value, found⟩ := Option.isSome_iff_exists.mp (present key listed)
  rw [item_eq_ok_iff.mpr found]
  exact .ok value

theorem ShapedRequest.executionContext_eq_ok (shaped : ShapedRequest payload) :
    ∃ context, ResearchEngine.executionContext payload = .ok context ∧
      ∀ field ∈ CONTEXT_FIELDS, (context.get? field).isSome = true := by
  obtain ⟨context, found, fields⟩ := shaped.context
  refine ⟨context, ?_, fields⟩
  unfold ResearchEngine.executionContext
  rw [item_eq_ok_iff.mpr found]
  rfl

/-! ## Before the gateway -/

theorem validateContextIdentity_raisesOnly (shaped : ShapedBundle bundle)
    (fields : ∀ field ∈ CONTEXT_FIELDS, (context.get? field).isSome = true) :
    RaisesOnly IsValueError (validateContextIdentity bundle context) := by
  refine RaisesOnly.forM fun field listed => ?_
  refine (item_raisesOnly_of_mem shaped.fields listed).bind fun _ _ => ?_
  have known : field ∈ CONTEXT_FIELDS := List.mem_append_left ["data_classification"] listed
  exact (item_raisesOnly_of_mem fields known).bind fun _ _ => raiseUnless_raisesOnly rfl

theorem evidenceById_raisesOnly (shaped : ShapedBundle bundle) :
    RaisesOnly IsValueError (evidenceById platform bundle) := by
  obtain ⟨refs, iterated, each⟩ := shaped.evidence
  unfold evidenceById evidencePairs
  rw [iterated]
  refine RaisesOnly.bind (RaisesOnly.mapM fun ref member => ?_) fun _ _ => .ok _
  obtain ⟨fields, rfl, identified⟩ := each ref member
  obtain ⟨id, found⟩ := Option.isSome_iff_exists.mp identified
  unfold evidencePair
  rw [subscript_eq_ok_iff.mpr ⟨fields, rfl, found⟩]
  exact .ok _

theorem modelRequest_raisesOnly (shaped : ShapedRequest payload)
    (fields : ∀ field ∈ CONTEXT_FIELDS, (context.get? field).isSome = true) :
    RaisesOnly IsValueError (modelRequest platform payload context bundle) := by
  unfold modelRequest
  refine RaisesOnly.bind (item_raisesOnly_of_mem shaped.fields (by decide)) fun _ _ => ?_
  refine RaisesOnly.bind (item_raisesOnly_of_mem shaped.fields (by decide)) fun _ _ => ?_
  refine RaisesOnly.bind (item_raisesOnly_of_mem shaped.fields (by decide)) fun _ _ => ?_
  refine RaisesOnly.bind (item_raisesOnly_of_mem fields (by decide)) fun _ _ => ?_
  refine RaisesOnly.bind (construct_raisesOnly rfl) fun _ _ => ?_
  unfold ModelRequest.ofFields
  split
  · exact RaisesOnly.error_iff.mpr rfl
  · exact construct_raisesOnly rfl

/-- Of a bundle that lacks nothing, the preparation raises value errors only. -/
theorem prepare_raisesOnly {context : Json} (shaped : ShapedRequest payload)
    (fields : ∀ field ∈ CONTEXT_FIELDS, (executionContext.get? field).isSome = true) :
    RaisesOnly (fun exc => IsValueError exc ∨ AcceptsUnshaped engine.contracts)
      (engine.prepare payload executionContext context) := by
  unfold prepare
  refine RaisesOnly.bind (raiseUnless_raisesOnly (.inl rfl)) fun _ isDict => ?_
  obtain ⟨bundle, dict⟩ := Option.isSome_iff_exists.mp (raiseUnless_eq_ok_iff.mp isDict)
  rw [asDict_eq_ok_iff.mpr (Json.dict?_eq_some_iff.mp dict)]
  refine RaisesOnly.bind (.ok bundle) fun _ same => ?_
  cases same
  refine RaisesOnly.bind (CanonicalContractCatalog.validate_raisesOnly.mono fun _ => .inl)
    fun validated valid => ?_
  cases CanonicalContractCatalog.eq_of_validate valid
  by_cases lacking : ShapedBundle bundle
  · refine RaisesOnly.mono ?_ fun _ => .inl
    refine (validateContextIdentity_raisesOnly lacking fields).bind fun _ _ => ?_
    refine (evidenceById_raisesOnly lacking).bind fun _ _ => ?_
    refine RaisesOnly.bind (raiseUnless_raisesOnly rfl) fun _ _ => ?_
    exact (modelRequest_raisesOnly shaped fields).bind fun _ _ => .ok _
  · exact fun _ _ => .inr ⟨bundle, valid, lacking⟩

/-! ## After the gateway -/

theorem readField_raisesOnly {α : Type} {read : Json → Option α} {model key : String}
    {raw : JsonObject} {default : Option α} :
    RaisesOnly IsValueError (readField read model raw key default) := by
  unfold readField
  split
  · exact .ok _
  · split
    · exact .ok _
    · exact RaisesOnly.error_iff.mpr rfl
  · exact RaisesOnly.error_iff.mpr rfl

theorem modelsField_raisesOnly {α : Type} {validate : JsonObject → Except PyException α}
    {model key : String} {raw : JsonObject}
    (each : ∀ fields, RaisesOnly IsValueError (validate fields)) :
    RaisesOnly IsValueError (modelsField validate model raw key) := by
  unfold modelsField
  split
  · refine RaisesOnly.mapM fun value _ => ?_
    split
    · exact each _
    · exact RaisesOnly.error_iff.mpr rfl
  · exact RaisesOnly.error_iff.mpr rfl

theorem findingDraft_raisesOnly {raw : JsonObject} :
    RaisesOnly IsValueError (FindingDraft.modelValidate platform raw) := by
  unfold FindingDraft.modelValidate
  refine forbidExtra_raisesOnly.bind fun _ _ => ?_
  refine strField_raisesOnly.bind fun _ _ => ?_
  iterate 3 refine readField_raisesOnly.bind fun _ _ => ?_
  refine strField_raisesOnly.bind fun _ _ => ?_
  iterate 2 refine readField_raisesOnly.bind fun _ _ => ?_
  iterate 2 refine strTupleField_raisesOnly.bind fun _ _ => ?_
  exact construct_raisesOnly rfl

theorem recommendationDraft_raisesOnly {raw : JsonObject} :
    RaisesOnly IsValueError (RecommendationDraft.modelValidate platform raw) := by
  unfold RecommendationDraft.modelValidate
  refine forbidExtra_raisesOnly.bind fun _ _ => ?_
  iterate 3 refine strField_raisesOnly.bind fun _ _ => ?_
  refine readField_raisesOnly.bind fun _ _ => ?_
  iterate 3 refine strTupleField_raisesOnly.bind fun _ _ => ?_
  refine readField_raisesOnly.bind fun _ _ => ?_
  exact construct_raisesOnly rfl

theorem parseDraft_raisesOnly {response : ModelResponse} :
    RaisesOnly IsValueError (parseDraft platform response) := by
  have validated :
      RaisesOnly IsValueError (ResearchDraft.modelValidateJson platform response.content) := by
    unfold ResearchDraft.modelValidateJson
    split
    · refine forbidExtra_raisesOnly.bind fun _ _ => ?_
      refine (modelsField_raisesOnly fun _ => findingDraft_raisesOnly).bind fun _ _ => ?_
      refine (modelsField_raisesOnly fun _ => recommendationDraft_raisesOnly).bind fun _ _ => ?_
      exact strTupleField_raisesOnly.bind fun _ _ => .ok _
    · exact RaisesOnly.error_iff.mpr rfl
  unfold parseDraft
  split
  · exact RaisesOnly.error_iff.mpr rfl
  · exact validated

/-- References that are all known are found. -/
theorem references_raisesOnly {evidenceIds : List String} :
    RaisesOnly IsValueError (references evidenceIds evidence) := by
  unfold references
  refine RaisesOnly.bind (raiseUnless_raisesOnly rfl) fun _ known => ?_
  rw [raiseUnless_eq_ok_iff, List.filter_eq_nil_iff] at known
  refine RaisesOnly.mapM fun evidenceId member => ?_
  have present : (evidence.get? evidenceId).isSome = true := by
    simpa [Option.isSome_iff_ne_none] using known evidenceId member
  obtain ⟨value, found⟩ := Option.isSome_iff_exists.mp present
  rw [item_eq_ok_iff.mpr found]
  exact .ok value

theorem resultDocument_raisesOnly {findings recommendations : List JsonObject}
    {evidenceRefs : List Json} {limitations : List String} (shaped : ShapedRequest payload)
    (fields : ∀ field ∈ CONTEXT_FIELDS, (context.get? field).isSome = true) :
    RaisesOnly IsValueError (engine.resultDocument payload context findings recommendations
      evidenceRefs limitations) := by
  unfold resultDocument
  iterate 2
    refine RaisesOnly.bind (item_raisesOnly_of_mem shaped.fields (by decide)) fun _ _ => ?_
  iterate 3 refine RaisesOnly.bind (item_raisesOnly_of_mem fields (by decide)) fun _ _ => ?_
  exact RaisesOnly.bind (item_raisesOnly_of_mem shaped.fields (by decide)) fun _ _ => .ok _

theorem conclude_raisesOnly {response : ModelResponse} (shaped : ShapedRequest payload)
    (fields : ∀ field ∈ CONTEXT_FIELDS, (context.get? field).isSome = true) :
    RaisesOnly IsValueError (engine.conclude payload context evidence response) := by
  unfold conclude
  refine parseDraft_raisesOnly.bind fun _ _ => ?_
  refine RaisesOnly.bind (RaisesOnly.mapM fun _ _ => ?_) fun _ _ => ?_
  · exact references_raisesOnly.bind fun _ _ => .ok _
  refine RaisesOnly.bind (RaisesOnly.mapM fun _ _ => ?_) fun _ _ => ?_
  · exact references_raisesOnly.bind fun _ _ => .ok _
  refine (resultDocument_raisesOnly shaped fields).bind fun _ _ => ?_
  exact CanonicalContractCatalog.validate_raisesOnly

/-! ## Runs -/

/-- Why a run raises: it is a value error, a port replied with it, or a schema accepts
a document without a value that the engine reads. -/
inductive Reason (engine : ResearchEngine) (payload : JsonObject) (t : ResearchTrace)
    (exc : PyException) : Prop
  | value (kind : IsValueError exc)
  | retrieval {runId query : String} {context : JsonObject}
    (found : payload.get? "execution_context" = some (.obj context))
    (fields : ∀ field ∈ CONTEXT_FIELDS, (context.get? field).isSome = true)
    (member : ⟨.retrieve runId query context, .error exc⟩ ∈ t)
  | gateway {model : ModelRequest} (member : ⟨.complete model, .error exc⟩ ∈ t)
  | request (accepted : engine.contracts.validate RESEARCH_REQUEST_SCHEMA payload = .ok payload)
    (lacking : ¬ ShapedRequest payload)
  | bundle (accepted : AcceptsUnshaped engine.contracts)

variable {t : ResearchTrace}

/-- Of a request that lacks nothing, acquiring a context raises value errors and passes on
what the provider raises. -/
theorem reason_of_acquire {exc : PyException} (shaped : ShapedRequest payload)
    (found : ResearchEngine.executionContext payload = .ok executionContext)
    (fields : ∀ field ∈ CONTEXT_FIELDS, (executionContext.get? field).isSome = true)
    (run : Runs (engine.acquire payload executionContext) () t (.error exc) ()) :
    Reason engine payload t exc := by
  have retrieving (run : Runs (engine.retrieve payload executionContext) () t (.error exc) ()) :
      Reason engine payload t exc := by
    unfold retrieve at run
    split at run
    · rcases runs_compute_bind.mp run with ⟨e, raised, -⟩ | ⟨runId, -, asking⟩
      · exact absurd raised fun raised =>
          item_raisesOnly_of_mem (P := fun _ => False) shaped.fields (by decide) e raised
      rcases runs_compute_bind.mp asking with ⟨e, raised, -⟩ | ⟨question, -, awaiting⟩
      · exact absurd raised fun raised =>
          item_raisesOnly_of_mem (P := fun _ => False) shaped.fields (by decide) e raised
      obtain ⟨rfl, -⟩ := runs_await.mp awaiting
      exact .retrieval (executionContext_eq_ok found) fields List.mem_cons_self
    · obtain ⟨-, raised, -⟩ := runs_compute.mp run
      cases raised
      exact .value rfl
  unfold acquire at run
  split at run
  · exact retrieving run
  · exact retrieving run
  · cases (runs_compute.mp run).2.1

theorem reason_of_runs {exc : PyException}
    (run : Runs (engine.research payload) () t (.error exc) ()) :
    Reason engine payload t exc := by
  rcases runs_compute_bind.mp run with ⟨e, invalid, -, raised, -⟩ | ⟨request, valid, body⟩
  · cases raised
    exact .value (CanonicalContractCatalog.validate_raisesOnly _ invalid)
  cases CanonicalContractCatalog.eq_of_validate valid
  by_cases shaped : ShapedRequest payload
  swap
  · exact .request valid shaped
  obtain ⟨context, found, fields⟩ := shaped.executionContext_eq_ok
  rcases runs_compute_bind.mp body with ⟨e, raised, -⟩ | ⟨executionContext, same, acquiring⟩
  · cases found.symm.trans raised
  cases found.symm.trans same
  rcases runs_bind.mp acquiring with ⟨e, raised, head⟩ | ⟨acquired, s, t₁, t₂, rfl, head, rest⟩
  · cases raised
    exact reason_of_acquire shaped found fields head
  rcases runs_compute_bind.mp rest with ⟨e, unprepared, -, raised, -⟩ | ⟨prepared, built, asking⟩
  · cases raised
    rcases prepare_raisesOnly shaped fields _ unprepared with kind | accepted
    · exact .value kind
    · exact .bundle accepted
  rcases runs_await_bind.mp asking with ⟨e, rfl, raised, -⟩ | ⟨response, t₃, rfl, ending⟩
  · cases raised
    exact .gateway (List.mem_append_right t₁ List.mem_cons_self)
  · obtain ⟨-, raised, -⟩ := runs_compute.mp ending
    exact .value (conclude_raisesOnly shaped fields exc raised.symm)

end

end ResearchEngine

end Genesis

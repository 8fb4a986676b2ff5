import Genesis.Skills.Models

/-!
# Skill evaluation

`SkillEvaluator.evaluate_result` turns a skill result into five checks and passes
it if all of them pass.  The last one, on limitations, adds nothing to the first
four (`passed_iff`).  An entry of `evidence_refs` that names no id is dropped
before the evidence is checked, so the checks say that the result is fully
authorized exactly when no entry is dropped or one of them fails anyway
(`passed_meansAuthorized_iff`).
-/

namespace Genesis

open Py

/-! ## Models -/

inductive EvaluationOutcome : Type
  | pass
  | fail
  deriving DecidableEq

structure EvaluationCheck where
  checkId : String
  outcome : EvaluationOutcome
  reason : String
  reason_nonempty : 1 ≤ reason.length

structure SkillEvaluation where
  passed : Bool
  checks : List EvaluationCheck
  declaredCriteria : List String

/-- An item of `evidence_refs`. -/
inductive EvidenceItem : Type
  | text (id : String)
  | mapping (fields : JsonObject)

/-- The arguments of `evaluate_result` next to the specification. -/
structure ResultArguments where
  output : JsonObject
  evidenceRefs : List EvidenceItem
  suppliedEvidenceIds : List String
  usedToolIds : List String
  authorizedToolIds : List String
  limitations : List String := []

structure SkillEvaluator where
  platform : Platform
  contracts : CanonicalContractCatalog

namespace SkillEvaluator

/-! ## The checks -/

/-- `_check`. -/
def check (checkId : String) (passed : Bool) (reason : String)
    (reason_nonempty : 1 ≤ reason.length) : EvaluationCheck where
  checkId
  outcome := if passed then .pass else .fail
  reason
  reason_nonempty

/-- A text in front of which something stands. -/
theorem one_le_length_append {head : String} (nonempty : 1 ≤ head.length) (tail : String) :
    1 ≤ (head ++ tail).length := by
  rw [String.length_append]
  exact nonempty.trans (Nat.le_add_right _ _)

/-- A check with one reason if it passes and another if it fails. -/
def checkEither (checkId : String) (passed : Bool) (whenPassed whenFailed : String)
    (whenPassed_nonempty : 1 ≤ whenPassed.length) (whenFailed_nonempty : 1 ≤ whenFailed.length) :
    EvaluationCheck :=
  check checkId passed (if passed then whenPassed else whenFailed) (by
    split
    · exact whenPassed_nonempty
    · exact whenFailed_nonempty)

/-- Validation of the output; what the handler does not catch is raised. -/
def outputContract (evaluator : SkillEvaluator) (specification : SkillDefinition)
    (output : JsonObject) : Except PyException EvaluationCheck :=
  match evaluator.contracts.validate specification.outputSchemaRef output with
  | .ok _ =>
    .ok (check "skill.output_contract" true "Output satisfies its canonical schema." (by decide))
  | .error e =>
    if e.isValueError then
      .ok (check "skill.output_contract" false
        ("Output contract failed: " ++ evaluator.platform.strOfException e)
        (one_le_length_append (by decide) _))
    else .error e

/-- `item if isinstance(item, str) else str(item.get("evidence_id", ""))`. -/
def citedText (platform : Platform) : EvidenceItem → String
  | .text id => id
  | .mapping fields => platform.str ((fields.get? "evidence_id").getD (.str ""))

/-- `cited` without the empty text, as a list. -/
def cited (evaluator : SkillEvaluator) (refs : List EvidenceItem) : List String :=
  (refs.map (citedText evaluator.platform)).filter fun id => id ≠ ""

def requiredEvidencePresent (evidencePresent : Bool) : EvaluationCheck :=
  checkEither "skill.required_evidence_present" evidencePresent
    "Required evidence references are present."
    "The result omits evidence required by the skill." (by decide) (by decide)

def evidenceRefsAuthorized (unknown : List String) : EvaluationCheck :=
  checkEither "skill.evidence_refs_authorized" (unknown = [])
    "All cited evidence came from the supplied authorized evidence set."
    ("Unknown evidence references: " ++ (join ", " unknown ++ ".")) (by decide)
    (one_le_length_append (by decide) _)

def toolUsageAuthorized (unsupportedTools : List String) : EvaluationCheck :=
  checkEither "skill.tool_usage_authorized" (unsupportedTools = [])
    "All reported tool usage is within the effective allowlist."
    ("Unsupported tool usage: " ++ (join ", " unsupportedTools ++ ".")) (by decide)
    (one_le_length_append (by decide) _)

def limitationsExplicit (requirementsMet : Bool) (limitations : List String) : EvaluationCheck :=
  check "skill.failure_or_limitations_explicit" (requirementsMet || limitations ≠ [])
    (if requirementsMet then "No unmet platform requirement requires a limitation."
      else "Unmet requirements must produce an explicit limitation or failure state.") (by
    split
    · decide
    · decide)

/-- The checks after that of the output, and the verdict. -/
def evaluation (evaluator : SkillEvaluator) (specification : SkillDefinition)
    (arguments : ResultArguments) (contract : EvaluationCheck) : SkillEvaluation :=
  let cited := evaluator.cited arguments.evidenceRefs
  let evidencePresent : Bool := specification.evidenceRequirements = [] ∨ cited ≠ []
  let unknown := excess cited arguments.suppliedEvidenceIds
  let unsupportedTools := excess arguments.usedToolIds arguments.authorizedToolIds
  let requirementsMet : Bool := evidencePresent ∧ unknown = [] ∧ unsupportedTools = []
  let checks := [contract, requiredEvidencePresent evidencePresent,
    evidenceRefsAuthorized unknown, toolUsageAuthorized unsupportedTools,
    limitationsExplicit requirementsMet arguments.limitations]
  { passed := checks.all fun item => item.outcome = .pass
    checks
    declaredCriteria := specification.evaluation }

/-- `evaluate_result`. -/
def evaluateResult (evaluator : SkillEvaluator) (specification : SkillDefinition)
    (arguments : ResultArguments) : Except PyException SkillEvaluation := do
  let contract ← evaluator.outputContract specification arguments.output
  pure (evaluator.evaluation specification arguments contract)

/-! ## What the checks decide -/

/-- The id an entry names, if it names one. -/
def citedId? (evaluator : SkillEvaluator) (item : EvidenceItem) : Option String :=
  let id := citedText evaluator.platform item
  if id = "" then none else some id

/-- The output satisfies its contract. -/
def SatisfiesContract (evaluator : SkillEvaluator) (specification : SkillDefinition)
    (arguments : ResultArguments) : Prop :=
  evaluator.contracts.validate specification.outputSchemaRef arguments.output =
    .ok arguments.output

/-- What the first four checks establish. -/
structure Passes (evaluator : SkillEvaluator) (specification : SkillDefinition)
    (arguments : ResultArguments) : Prop where
  contract : evaluator.SatisfiesContract specification arguments
  known : ∀ item ∈ arguments.evidenceRefs, ∀ id, evaluator.citedId? item = some id →
    id ∈ arguments.suppliedEvidenceIds
  present : specification.evidenceRequirements = [] ∨
    ∃ item ∈ arguments.evidenceRefs, ∃ id, evaluator.citedId? item = some id
  tools : arguments.usedToolIds ⊆ arguments.authorizedToolIds

section

variable {evaluator : SkillEvaluator} {specification : SkillDefinition}
  {arguments : ResultArguments}

theorem citedId?_eq_some_iff {item : EvidenceItem} {id : String} :
    evaluator.citedId? item = some id ↔ id ≠ "" ∧ citedText evaluator.platform item = id := by
  unfold citedId?
  dsimp only
  split
  next empty =>
    refine ⟨nofun, ?_⟩
    intro h
    exact absurd (h.2.symm.trans empty) h.1
  next named =>
    rw [Option.some.injEq]
    refine ⟨?_, And.right⟩
    intro same
    exact ⟨same ▸ named, same⟩

theorem mem_cited_iff {refs : List EvidenceItem} {id : String} :
    id ∈ evaluator.cited refs ↔ ∃ item ∈ refs, evaluator.citedId? item = some id := by
  simp only [cited, List.mem_filter, List.mem_map, decide_eq_true_eq, citedId?_eq_some_iff]
  refine ⟨?_, ?_⟩
  · intro h
    obtain ⟨⟨item, member, same⟩, named⟩ := h
    exact ⟨item, member, named, same⟩
  · intro h
    obtain ⟨item, member, named, same⟩ := h
    exact ⟨⟨item, member, same⟩, named⟩

@[simp] theorem check_outcome {checkId reason : String} {passed : Bool}
    {nonempty : 1 ≤ reason.length} :
    (check checkId passed reason nonempty).outcome = .pass ↔ passed = true := by
  cases passed with
  | true => exact ⟨fun _ => rfl, fun _ => rfl⟩
  | false => exact ⟨nofun, nofun⟩

/-- The output check is never left out: validation raises only what the handler catches. -/
theorem exists_outputContract : ∃ contract,
    evaluator.outputContract specification arguments.output = .ok contract ∧
      (contract.outcome = .pass ↔ evaluator.SatisfiesContract specification arguments) := by
  unfold outputContract SatisfiesContract
  cases validated :
      evaluator.contracts.validate specification.outputSchemaRef arguments.output with
  | ok result =>
    rw [CanonicalContractCatalog.eq_of_validate validated]
    exact ⟨_, rfl, by simp⟩
  | error e =>
    have caught : e.isValueError = true :=
      CanonicalContractCatalog.validate_raisesOnly e validated
    dsimp only
    rw [if_pos caught]
    exact ⟨_, rfl, by simp⟩

/-- The check on limitations passes where the others do. -/
theorem evaluation_passed_iff {contract : EvaluationCheck} :
    (evaluator.evaluation specification arguments contract).passed = true ↔
      contract.outcome = .pass ∧
        (specification.evidenceRequirements = [] ∨ evaluator.cited arguments.evidenceRefs ≠ []) ∧
        evaluator.cited arguments.evidenceRefs ⊆ arguments.suppliedEvidenceIds ∧
        arguments.usedToolIds ⊆ arguments.authorizedToolIds := by
  simp only [evaluation, List.all_cons, List.all_nil, Bool.and_true, Bool.and_eq_true,
    decide_eq_true_eq, requiredEvidencePresent, evidenceRefsAuthorized, toolUsageAuthorized,
    limitationsExplicit, checkEither, check_outcome, excess_eq_nil_iff, Bool.or_eq_true]
  refine ⟨?_, ?_⟩
  · intro h
    exact ⟨h.1, h.2.1, h.2.2.1, h.2.2.2.1⟩
  · intro h
    exact ⟨h.1, h.2.1, h.2.2.1, h.2.2.2, .inl h.2⟩

variable (evaluator specification arguments) in
/-- An evaluation is passed by its first four checks, whatever the limitations. -/
theorem passed_iff : ∃ evaluation, evaluator.evaluateResult specification arguments =
    .ok evaluation ∧ (evaluation.passed = true ↔ evaluator.Passes specification arguments) := by
  obtain ⟨contract, checked, contract_iff⟩ : ∃ contract,
      evaluator.outputContract specification arguments.output = .ok contract ∧
        (contract.outcome = .pass ↔ evaluator.SatisfiesContract specification arguments) :=
    exists_outputContract
  refine ⟨evaluator.evaluation specification arguments contract, ?_, ?_⟩
  · rw [evaluateResult, checked]
    rfl
  · rw [evaluation_passed_iff, contract_iff]
    have present_iff : evaluator.cited arguments.evidenceRefs ≠ [] ↔
        ∃ item ∈ arguments.evidenceRefs, ∃ id, evaluator.citedId? item = some id := by
      refine ⟨?_, ?_⟩
      · intro nonempty
        obtain ⟨id, member⟩ := List.exists_mem_of_ne_nil _ nonempty
        obtain ⟨item, inRefs, named⟩ := mem_cited_iff.mp member
        exact ⟨item, inRefs, id, named⟩
      · intro h
        obtain ⟨item, inRefs, id, named⟩ := h
        exact List.ne_nil_of_mem (mem_cited_iff.mpr ⟨item, inRefs, named⟩)
    rw [present_iff]
    refine ⟨?_, ?_⟩
    · intro h
      obtain ⟨satisfies, present, known, tools⟩ := h
      refine ⟨satisfies, ?_, present, tools⟩
      intro item member id named
      exact known (mem_cited_iff.mpr ⟨item, member, named⟩)
    · intro passes
      refine ⟨passes.contract, passes.present, ?_, passes.tools⟩
      intro id member
      obtain ⟨item, inRefs, named⟩ := mem_cited_iff.mp member
      exact passes.known item inRefs id named

end

/-! ## Full authorization -/

/-- The output satisfies its contract, every entry names a supplied id, evidence is
there where it is required, and every tool is authorized. -/
structure FullyAuthorized (evaluator : SkillEvaluator) (specification : SkillDefinition)
    (arguments : ResultArguments) : Prop where
  contract : evaluator.SatisfiesContract specification arguments
  evidence : ∀ item ∈ arguments.evidenceRefs, ∃ id, evaluator.citedId? item = some id ∧
    id ∈ arguments.suppliedEvidenceIds
  required : specification.evidenceRequirements ≠ [] → arguments.evidenceRefs ≠ []
  tools : ∀ tool ∈ arguments.usedToolIds, tool ∈ arguments.authorizedToolIds

/-- No entry slips through without an id: each names one, or something else is wrong. -/
inductive NoneSlips (evaluator : SkillEvaluator) (specification : SkillDefinition)
    (arguments : ResultArguments) : Prop
  | usable : (∀ item ∈ arguments.evidenceRefs, ∃ id, evaluator.citedId? item = some id) →
    NoneSlips evaluator specification arguments
  | violated : ¬ evaluator.SatisfiesContract specification arguments →
    NoneSlips evaluator specification arguments
  | unknown (item : EvidenceItem) (id : String) : item ∈ arguments.evidenceRefs →
    evaluator.citedId? item = some id → id ∉ arguments.suppliedEvidenceIds →
      NoneSlips evaluator specification arguments
  | missing : specification.evidenceRequirements ≠ [] →
    (∀ item ∈ arguments.evidenceRefs, evaluator.citedId? item = none) →
      NoneSlips evaluator specification arguments
  | unsupported (tool : String) : tool ∈ arguments.usedToolIds →
    tool ∉ arguments.authorizedToolIds → NoneSlips evaluator specification arguments

section

variable {evaluator : SkillEvaluator} {specification : SkillDefinition}
  {arguments : ResultArguments}

theorem FullyAuthorized.passes
    (authorized : evaluator.FullyAuthorized specification arguments) :
    evaluator.Passes specification arguments := by
  refine ⟨authorized.contract, ?_, ?_, authorized.tools⟩
  · intro item member id named
    obtain ⟨other, same, supplied⟩ := authorized.evidence item member
    cases named.symm.trans same
    exact supplied
  · by_cases demanded : specification.evidenceRequirements = []
    · exact .inl demanded
    · obtain ⟨item, member⟩ := List.exists_mem_of_ne_nil _ (authorized.required demanded)
      obtain ⟨id, named, -⟩ := authorized.evidence item member
      exact .inr ⟨item, member, id, named⟩

/-- What passes is fully authorized, if every entry names an id. -/
theorem Passes.fullyAuthorized (passes : evaluator.Passes specification arguments)
    (usable : ∀ item ∈ arguments.evidenceRefs, ∃ id, evaluator.citedId? item = some id) :
    evaluator.FullyAuthorized specification arguments := by
  refine ⟨passes.contract, ?_, ?_, passes.tools⟩
  · intro item member
    obtain ⟨id, named⟩ := usable item member
    exact ⟨id, named, passes.known item member id named⟩
  · intro demanded
    rcases passes.present with none | ⟨item, member, -⟩
    · exact absurd none demanded
    · exact List.ne_nil_of_mem member

/-- What is wrong with a result that does not pass. -/
theorem noneSlips_of_not_passes (fails : ¬ evaluator.Passes specification arguments) :
    evaluator.NoneSlips specification arguments := by
  by_contra slips
  refine fails ⟨?_, ?_, ?_, ?_⟩
  · by_contra violated
    exact slips (.violated violated)
  · intro item member id named
    by_contra unknown
    exact slips (.unknown item id member named unknown)
  · by_contra absent
    rw [not_or] at absent
    refine slips (.missing absent.1 ?_)
    intro item member
    rw [Option.eq_none_iff_forall_ne_some]
    intro id named
    exact absent.2 ⟨item, member, id, named⟩
  · intro tool used
    by_contra unsupported
    exact slips (.unsupported tool used unsupported)

theorem Passes.usable (passes : evaluator.Passes specification arguments)
    (noneSlips : evaluator.NoneSlips specification arguments) :
    ∀ item ∈ arguments.evidenceRefs, ∃ id, evaluator.citedId? item = some id := by
  cases noneSlips with
  | usable usable => exact usable
  | violated violated => exact absurd passes.contract violated
  | unknown item id member named unknown => exact absurd (passes.known item member id named) unknown
  | missing demanded unnamed =>
    rcases passes.present with none | ⟨item, member, id, named⟩
    · exact absurd none demanded
    · cases (unnamed item member).symm.trans named
  | unsupported tool used unsupported => exact absurd (passes.tools used) unsupported

end

/-- A passed evaluation means full authorization, and is one, exactly when no entry
without an id slips through; limitations never change the verdict. -/
theorem passed_meansAuthorized_iff (evaluator : SkillEvaluator) (specification : SkillDefinition)
    (arguments : ResultArguments) :
    ∃ evaluation, evaluator.evaluateResult specification arguments = .ok evaluation ∧
      ((evaluation.passed = true ↔ evaluator.FullyAuthorized specification arguments) ↔
        evaluator.NoneSlips specification arguments) ∧
      ∀ limitations, ∃ other,
        evaluator.evaluateResult specification { arguments with limitations } = .ok other ∧
          other.passed = evaluation.passed := by
  obtain ⟨evaluation, evaluated, passed⟩ := passed_iff evaluator specification arguments
  refine ⟨evaluation, evaluated, ?_, ?_⟩
  · rw [passed]
    refine ⟨?_, ?_⟩
    · intro means
      by_cases passes : evaluator.Passes specification arguments
      · refine .usable ?_
        intro item member
        obtain ⟨id, named, -⟩ := (means.mp passes).evidence item member
        exact ⟨id, named⟩
      · exact noneSlips_of_not_passes passes
    · intro noneSlips
      exact ⟨fun passes => passes.fullyAuthorized (passes.usable noneSlips),
        FullyAuthorized.passes⟩
  · intro limitations
    obtain ⟨other, evaluatedToo, passedToo⟩ :=
      passed_iff evaluator specification { arguments with limitations }
    refine ⟨other, evaluatedToo, Bool.eq_iff_iff.mpr ?_⟩
    rw [passedToo, passed]
    exact ⟨fun passes => ⟨passes.contract, passes.known, passes.present, passes.tools⟩,
      fun passes => ⟨passes.contract, passes.known, passes.present, passes.tools⟩⟩

/-! ## An entry without an id -/

/-- A skill that requires evidence. -/
def evidenceSkill : SkillDefinition where
  skillId := "skill.test.evaluation"
  skillVersion := "1.0.0"
  name := "Evaluation fixture"
  description := "Reusable deterministic evaluator fixture."
  inputSchemaRef := "skill-definition"
  outputSchemaRef := "skill-definition"
  evidenceRequirements := ["Cite every claim."]

/-- A reference without an id. -/
def unnamedItem : EvidenceItem := .mapping [("excerpt", .str "Policy.")]

/-- A reference that names its id, and one that has none. -/
def halfCitedResult : ResultArguments where
  output := []
  evidenceRefs := [.text "evidence_001", unnamedItem]
  suppliedEvidenceIds := ["evidence_001"]
  usedToolIds := []
  authorizedToolIds := []

/-- An evaluator that accepts every output. -/
def lenientEvaluator : SkillEvaluator where
  platform := .sample
  contracts := ⟨fun _ => some fun _ => none⟩

/-- An entry without an id passes beside one that has one. -/
theorem passed_counterexample :
    ¬ ∀ (evaluator : SkillEvaluator) (specification : SkillDefinition)
      (arguments : ResultArguments) (evaluation : SkillEvaluation),
      evaluator.evaluateResult specification arguments = .ok evaluation →
        (evaluation.passed = true ↔ evaluator.FullyAuthorized specification arguments) := by
  intro means
  have verdict : (lenientEvaluator.evaluateResult evidenceSkill halfCitedResult).toOption.map
      SkillEvaluation.passed = some true := by decide +kernel
  obtain ⟨evaluation, evaluated, passed⟩ := exists_ok_of_map verdict
  have authorized := (means _ _ _ _ evaluated).mp passed
  obtain ⟨id, named, -⟩ := authorized.evidence unnamedItem
    (List.mem_cons_of_mem _ List.mem_cons_self)
  have unnamed : lenientEvaluator.citedId? unnamedItem = none := by decide
  cases unnamed.symm.trans named

end SkillEvaluator

end Genesis

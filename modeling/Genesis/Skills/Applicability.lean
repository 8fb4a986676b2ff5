import Genesis.Skills.Evaluator
import Genesis.Skills.Specification

/-!
# Applicability of what was selected

`SkillEvaluator.evaluate_applicability` reads four checks off one outcome of a
selection.  `applicability_iff` says what the selection makes them say: an evaluation
passes for selected packages only, and its check of the tools fails for a package
exactly when authorization and relevance let it get as far as its tools.
-/

namespace Genesis

open Py

namespace SkillEvaluator

/-- The check of the tools of an outcome; its reason looks at the missing ones only. -/
def requiredToolsAuthorized (selected : Bool) (missingToolIds : List String) : EvaluationCheck :=
  check "skill.required_tools_authorized" (selected || missingToolIds = [])
    (if missingToolIds = [] then "Required tools are within the effective allowlist."
      else "Missing required tools: " ++ (join ", " missingToolIds ++ ".")) (by
    split
    · decide
    · exact one_le_length_append (by decide) _)

/-- `evaluate_applicability`. -/
def evaluateApplicability (outcome : SkillCandidateOutcome) (executionContextPresent : Bool)
    (contextPrerequisitesSatisfied : Bool := true) : SkillEvaluation :=
  let selected : Bool := outcome.status = .selected
  let checks := [check "skill.authorized_and_relevant" selected outcome.reason
      outcome.reason_nonempty,
    requiredToolsAuthorized selected outcome.missingToolIds,
    check "skill.execution_context_present" executionContextPresent
      "A validated Backend-issued execution context is required." (by decide),
    check "skill.context_prerequisites" contextPrerequisitesSatisfied
      "Required narrowed context prerequisites must be present." (by decide)]
  { passed := checks.all fun item => item.outcome = .pass
    checks
    declaredCriteria :=
      (outcome.descriptor.map fun descriptor => descriptor.specification.evaluation).getD [] }

section

variable {outcome : SkillCandidateOutcome} {executionContextPresent : Bool}
  {contextPrerequisitesSatisfied : Bool}

/-- The verdict on an outcome; a selected one has its tools. -/
theorem applicability_passed_iff :
    (evaluateApplicability outcome executionContextPresent
      contextPrerequisitesSatisfied).passed = true ↔
      outcome.status = .selected ∧ executionContextPresent = true ∧
        contextPrerequisitesSatisfied = true := by
  simp only [evaluateApplicability, requiredToolsAuthorized, List.all_cons, List.all_nil,
    Bool.and_true, Bool.and_eq_true, Bool.or_eq_true, decide_eq_true_eq, check_outcome]
  refine ⟨?_, ?_⟩
  · intro h
    exact ⟨h.1, h.2.2⟩
  · intro h
    exact ⟨h.1, .inl h.1, h.2⟩

/-- The evaluation finds tools missing, for this reason. -/
def LacksToolsFor (evaluation : SkillEvaluation) (reason : String) : Prop :=
  ∃ item ∈ evaluation.checks, item.checkId = "skill.required_tools_authorized" ∧
    item.outcome = .fail ∧ item.reason = reason

theorem lacksToolsFor_iff {reason : String} :
    LacksToolsFor (evaluateApplicability outcome executionContextPresent
      contextPrerequisitesSatisfied) reason ↔
      outcome.status ≠ .selected ∧ outcome.missingToolIds ≠ [] ∧
        reason = "Missing required tools: " ++ (join ", " outcome.missingToolIds ++ ".") := by
  unfold LacksToolsFor evaluateApplicability
  dsimp only
  refine ⟨?_, ?_⟩
  · rintro ⟨item, member, named, failed, rfl⟩
    simp only [List.mem_cons, List.not_mem_nil, or_false] at member
    rcases member with rfl | rfl | rfl | rfl
    · exact absurd named (by simp [check])
    · unfold requiredToolsAuthorized check at failed ⊢
      dsimp only at failed ⊢
      split at failed
      · cases failed
      · next missing =>
        simp only [Bool.or_eq_true, decide_eq_true_eq, not_or] at missing
        exact ⟨missing.1, missing.2, if_neg missing.2⟩
    · exact absurd named (by simp [check])
    · exact absurd named (by simp [check])
  · rintro ⟨unselected, missing, rfl⟩
    refine ⟨_, List.mem_cons_of_mem _ List.mem_cons_self, rfl, ?_, ?_⟩
    · unfold requiredToolsAuthorized check
      dsimp only
      rw [decide_eq_false unselected, decide_eq_false missing]
      rfl
    · exact if_neg missing

end

end SkillEvaluator

namespace SkillSelector

/-! ## What the selection leaves for the evaluation -/

/-- A package that is authorized and relevant but requires a tool it cannot use. -/
structure LacksTools (selector : SkillSelector) (arguments : SelectionArguments)
    (descriptor : SkillDescriptor) : Prop where
  authorized : descriptor.reference ∈ arguments.authorizedRefs
  relevant : (selector.sharedTokens arguments descriptor).Nonempty
  lacks : ∃ tool ∈ descriptor.specification.requiredToolIds, ¬ EffectiveTool arguments tool

/-- The tools that a package requires and cannot use, in order. -/
def unusableTools (arguments : SelectionArguments) (descriptor : SkillDescriptor) : List String :=
  excess descriptor.specification.requiredToolIds (effectiveTools arguments)

section

variable {selector : SkillSelector} {arguments : SelectionArguments}
  {descriptors : List SkillDescriptor} {descriptor : SkillDescriptor}
  {outcome : SkillCandidateOutcome} {selection : SkillSelection}

theorem unusableTools_ne_nil_iff : unusableTools arguments descriptor ≠ [] ↔
    ∃ tool ∈ descriptor.specification.requiredToolIds, ¬ EffectiveTool arguments tool := by
  rw [unusableTools, ne_eq, excess_eq_nil_iff, subset_effectiveTools_iff]
  push Not
  rfl

/-- The missing tools of an assessment, and the package it shows with them. -/
theorem missingToolIds_assess :
    (selector.LacksTools arguments descriptor ∧
      (selector.assess arguments descriptor).missingToolIds = unusableTools arguments descriptor ∧
      (selector.assess arguments descriptor).descriptor = some descriptor) ∨
    ¬ selector.LacksTools arguments descriptor ∧
      (selector.assess arguments descriptor).missingToolIds = [] := by
  unfold assess
  dsimp only
  split
  · next unauthorized => exact .inr ⟨fun lacking => unauthorized lacking.authorized, rfl⟩
  next authorized =>
  split
  · next irrelevant =>
    exact .inr ⟨fun lacking => relevantTerms_eq_nil_iff.mp irrelevant lacking.relevant, rfl⟩
  next relevant =>
  split
  · next missing =>
    refine .inl ⟨⟨not_not.mp authorized, ?_, unusableTools_ne_nil_iff.mp missing⟩, rfl, rfl⟩
    exact not_not.mp fun none => relevant (relevantTerms_eq_nil_iff.mpr none)
  next tools =>
  refine .inr ⟨fun lacking => tools (unusableTools_ne_nil_iff.mpr lacking.lacks), ?_⟩
  split_ifs <;> rfl

theorem eq_of_assess_descriptor {other : SkillDescriptor}
    (shown : (selector.assess arguments descriptor).descriptor = some other) :
    other = descriptor := by
  unfold assess at shown
  dsimp only at shown
  split_ifs at shown <;> cases shown <;> rfl

/-- Nothing that is reported is selected. -/
theorem status_ne_of_reported (member : outcome ∈ selector.reported arguments descriptors) :
    outcome.status ≠ .selected := by
  intro selected
  unfold reported at member
  rw [List.mem_append, List.mem_append] at member
  rcases member with (assessed | undiscovered) | outRanked
  · exact of_decide_eq_true (List.mem_filter.mp assessed).2 selected
  · obtain ⟨reference, -, rfl⟩ := List.mem_map.mp undiscovered
    unfold SkillSelector.undiscovered at selected
    split_ifs at selected
  · obtain ⟨descriptor, -, rfl⟩ := List.mem_map.mp outRanked
    cases selected

theorem reported_perm_unavailable
    (returned : selector.select descriptors arguments = .ok selection) :
    selection.unavailable.Perm (selector.reported arguments descriptors) := by
  have positive := (select_eq_ok returned).1
  cases (select_eq positive).symm.trans returned
  exact Priority.sortBy_perm _ _

theorem mem_unavailable_of_dropped
    (returned : selector.select descriptors arguments = .ok selection)
    (found : descriptor ∈ descriptors)
    (dropped : (selector.assess arguments descriptor).status ≠ .selected) :
    selector.assess arguments descriptor ∈ selection.unavailable := by
  rw [(reported_perm_unavailable returned).mem_iff]
  unfold reported
  rw [List.mem_append, List.mem_append, List.mem_filter, decide_eq_true_eq]
  exact .inl (.inl ⟨List.mem_map_of_mem found, dropped⟩)

/-- An outcome lists tools exactly when it shows a package that lacks them. -/
theorem missing_iff_of_reported (member : outcome ∈ selector.reported arguments descriptors)
    (reason : List String → String) {text : String} :
    outcome.missingToolIds ≠ [] ∧ text = reason outcome.missingToolIds ↔
      ∃ descriptor ∈ descriptors, outcome.descriptor = some descriptor ∧
        selector.LacksTools arguments descriptor ∧
        text = reason (unusableTools arguments descriptor) := by
  have of_assess : ∀ descriptor ∈ descriptors, ∀ outcome : SkillCandidateOutcome,
      outcome.missingToolIds = (selector.assess arguments descriptor).missingToolIds →
      outcome.descriptor = (selector.assess arguments descriptor).descriptor →
      (outcome.missingToolIds ≠ [] ∧ text = reason outcome.missingToolIds ↔
        ∃ descriptor ∈ descriptors, outcome.descriptor = some descriptor ∧
          selector.LacksTools arguments descriptor ∧
          text = reason (unusableTools arguments descriptor)) := by
    intro descriptor found outcome missing shows
    rw [missing, shows]
    rcases missingToolIds_assess with ⟨lacking, tools, shown⟩ | ⟨satisfied, none⟩
    · rw [tools, shown]
      refine ⟨?_, ?_⟩
      · rintro ⟨-, rfl⟩
        exact ⟨descriptor, found, rfl, lacking, rfl⟩
      · rintro ⟨other, -, same, -, rfl⟩
        cases same
        exact ⟨unusableTools_ne_nil_iff.mpr lacking.lacks, rfl⟩
    · refine ⟨fun listed => absurd none listed.1, ?_⟩
      rintro ⟨other, -, shown, lacking, -⟩
      exact absurd (eq_of_assess_descriptor shown ▸ lacking) satisfied
  rcases cases_of_reported member with
    ⟨descriptor, found, rfl⟩ | ⟨reference, -, rfl⟩ | ⟨descriptor, found, rfl⟩
  · exact of_assess descriptor found _ rfl rfl
  · have undisclosed : (undiscovered descriptors reference).descriptor = none := by
      unfold undiscovered
      split_ifs <;> rfl
    have none : (undiscovered descriptors reference).missingToolIds = [] := by
      unfold undiscovered
      split_ifs <;> rfl
    rw [undisclosed, none]
    refine ⟨fun listed => absurd rfl listed.1, ?_⟩
    rintro ⟨other, -, shown, -⟩
    cases shown
  · exact of_assess descriptor found _ rfl rfl

/-- A selected package lacks no tools. -/
theorem not_lacksTools_of_selected
    (returned : selector.select descriptors arguments = .ok selection)
    (member : outcome ∈ selection.selected) (shown : outcome.descriptor = some descriptor) :
    ¬ selector.LacksTools arguments descriptor := by
  obtain ⟨other, -, selects, eligible⟩ := of_mem_selected returned member
  cases shown.symm.trans selects.descriptor
  intro lacking
  obtain ⟨tool, required, unusable⟩ := lacking.lacks
  exact unusable (subset_effectiveTools_iff.mp eligible.tools tool required)

end

/-- Of everything a selection reports, evaluation passes the selected outcomes in a sound
context, and it finds tools missing exactly for the packages that are authorized and
relevant and lack some, naming those. -/
theorem applicability_iff (selector : SkillSelector) (descriptors : List SkillDescriptor)
    (arguments : SelectionArguments) (selection : SkillSelection)
    (returned : selector.select descriptors arguments = .ok selection)
    (executionContextPresent contextPrerequisitesSatisfied : Bool) :
    ∀ outcome ∈ selection.selected ++ selection.unavailable,
      ((SkillEvaluator.evaluateApplicability outcome executionContextPresent
          contextPrerequisitesSatisfied).passed = true ↔
        outcome ∈ selection.selected ∧ executionContextPresent = true ∧
          contextPrerequisitesSatisfied = true) ∧
      ∀ reason, SkillEvaluator.LacksToolsFor (SkillEvaluator.evaluateApplicability outcome
          executionContextPresent contextPrerequisitesSatisfied) reason ↔
        ∃ descriptor ∈ descriptors, outcome.descriptor = some descriptor ∧
          selector.LacksTools arguments descriptor ∧
          reason = "Missing required tools: " ++
            (join ", " (unusableTools arguments descriptor) ++ ".") := by
  intro outcome member
  rw [SkillEvaluator.applicability_passed_iff]
  simp only [SkillEvaluator.lacksToolsFor_iff]
  rcases List.mem_append.mp member with selected | unavailable
  · obtain ⟨descriptor, -, selects, -⟩ := of_mem_selected returned selected
    refine ⟨and_congr_left' (iff_of_true selects.status selected), fun reason => ?_⟩
    refine ⟨fun lacking => absurd selects.status lacking.1, ?_⟩
    rintro ⟨other, -, shown, lacking, -⟩
    exact absurd lacking (not_lacksTools_of_selected returned selected shown)
  · have reported := (reported_perm_unavailable returned).mem_iff.mp unavailable
    have unselected := status_ne_of_reported reported
    refine ⟨and_congr_left' (iff_of_false unselected fun selected => ?_), fun reason => ?_⟩
    · obtain ⟨descriptor, -, selects, -⟩ := of_mem_selected returned selected
      exact unselected selects.status
    · rw [← missing_iff_of_reported reported
        fun tools => "Missing required tools: " ++ (join ", " tools ++ ".")]
      exact and_iff_right unselected

/-! ## A package for each verdict -/

/-- A relevant package that requires a tool the Backend does not allow. -/
def toolPackage : SkillDescriptor where
  specification :=
    { SkillEvaluator.evidenceSkill with
      requiredToolIds := ["document.read"]
      wellFormed := SkillEvaluator.evidenceSkill.wellFormed }
  packagePath := ["evaluation"]

/-- The same package under another id, for the tool that the Backend allows. -/
def searchPackage : SkillDescriptor where
  specification :=
    { SkillEvaluator.evidenceSkill with
      skillId := "evidence_search"
      requiredToolIds := ["document.search"]
      wellFormed := by decide +kernel }
  packagePath := ["search"]

/-- A package like the first that is not authorized. -/
def foreignPackage : SkillDescriptor where
  specification :=
    { SkillEvaluator.evidenceSkill with
      skillId := "evidence_foreign"
      requiredToolIds := ["document.read"]
      wellFormed := by decide +kernel }
  packagePath := ["foreign"]

def threePackages : List SkillDescriptor := [toolPackage, searchPackage, foreignPackage]

def toolArguments : SelectionArguments where
  authorizedRefs := [toolPackage.reference, searchPackage.reference]
  goal := "evaluation"
  backendAllowedToolIds := ["document.search"]

theorem lacksTools_toolPackage : SkillSelector.LacksTools ⟨.ascii⟩ toolArguments toolPackage := by
  refine ⟨List.mem_cons_self, ?_, "document.read", List.mem_singleton_self _, ?_⟩
  · rw [← toFinset_relevantTerms]
    exact ⟨"evaluation", List.mem_toFinset.mpr (by decide +kernel)⟩
  · exact fun effective => absurd effective.1 (by decide)

/-- Of three packages one is selected and passes, one is reported for the tool it lacks,
and of the one without authorization no tool is named. -/
theorem applicability_iff_threePackages :
    ∃ selection,
      SkillSelector.select ⟨.ascii⟩ threePackages toolArguments = .ok selection ∧
      (∃ outcome ∈ selection.selected, outcome.reference = searchPackage.reference ∧
        (SkillEvaluator.evaluateApplicability outcome true).passed = true ∧
        (SkillEvaluator.evaluateApplicability outcome true false).passed = false) ∧
      (∃ outcome ∈ selection.unavailable, outcome.reference = toolPackage.reference ∧
        (SkillEvaluator.evaluateApplicability outcome true).passed = false ∧
        SkillEvaluator.LacksToolsFor (SkillEvaluator.evaluateApplicability outcome true)
          "Missing required tools: document.read.") ∧
      ∃ outcome ∈ selection.unavailable, outcome.reference = foreignPackage.reference ∧
        (SkillEvaluator.evaluateApplicability outcome true).passed = false ∧
        ∀ reason, ¬ SkillEvaluator.LacksToolsFor
          (SkillEvaluator.evaluateApplicability outcome true) reason := by
  have relevant : (SkillSelector.assess ⟨.ascii⟩ toolArguments searchPackage).status =
      .selected := by
    decide +kernel
  have lacking : (SkillSelector.assess ⟨.ascii⟩ toolArguments toolPackage).status ≠ .selected := by
    decide +kernel
  have foreign : (SkillSelector.assess ⟨.ascii⟩ toolArguments foreignPackage).status ≠
      .selected := by
    decide +kernel
  have ranks : SkillSelector.ranked ⟨.ascii⟩ toolArguments threePackages = [searchPackage] := by
    simp only [SkillSelector.ranked, threePackages, List.filter_cons, List.filter_nil,
      decide_eq_false lacking, decide_eq_true relevant, decide_eq_false foreign]
    rfl
  obtain ⟨selection, returned, selected⟩ : ∃ selection,
      SkillSelector.select ⟨.ascii⟩ threePackages toolArguments = .ok selection ∧
        SkillSelector.assess ⟨.ascii⟩ toolArguments searchPackage ∈ selection.selected := by
    refine ⟨_, select_eq (by decide), ?_⟩
    rw [ranks]
    exact List.mem_singleton_self _
  have evaluated := fun satisfied =>
    applicability_iff ⟨.ascii⟩ threePackages toolArguments selection returned true satisfied
  have fails : ∀ descriptor ∈ threePackages,
      (SkillSelector.assess ⟨.ascii⟩ toolArguments descriptor).status ≠ .selected →
      (SkillEvaluator.evaluateApplicability
        (SkillSelector.assess ⟨.ascii⟩ toolArguments descriptor) true).passed = false := by
    intro descriptor found dropped
    refine Bool.not_eq_true _ |>.mp fun passed => ?_
    have reported := mem_unavailable_of_dropped returned found dropped
    have passes := (evaluated true _ (List.mem_append_right _ reported)).1.mp passed
    obtain ⟨other, -, selects, -⟩ := of_mem_selected returned passes.1
    exact dropped selects.status
  have dropsTool := mem_unavailable_of_dropped returned List.mem_cons_self lacking
  have dropsForeign := mem_unavailable_of_dropped returned
    (List.mem_cons_of_mem _ (List.mem_cons_of_mem _ List.mem_cons_self)) foreign
  refine ⟨selection, returned, ⟨_, selected, assess_reference, ?_, ?_⟩,
    ⟨_, dropsTool, assess_reference, fails _ List.mem_cons_self lacking, ?_⟩,
    _, dropsForeign, assess_reference, fails _ ?_ foreign, fun reason => ?_⟩
  · exact (evaluated true _ (List.mem_append_left _ selected)).1.mpr ⟨selected, rfl, rfl⟩
  · refine Bool.not_eq_true _ |>.mp fun passed => ?_
    have passes := (evaluated false _ (List.mem_append_left _ selected)).1.mp passed
    exact absurd passes.2.2 Bool.false_ne_true
  · refine ((evaluated true _ (List.mem_append_right _ dropsTool)).2 _).mpr
      ⟨toolPackage, List.mem_cons_self, ?_, lacksTools_toolPackage, ?_⟩
    · rcases missingToolIds_assess with ⟨-, -, shows⟩ | ⟨satisfied, -⟩
      · exact shows
      · exact absurd lacksTools_toolPackage satisfied
    · decide +kernel
  · exact List.mem_cons_of_mem _ (List.mem_cons_of_mem _ List.mem_cons_self)
  · rw [(evaluated true _ (List.mem_append_right _ dropsForeign)).2 reason]
    rintro ⟨descriptor, -, shows, lacks, -⟩
    cases eq_of_assess_descriptor shows
    exact absurd lacks.authorized (by decide +kernel)

end SkillSelector

end Genesis

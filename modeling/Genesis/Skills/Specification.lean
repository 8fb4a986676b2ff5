import Mathlib.Data.Finset.Card
import Genesis.Skills.Runtime

/-!
# What a skill selection has to be

`select` is specified by the request alone: the checks of a package in their
order, the ranking of the packages that pass them all, and what is reported of
every package and reference that is not selected.  `select_meets_specification`
is that specification for every catalogue of distinct references, in whatever
order packages and references arrive.  The catalogue of a packages root is one
of them, so `SkillRuntime.Steps.meets_specification` holds of every prepared
context.
-/

namespace Genesis

open Py FileTree Priority

namespace SkillSelector

/-! ## The specification -/

/-- The distinct tokens of the goal and the capability context. -/
def queryTokens (selector : SkillSelector) (arguments : SelectionArguments) : Finset String :=
  (findallRuns isLowerAlphanum (selector.unicode.lower
    (join " " (arguments.goal :: arguments.capabilityContext)))).toFinset

/-- The distinct tokens of the metadata of a package. -/
def metadataTokens (selector : SkillSelector) (specification : SkillDefinition) : Finset String :=
  (findallRuns isLowerAlphanum (selector.unicode.lower (join " "
    ([specification.name, specification.description, specification.purpose] ++
      specification.whenToUse)))).toFinset

/-- The tokens a package shares with the query. -/
def sharedTokens (selector : SkillSelector) (arguments : SelectionArguments)
    (descriptor : SkillDescriptor) : Finset String :=
  selector.queryTokens arguments ∩ selector.metadataTokens descriptor.specification

/-- The tool is allowed by the Backend and, where the Agent restricts its tools, by the Agent. -/
def EffectiveTool (arguments : SelectionArguments) (tool : String) : Prop :=
  tool ∈ arguments.backendAllowedToolIds ∧
    ∀ agentTools ∈ arguments.agentAllowedToolIds, tool ∈ agentTools

/-- The checks of a package in their order, with the status of a package that fails one. -/
def checks (selector : SkillSelector) (arguments : SelectionArguments)
    (descriptor : SkillDescriptor) : List (Prop × SkillSelectionStatus) :=
  [(descriptor.reference ∈ arguments.authorizedRefs, .unauthorized),
    ((selector.sharedTokens arguments descriptor).Nonempty, .notRelevant),
    (∀ tool ∈ descriptor.specification.requiredToolIds, EffectiveTool arguments tool,
      .requiredToolUnavailable),
    (descriptor.specification.permissionRefs ⊆ arguments.backendPermissionRefs,
      .requiredPermissionUnavailable),
    (descriptor.specification.scopeRefs ⊆ arguments.backendScopeRefs, .requiredScopeUnavailable)]

/-- The package passes every check. -/
def Qualifies (selector : SkillSelector) (arguments : SelectionArguments)
    (descriptor : SkillDescriptor) : Prop :=
  ∀ check ∈ selector.checks arguments descriptor, check.1

/-- `status` is that of the first check the package fails. -/
def FirstFailing (selector : SkillSelector) (arguments : SelectionArguments)
    (descriptor : SkillDescriptor) (status : SkillSelectionStatus) : Prop :=
  ∃ passed failed later, selector.checks arguments descriptor = passed ++ failed :: later ∧
    (∀ check ∈ passed, check.1) ∧ ¬ failed.1 ∧ failed.2 = status

/-- More shared tokens come first, then the smaller id, then the smaller version. -/
def Outranks (selector : SkillSelector) (arguments : SelectionArguments)
    (first second : SkillDescriptor) : Prop :=
  (selector.sharedTokens arguments second).card < (selector.sharedTokens arguments first).card ∨
    (selector.sharedTokens arguments first).card = (selector.sharedTokens arguments second).card ∧
      (first.specification.skillId < second.specification.skillId ∨
        first.specification.skillId = second.specification.skillId ∧
          first.specification.skillVersion < second.specification.skillVersion)

/-- The packages that qualify, in the order of their rank. -/
structure Ranking (selector : SkillSelector) (arguments : SelectionArguments)
    (descriptors ranked : List SkillDescriptor) : Prop where
  members : ∀ descriptor, descriptor ∈ ranked ↔
    descriptor ∈ descriptors ∧ selector.Qualifies arguments descriptor
  ordered : ranked.Pairwise (selector.Outranks arguments)

/-- What is reported of a reference. -/
def about (selection : SkillSelection) (reference : SkillReference) :
    List SkillCandidateOutcome :=
  selection.unavailable.filter fun outcome => outcome.reference = reference

/-- What a selection of the request has to be, `ranked` being the packages that qualify. -/
structure MeetsSpecification (selector : SkillSelector) (arguments : SelectionArguments)
    (descriptors ranked : List SkillDescriptor) (selection : SkillSelection) : Prop where
  ranking : selector.Ranking arguments descriptors ranked
  selected : List.Forall₂ Selects selection.selected
    (ranked.take arguments.maximumSelected.toNat)
  notSelected : ∀ descriptor ∈ descriptors,
    descriptor ∉ ranked.take arguments.maximumSelected.toNat →
      ∃ outcome, about selection descriptor.reference = [outcome] ∧
        (selector.FirstFailing arguments descriptor outcome.status ∨
          selector.Qualifies arguments descriptor ∧ outcome.status = .notRelevant)
  onlySelected : ∀ descriptor ∈ ranked.take arguments.maximumSelected.toNat,
    about selection descriptor.reference = []
  undisclosed : ∀ outcome ∈ selection.unavailable,
    outcome.status = .unauthorized → outcome.descriptor = none
  undiscovered : ∀ reference ∈ arguments.authorizedRefs,
    reference ∉ descriptors.map SkillDescriptor.reference →
      (about selection reference).length = arguments.authorizedRefs.count reference ∧
        ∀ outcome ∈ about selection reference,
          (outcome.status = .versionMismatch ↔ reference.skillId ∈
            descriptors.map fun descriptor => descriptor.specification.skillId) ∧
          (outcome.status = .missingPackage ↔ reference.skillId ∉
            descriptors.map fun descriptor => descriptor.specification.skillId)
  nothingElse : ∀ outcome ∈ selection.unavailable,
    outcome.reference ∈ descriptors.map SkillDescriptor.reference ∨
      outcome.reference ∈ arguments.authorizedRefs

/-! ## The assessment -/

section

variable {selector : SkillSelector} {arguments : SelectionArguments}
  {descriptors : List SkillDescriptor} {descriptor : SkillDescriptor}

theorem toFinset_relevantTerms :
    (selector.relevantTerms descriptor.specification arguments.goal
      arguments.capabilityContext).toFinset = selector.sharedTokens arguments descriptor := by
  ext token
  unfold relevantTerms sharedTokens queryTokens metadataTokens
  rw [List.mem_toFinset, mem_common, Finset.mem_inter, List.mem_toFinset, List.mem_toFinset]

/-- The score of a relevant package counts the tokens it shares with the query. -/
theorem length_relevantTerms :
    (selector.relevantTerms descriptor.specification arguments.goal
      arguments.capabilityContext).length = (selector.sharedTokens arguments descriptor).card := by
  rw [← toFinset_relevantTerms, List.toFinset_card_of_nodup]
  exact nodup_common _ _

theorem relevantTerms_eq_nil_iff :
    selector.relevantTerms descriptor.specification arguments.goal
      arguments.capabilityContext = [] ↔
        ¬ (selector.sharedTokens arguments descriptor).Nonempty := by
  rw [Finset.not_nonempty_iff_eq_empty, ← Finset.card_eq_zero, ← length_relevantTerms,
    List.length_eq_zero_iff]

theorem subset_effectiveTools_iff {tools : List String} :
    tools ⊆ effectiveTools arguments ↔ ∀ tool ∈ tools, EffectiveTool arguments tool := by
  refine ⟨?_, ?_⟩
  · intro within tool member
    exact mem_effectiveTools.mp (within member)
  · intro effective tool member
    exact mem_effectiveTools.mpr (effective tool member)

theorem qualifies_iff_eligible :
    selector.Qualifies arguments descriptor ↔ selector.Eligible arguments descriptor := by
  unfold Qualifies checks
  simp only [List.forall_mem_cons, List.not_mem_nil, false_implies, implies_true, and_true]
  refine ⟨?_, ?_⟩
  · intro passes
    rcases passes with ⟨authorized, relevant, tools, permissions, scopes⟩
    refine ⟨authorized, ?_, subset_effectiveTools_iff.mpr tools, permissions, scopes⟩
    exact fun irrelevant => relevantTerms_eq_nil_iff.mp irrelevant relevant
  · intro eligible
    refine ⟨eligible.authorized, ?_, subset_effectiveTools_iff.mp eligible.tools,
      eligible.permissions, eligible.scopes⟩
    exact not_not.mp fun none => eligible.relevant (relevantTerms_eq_nil_iff.mpr none)

@[simp] theorem assess_reference :
    (selector.assess arguments descriptor).reference = descriptor.reference := by
  unfold assess
  dsimp only
  split_ifs <;> rfl

/-- A package that is not selected fails the check its status names, and passes the earlier ones. -/
theorem firstFailing_assess (dropped : (selector.assess arguments descriptor).status ≠ .selected) :
    selector.FirstFailing arguments descriptor (selector.assess arguments descriptor).status := by
  unfold assess at dropped ⊢
  dsimp only at dropped ⊢
  split
  · next unauthorized => exact ⟨[], _, _, rfl, List.forall_mem_nil _, unauthorized, rfl⟩
  next authorized =>
  have passesFirst : descriptor.reference ∈ arguments.authorizedRefs := not_not.mp authorized
  split
  · next irrelevant =>
    refine ⟨[_], _, _, rfl, ?_, relevantTerms_eq_nil_iff.mp irrelevant, rfl⟩
    exact List.forall_mem_singleton.mpr passesFirst
  next relevant =>
  have passesSecond : (selector.sharedTokens arguments descriptor).Nonempty :=
    not_not.mp fun none => relevant (relevantTerms_eq_nil_iff.mpr none)
  split
  · next missing =>
    refine ⟨[_, _], _, _, rfl, ?_, ?_, rfl⟩
    · exact List.forall_mem_cons.mpr ⟨passesFirst, List.forall_mem_singleton.mpr passesSecond⟩
    · exact fun tools => missing (excess_eq_nil_iff.mpr (subset_effectiveTools_iff.mpr tools))
  next tools =>
  have passesThird : ∀ tool ∈ descriptor.specification.requiredToolIds,
      EffectiveTool arguments tool :=
    subset_effectiveTools_iff.mp (excess_eq_nil_iff.mp (not_not.mp tools))
  split
  · next missing =>
    refine ⟨[_, _, _], _, _, rfl, ?_, fun permissions => missing ?_, rfl⟩
    · exact List.forall_mem_cons.mpr ⟨passesFirst, List.forall_mem_cons.mpr
        ⟨passesSecond, List.forall_mem_singleton.mpr passesThird⟩⟩
    · exact excess_eq_nil_iff.mpr permissions
  next permissions =>
  have passesFourth := excess_eq_nil_iff.mp (not_not.mp permissions)
  split
  · next missing =>
    refine ⟨[_, _, _, _], _, _, rfl, ?_, fun scopes => missing ?_, rfl⟩
    · exact List.forall_mem_cons.mpr ⟨passesFirst, List.forall_mem_cons.mpr ⟨passesSecond,
        List.forall_mem_cons.mpr ⟨passesThird, List.forall_mem_singleton.mpr passesFourth⟩⟩⟩
    · exact excess_eq_nil_iff.mpr scopes
  · next scopes =>
    rw [if_neg authorized, if_neg relevant, if_neg tools, if_neg permissions, if_neg scopes]
      at dropped
    exact absurd rfl dropped

/-- The score of an eligible package. -/
theorem assess_relevanceScore (eligible : selector.Eligible arguments descriptor) :
    (selector.assess arguments descriptor).relevanceScore =
      (selector.sharedTokens arguments descriptor).card := by
  unfold assess
  dsimp only
  rw [if_neg (not_not.mpr eligible.authorized), if_neg eligible.relevant, ← length_relevantTerms]
  split_ifs <;> rfl

theorem assess_undisclosed
    (unauthorized : (selector.assess arguments descriptor).status = .unauthorized) :
    (selector.assess arguments descriptor).descriptor = none := by
  unfold assess at unauthorized ⊢
  dsimp only at unauthorized ⊢
  split
  · rfl
  next authorized =>
  rw [if_neg authorized] at unauthorized
  split_ifs at unauthorized

/-! ## The ranking -/

/-- The packages that qualify, best first. -/
def ranked (selector : SkillSelector) (arguments : SelectionArguments)
    (descriptors : List SkillDescriptor) : List SkillDescriptor :=
  sortBy (fun descriptor => eligibleKey (selector.assess arguments descriptor))
    (descriptors.filter fun descriptor =>
      (selector.assess arguments descriptor).status = .selected)

theorem mem_ranked : descriptor ∈ selector.ranked arguments descriptors ↔
    descriptor ∈ descriptors ∧ selector.Eligible arguments descriptor := by
  rw [ranked, (sortBy_perm _ _).mem_iff, List.mem_filter, decide_eq_true_eq, assess_selected_iff]

/-- The references tell the packages of a catalogue apart. -/
theorem eq_of_reference (distinct : (descriptors.map SkillDescriptor.reference).Nodup)
    {other : SkillDescriptor} (member : descriptor ∈ descriptors) (also : other ∈ descriptors)
    (same : descriptor.reference = other.reference) : descriptor = other :=
  List.inj_on_of_nodup_map distinct member also same

/-- The sort key of two eligible packages compares them as the specification does. -/
theorem outranks_of_key_lt {first second : SkillDescriptor}
    (eligible : selector.Eligible arguments first)
    (alsoEligible : selector.Eligible arguments second)
    (above : eligibleKey (selector.assess arguments first) <
      eligibleKey (selector.assess arguments second)) :
    selector.Outranks arguments first second := by
  unfold eligibleKey at above
  rw [Prod.Lex.toLex_lt_toLex, Prod.Lex.toLex_lt_toLex, assess_relevanceScore eligible,
    assess_relevanceScore alsoEligible, assess_reference, assess_reference] at above
  rcases above with higher | ⟨tied, earlier⟩
  · exact .inl (by omega)
  · exact .inr ⟨by omega, earlier⟩

theorem reference_ext {one other : SkillReference} (sameId : one.skillId = other.skillId)
    (sameVersion : one.skillVersion = other.skillVersion) : one = other := by
  cases one
  cases other
  cases sameId
  cases sameVersion
  rfl

theorem reference_of_eligibleKey {one other : SkillCandidateOutcome}
    (tied : eligibleKey one = eligibleKey other) : one.reference = other.reference := by
  unfold eligibleKey at tied
  rw [toLex_inj, Prod.mk.injEq, toLex_inj, Prod.mk.injEq] at tied
  exact reference_ext tied.2.1 tied.2.2

theorem reference_of_unavailableKey {one other : SkillCandidateOutcome}
    (tied : unavailableKey one = unavailableKey other) : one.reference = other.reference := by
  unfold unavailableKey at tied
  rw [toLex_inj, Prod.mk.injEq, toLex_inj, Prod.mk.injEq] at tied
  exact reference_ext tied.1 tied.2.1

theorem nodup_references_ranked (distinct : (descriptors.map SkillDescriptor.reference).Nodup) :
    ((selector.ranked arguments descriptors).map SkillDescriptor.reference).Nodup := by
  have perm : ((selector.ranked arguments descriptors).map SkillDescriptor.reference).Perm _ :=
    (sortBy_perm _ _).map SkillDescriptor.reference
  rw [perm.nodup_iff]
  exact distinct.sublist (List.filter_sublist.map SkillDescriptor.reference)

theorem ranking_ranked (distinct : (descriptors.map SkillDescriptor.reference).Nodup) :
    selector.Ranking arguments descriptors (selector.ranked arguments descriptors) := by
  refine ⟨?_, ?_⟩
  · intro descriptor
    rw [mem_ranked, qualifies_iff_eligible]
  · have ordered : (selector.ranked arguments descriptors).Pairwise fun first second =>
        eligibleKey (selector.assess arguments first) ≤
          eligibleKey (selector.assess arguments second) := sortBy_pairwise _ _
    have apart : (selector.ranked arguments descriptors).Pairwise fun first second =>
        first.reference ≠ second.reference :=
      List.pairwise_map.mp (nodup_references_ranked distinct)
    refine (ordered.and apart).imp_of_mem ?_
    intro first second member also both
    refine outranks_of_key_lt (mem_ranked.mp member).2 (mem_ranked.mp also).2 ?_
    refine lt_of_le_of_ne both.1 fun tied => both.2 ?_
    have same := reference_of_eligibleKey tied
    rw [assess_reference, assess_reference] at same
    exact same

/-! ## The report -/

/-- The outcomes that are not selected, as they are collected. -/
def reported (selector : SkillSelector) (arguments : SelectionArguments)
    (descriptors : List SkillDescriptor) : List SkillCandidateOutcome :=
  ((descriptors.map (selector.assess arguments)).filter fun outcome =>
      outcome.status ≠ .selected) ++
    ((arguments.authorizedRefs.filter fun reference =>
      reference ∉ descriptors.map SkillDescriptor.reference).map (undiscovered descriptors)) ++
    ((selector.ranked arguments descriptors).drop arguments.maximumSelected.toNat).map
      fun descriptor => bounded (selector.assess arguments descriptor)

theorem eligible_eq_map_ranked :
    selector.eligible descriptors arguments =
      (selector.ranked arguments descriptors).map (selector.assess arguments) := by
  unfold eligible ranked
  rw [List.filter_map, sortBy_map]
  rfl

theorem select_eq (positive : 1 ≤ arguments.maximumSelected) :
    selector.select descriptors arguments = .ok
      { selected := ((selector.ranked arguments descriptors).take
          arguments.maximumSelected.toNat).map (selector.assess arguments)
        unavailable := sortBy unavailableKey (selector.reported arguments descriptors)
        effectiveToolIds := (effectiveTools arguments).insertionSort (· ≤ ·) } := by
  unfold select
  rw [if_neg (not_lt.mpr positive)]
  dsimp only
  rw [eligible_eq_map_ranked, ← List.map_take, ← List.map_drop, List.map_map]
  rfl

@[simp] theorem undiscovered_reference {reference : SkillReference} :
    (undiscovered descriptors reference).reference = reference := by
  unfold undiscovered
  split_ifs <;> rfl

/-- The outcomes of a list of packages about the reference of one of them. -/
theorem filter_map_reference {outcomeOf : SkillDescriptor → SkillCandidateOutcome}
    (keeps : ∀ descriptor, (outcomeOf descriptor).reference = descriptor.reference)
    (distinct : (descriptors.map SkillDescriptor.reference).Nodup)
    (member : descriptor ∈ descriptors) :
    (descriptors.map outcomeOf).filter (fun outcome => outcome.reference = descriptor.reference) =
      [outcomeOf descriptor] := by
  have only : (descriptors.filter fun other => other.reference = descriptor.reference) =
      [descriptor] := by
    have counted : (descriptors.filter fun other => other.reference = descriptor.reference) =
        descriptors.filter fun other => other == descriptor := by
      refine List.filter_congr fun other also => ?_
      rw [Bool.eq_iff_iff, decide_eq_true_eq, beq_iff_eq]
      exact ⟨eq_of_reference distinct also member, fun same => congrArg _ same⟩
    rw [counted, List.filter_beq, List.count_eq_one_of_mem distinct.of_map member]
    rfl
  have kept : ((fun outcome : SkillCandidateOutcome =>
      decide (outcome.reference = descriptor.reference)) ∘ outcomeOf) =
        fun other => decide (other.reference = descriptor.reference) := by
    funext other
    rw [Function.comp_apply, keeps]
  rw [List.filter_map, kept, only]
  rfl

/-- Packages without the reference have no outcome about it. -/
theorem filter_map_eq_nil {outcomeOf : SkillDescriptor → SkillCandidateOutcome}
    (keeps : ∀ descriptor, (outcomeOf descriptor).reference = descriptor.reference)
    {reference : SkillReference}
    (absent : reference ∉ descriptors.map SkillDescriptor.reference) :
    (descriptors.map outcomeOf).filter (fun outcome => outcome.reference = reference) = [] := by
  refine List.filter_eq_nil_iff.mpr fun outcome member same => ?_
  obtain ⟨other, also, rfl⟩ := List.mem_map.mp member
  rw [decide_eq_true_eq, keeps] at same
  exact absent (List.mem_map.mpr ⟨other, also, same⟩)

/-- What is collected about a reference. -/
def reportedAbout (selector : SkillSelector) (arguments : SelectionArguments)
    (descriptors : List SkillDescriptor) (reference : SkillReference) :
    List SkillCandidateOutcome :=
  (selector.reported arguments descriptors).filter fun outcome => outcome.reference = reference

variable (selector arguments) in
/-- A package is reported once, unless it is selected: with the outcome of its
assessment, or as out-ranked. -/
theorem reportedAbout_discovered (distinct : (descriptors.map SkillDescriptor.reference).Nodup)
    (member : descriptor ∈ descriptors) :
    selector.reportedAbout arguments descriptors descriptor.reference =
      (if (selector.assess arguments descriptor).status = .selected then []
        else [selector.assess arguments descriptor]) ++
      if descriptor ∈ (selector.ranked arguments descriptors).drop arguments.maximumSelected.toNat
      then [bounded (selector.assess arguments descriptor)] else [] := by
  let beyond := (selector.ranked arguments descriptors).drop arguments.maximumSelected.toNat
  have assessed : ((descriptors.map (selector.assess arguments)).filter fun outcome =>
      outcome.status ≠ .selected).filter (fun outcome =>
        outcome.reference = descriptor.reference) =
      if (selector.assess arguments descriptor).status = .selected then []
        else [selector.assess arguments descriptor] := by
    rw [List.filter_comm, filter_map_reference (fun _ => assess_reference) distinct member,
      List.filter_singleton]
    by_cases selected : (selector.assess arguments descriptor).status = .selected
    · simp [selected]
    · simp [selected]
  have discovered : ((arguments.authorizedRefs.filter fun reference =>
      reference ∉ descriptors.map SkillDescriptor.reference).map (undiscovered descriptors)).filter
        (fun outcome => outcome.reference = descriptor.reference) = [] := by
    refine List.filter_eq_nil_iff.mpr fun outcome reported same => ?_
    obtain ⟨reference, absent, rfl⟩ := List.mem_map.mp reported
    rw [decide_eq_true_eq, undiscovered_reference] at same
    rw [List.mem_filter, decide_eq_true_eq, same] at absent
    exact absent.2 (List.mem_map_of_mem member)
  have outRanked : (beyond.map fun descriptor =>
      bounded (selector.assess arguments descriptor)).filter
        (fun outcome => outcome.reference = descriptor.reference) =
      if descriptor ∈ beyond then [bounded (selector.assess arguments descriptor)] else [] := by
    have keeps : ∀ other, (bounded (selector.assess arguments other)).reference =
        other.reference := fun _ => assess_reference
    have apart : (beyond.map SkillDescriptor.reference).Nodup :=
      (nodup_references_ranked distinct).sublist ((List.drop_sublist _ _).map _)
    split
    · next inBeyond => exact filter_map_reference keeps apart inBeyond
    · next outside =>
      refine filter_map_eq_nil keeps fun inBeyond => outside ?_
      obtain ⟨other, also, same⟩ := List.mem_map.mp inBeyond
      have known : other ∈ descriptors := (mem_ranked.mp (List.mem_of_mem_drop also)).1
      rw [eq_of_reference distinct member known same.symm]
      exact also
  unfold reportedAbout reported
  rw [List.filter_append, List.filter_append, assessed, discovered, outRanked, List.append_nil]

/-- A reference that is not discovered is reported as often as it is authorized. -/
theorem reportedAbout_undiscovered {reference : SkillReference}
    (absent : reference ∉ descriptors.map SkillDescriptor.reference) :
    selector.reportedAbout arguments descriptors reference =
      List.replicate (arguments.authorizedRefs.count reference)
        (undiscovered descriptors reference) := by
  have assessed : ((descriptors.map (selector.assess arguments)).filter fun outcome =>
      outcome.status ≠ .selected).filter (fun outcome => outcome.reference = reference) = [] := by
    rw [List.filter_comm, filter_map_eq_nil (fun _ => assess_reference) absent, List.filter_nil]
  have authorized : ((arguments.authorizedRefs.filter fun reference =>
      reference ∉ descriptors.map SkillDescriptor.reference).map (undiscovered descriptors)).filter
        (fun outcome => outcome.reference = reference) =
      List.replicate (arguments.authorizedRefs.count reference)
        (undiscovered descriptors reference) := by
    rw [List.filter_map, List.filter_filter, ← List.map_replicate, ← List.filter_beq]
    congr 1
    refine List.filter_congr fun other _ => ?_
    rw [Bool.eq_iff_iff, Bool.and_eq_true, Function.comp_apply, decide_eq_true_eq,
      decide_eq_true_eq, undiscovered_reference, beq_iff_eq]
    refine ⟨fun both => both.1, fun same => ⟨same, ?_⟩⟩
    rw [same]
    exact absent
  have outRanked : (((selector.ranked arguments descriptors).drop
      arguments.maximumSelected.toNat).map fun descriptor =>
        bounded (selector.assess arguments descriptor)).filter
          (fun outcome => outcome.reference = reference) = [] := by
    have keeps : ∀ other, (bounded (selector.assess arguments other)).reference =
        other.reference := fun _ => assess_reference
    refine filter_map_eq_nil keeps fun inBeyond => absent ?_
    obtain ⟨other, also, same⟩ := List.mem_map.mp inBeyond
    exact List.mem_map.mpr ⟨other, (mem_ranked.mp (List.mem_of_mem_drop also)).1, same⟩
  unfold reportedAbout reported
  rw [List.filter_append, List.filter_append, assessed, authorized, outRanked, List.nil_append,
    List.append_nil]

variable (selector arguments) in
/-- What is collected about a discovered package: nothing when it is selected,
that it is out-ranked when it qualifies, or its failed assessment. -/
theorem reportedAbout_cases (distinct : (descriptors.map SkillDescriptor.reference).Nodup)
    (member : descriptor ∈ descriptors) :
    (descriptor ∈ (selector.ranked arguments descriptors).take arguments.maximumSelected.toNat ∧
      selector.reportedAbout arguments descriptors descriptor.reference = []) ∨
    (descriptor ∉ (selector.ranked arguments descriptors).take arguments.maximumSelected.toNat ∧
      selector.Eligible arguments descriptor ∧
      selector.reportedAbout arguments descriptors descriptor.reference =
        [bounded (selector.assess arguments descriptor)]) ∨
    (descriptor ∉ (selector.ranked arguments descriptors).take arguments.maximumSelected.toNat ∧
      (selector.assess arguments descriptor).status ≠ .selected ∧
      selector.reportedAbout arguments descriptors descriptor.reference =
        [selector.assess arguments descriptor]) := by
  let bound := arguments.maximumSelected.toNat
  have reports := reportedAbout_discovered selector arguments distinct member
  have nodup : (selector.ranked arguments descriptors).Nodup :=
    (nodup_references_ranked distinct).of_map
  by_cases selected : (selector.assess arguments descriptor).status = .selected
  · have eligible := assess_selected_iff.mp selected
    rw [if_pos selected, List.nil_append] at reports
    have inRanked : descriptor ∈ (selector.ranked arguments descriptors).take bound ++
        (selector.ranked arguments descriptors).drop bound := by
      rw [List.take_append_drop]
      exact mem_ranked.mpr ⟨member, eligible⟩
    by_cases first : descriptor ∈ (selector.ranked arguments descriptors).take bound
    · have notBeyond := List.disjoint_take_drop nodup le_rfl first
      rw [if_neg notBeyond] at reports
      exact .inl ⟨first, reports⟩
    · have beyond := (List.mem_append.mp inRanked).resolve_left first
      rw [if_pos beyond] at reports
      exact .inr (.inl ⟨first, eligible, reports⟩)
  · have notRanked : descriptor ∉ selector.ranked arguments descriptors := fun inRanked =>
      selected (assess_selected_iff.mpr (mem_ranked.mp inRanked).2)
    rw [if_neg selected, if_neg fun beyond => notRanked (List.mem_of_mem_drop beyond),
      List.append_nil] at reports
    exact .inr (.inr ⟨fun first => notRanked (List.mem_of_mem_take first), selected, reports⟩)

/-- A reference has one outcome in the report. -/
theorem outcome_eq_of_reference (distinct : (descriptors.map SkillDescriptor.reference).Nodup)
    {one other : SkillCandidateOutcome} (member : one ∈ selector.reported arguments descriptors)
    (also : other ∈ selector.reported arguments descriptors)
    (same : one.reference = other.reference) : one = other := by
  generalize named : other.reference = reference at same
  have first : one ∈ selector.reportedAbout arguments descriptors reference :=
    List.mem_filter.mpr ⟨member, decide_eq_true same⟩
  have second : other ∈ selector.reportedAbout arguments descriptors reference :=
    List.mem_filter.mpr ⟨also, decide_eq_true named⟩
  by_cases discovered : reference ∈ descriptors.map SkillDescriptor.reference
  · obtain ⟨descriptor, found, rfl⟩ := List.mem_map.mp discovered
    rcases reportedAbout_cases selector arguments distinct found with
      ⟨-, reports⟩ | ⟨-, -, reports⟩ | ⟨-, -, reports⟩
    · rw [reports] at first
      cases first
    · rw [reports, List.mem_singleton] at first second
      rw [first, second]
    · rw [reports, List.mem_singleton] at first second
      rw [first, second]
  · rw [reportedAbout_undiscovered discovered] at first second
    exact (List.eq_of_mem_replicate first).trans (List.eq_of_mem_replicate second).symm

/-- The sorted report says of a reference what was collected about it. -/
theorem filter_sorted_reported (distinct : (descriptors.map SkillDescriptor.reference).Nodup)
    {reference : SkillReference} :
    (sortBy unavailableKey (selector.reported arguments descriptors)).filter
        (fun outcome => outcome.reference = reference) =
      selector.reportedAbout arguments descriptors reference := by
  rw [filter_sortBy]
  cases collected : selector.reportedAbout arguments descriptors reference with
  | nil =>
    unfold reportedAbout at collected
    rw [collected]
    rfl
  | cons outcome others =>
    rw [← collected]
    refine sortBy_eq_self_of_tied (k := unavailableKey outcome) fun other also => ?_
    have listed : outcome ∈ selector.reportedAbout arguments descriptors reference := by
      rw [collected]
      exact List.mem_cons_self
    obtain ⟨inReport, named⟩ := List.mem_filter.mp listed
    obtain ⟨alsoInReport, alsoNamed⟩ := List.mem_filter.mp also
    rw [outcome_eq_of_reference distinct alsoInReport inReport
      ((of_decide_eq_true alsoNamed).trans (of_decide_eq_true named).symm)]

/-- The three sources of the report: packages that fail an assessment, authorized
references no package has, and packages outranked. -/
theorem cases_of_reported {outcome : SkillCandidateOutcome}
    (member : outcome ∈ selector.reported arguments descriptors) :
    (∃ descriptor ∈ descriptors, outcome = selector.assess arguments descriptor) ∨
      (∃ reference ∈ arguments.authorizedRefs,
        outcome = SkillSelector.undiscovered descriptors reference) ∨
      ∃ descriptor ∈ descriptors,
        outcome = bounded (selector.assess arguments descriptor) := by
  unfold reported at member
  rw [List.mem_append, List.mem_append] at member
  rcases member with (assessed | undiscovered) | outRanked
  · obtain ⟨descriptor, found, rfl⟩ := List.mem_map.mp (List.mem_filter.mp assessed).1
    exact .inl ⟨descriptor, found, rfl⟩
  · obtain ⟨reference, authorized, rfl⟩ := List.mem_map.mp undiscovered
    exact .inr (.inl ⟨reference, (List.mem_filter.mp authorized).1, rfl⟩)
  · obtain ⟨descriptor, beyond, rfl⟩ := List.mem_map.mp outRanked
    exact .inr (.inr ⟨descriptor, (mem_ranked.mp (List.mem_of_mem_drop beyond)).1, rfl⟩)

/-- Where an outcome of the report comes from. -/
theorem origin_of_reported {outcome : SkillCandidateOutcome}
    (member : outcome ∈ selector.reported arguments descriptors) :
    outcome.reference ∈ descriptors.map SkillDescriptor.reference ∨
      outcome.reference ∈ arguments.authorizedRefs := by
  rcases cases_of_reported member with
    ⟨descriptor, found, rfl⟩ | ⟨reference, authorized, rfl⟩ | ⟨descriptor, found, rfl⟩
  · exact .inl (List.mem_map.mpr ⟨descriptor, found, assess_reference.symm⟩)
  · rw [undiscovered_reference]
    exact .inr authorized
  · exact .inl (List.mem_map.mpr ⟨descriptor, found, assess_reference.symm⟩)

/-- No outcome without authorization shows the package it is about. -/
theorem undisclosed_of_reported {outcome : SkillCandidateOutcome}
    (member : outcome ∈ selector.reported arguments descriptors)
    (unauthorized : outcome.status = .unauthorized) : outcome.descriptor = none := by
  rcases cases_of_reported member with
    ⟨descriptor, found, rfl⟩ | ⟨reference, authorized, rfl⟩ | ⟨descriptor, found, rfl⟩
  · exact assess_undisclosed unauthorized
  · unfold SkillSelector.undiscovered
    split_ifs <;> rfl
  · cases unauthorized

theorem meetsSpecification (distinct : (descriptors.map SkillDescriptor.reference).Nodup)
    {selection : SkillSelection}
    (selected : selection.selected = ((selector.ranked arguments descriptors).take
      arguments.maximumSelected.toNat).map (selector.assess arguments))
    (unavailable : selection.unavailable =
      sortBy unavailableKey (selector.reported arguments descriptors)) :
    selector.MeetsSpecification arguments descriptors (selector.ranked arguments descriptors)
      selection := by
  have aboutEq : ∀ reference, about selection reference =
      selector.reportedAbout arguments descriptors reference := by
    intro reference
    rw [about, unavailable, filter_sorted_reported distinct]
  have inReport : ∀ outcome ∈ selection.unavailable,
      outcome ∈ selector.reported arguments descriptors := by
    intro outcome member
    rw [unavailable, (sortBy_perm _ _).mem_iff] at member
    exact member
  refine
    { ranking := ranking_ranked distinct
      selected := ?_
      notSelected := ?_
      onlySelected := ?_
      undisclosed := fun outcome member => undisclosed_of_reported (inReport outcome member)
      undiscovered := ?_
      nothingElse := fun outcome member => origin_of_reported (inReport outcome member) }
  · rw [selected, List.forall₂_map_left_iff, List.forall₂_same]
    intro descriptor member
    have eligible := (mem_ranked.mp (List.mem_of_mem_take member)).2
    exact assess_selects (assess_selected_iff.mpr eligible)
  · intro descriptor member outside
    rw [aboutEq]
    rcases reportedAbout_cases selector arguments distinct member with
      ⟨inside, -⟩ | ⟨-, eligible, reports⟩ | ⟨-, dropped, reports⟩
    · exact absurd inside outside
    · exact ⟨_, reports, .inr ⟨qualifies_iff_eligible.mpr eligible, rfl⟩⟩
    · exact ⟨_, reports, .inl (firstFailing_assess dropped)⟩
  · intro descriptor inside
    rw [aboutEq]
    have member := (mem_ranked.mp (List.mem_of_mem_take inside)).1
    rcases reportedAbout_cases selector arguments distinct member with
      ⟨-, reports⟩ | ⟨outside, -⟩ | ⟨outside, -⟩
    · exact reports
    · exact absurd inside outside
    · exact absurd inside outside
  · intro reference _ absent
    rw [aboutEq, reportedAbout_undiscovered absent, List.length_replicate]
    refine ⟨rfl, fun outcome member => ?_⟩
    rw [List.eq_of_mem_replicate member]
    unfold SkillSelector.undiscovered
    split_ifs with known
    · refine ⟨⟨fun _ => known, fun _ => rfl⟩, ?_, fun unknown => absurd known unknown⟩
      intro same
      cases same
    · refine ⟨⟨?_, fun isKnown => absurd isKnown known⟩, fun _ => known, fun _ => rfl⟩
      intro same
      cases same

/-! ## Order of the inputs -/

variable (selector) in
/-- Two requests with the same authorized references assess a package alike. -/
theorem assess_congr {refs : List SkillReference}
    (same : ∀ reference, reference ∈ refs ↔ reference ∈ arguments.authorizedRefs) :
    selector.assess { arguments with authorizedRefs := refs } = selector.assess arguments := by
  funext descriptor
  exact ite_congr (congrArg Not (propext (same descriptor.reference))) (fun _ => rfl) fun _ => rfl

/-- Packages are ranked alike in every order they and the authorized references are listed in. -/
theorem ranked_perm (distinct : (descriptors.map SkillDescriptor.reference).Nodup)
    {others : List SkillDescriptor} {refs : List SkillReference} (perm : others.Perm descriptors)
    (refsPerm : refs.Perm arguments.authorizedRefs) :
    selector.ranked { arguments with authorizedRefs := refs } others =
      selector.ranked arguments descriptors := by
  unfold ranked
  rw [assess_congr selector fun _ => refsPerm.mem_iff]
  symm
  refine sortBy_eq_of_perm (perm.symm.filter _) ?_
  intro one member other also tied
  have same := reference_of_eligibleKey tied
  rw [assess_reference, assess_reference] at same
  exact eq_of_reference distinct (List.mem_filter.mp member).1 (List.mem_filter.mp also).1 same

theorem undiscovered_perm {others : List SkillDescriptor} (perm : others.Perm descriptors) :
    undiscovered others = undiscovered descriptors := by
  funext reference
  have known := (perm.map fun descriptor => descriptor.specification.skillId).mem_iff
    (a := reference.skillId)
  exact ite_congr (propext known) (fun _ => rfl) fun _ => rfl

theorem reported_perm (distinct : (descriptors.map SkillDescriptor.reference).Nodup)
    {others : List SkillDescriptor} {refs : List SkillReference} (perm : others.Perm descriptors)
    (refsPerm : refs.Perm arguments.authorizedRefs) :
    (selector.reported { arguments with authorizedRefs := refs } others).Perm
      (selector.reported arguments descriptors) := by
  have assessed := assess_congr selector fun _ => refsPerm.mem_iff
  have references := perm.map SkillDescriptor.reference
  unfold reported
  rw [assessed, ranked_perm distinct perm refsPerm, undiscovered_perm perm]
  refine ((List.Perm.append ?_ ?_).append (.refl _))
  · exact (perm.map _).filter _
  · simp only [references.mem_iff]
    exact (refsPerm.filter _).map _

end

/-- Whatever the catalogue and the request are, packages with distinct
references are selected as specified, and in whatever order packages and
authorized references are listed the selection is the same. -/
theorem select_meets_specification (selector : SkillSelector) (descriptors : List SkillDescriptor)
    (arguments : SelectionArguments)
    (distinct : (descriptors.map SkillDescriptor.reference).Nodup)
    (positive : 1 ≤ arguments.maximumSelected) :
    ∃ selection, selector.select descriptors arguments = .ok selection ∧
      (∃ ranked, selector.MeetsSpecification arguments descriptors ranked selection) ∧
      ∀ others refs, others.Perm descriptors → refs.Perm arguments.authorizedRefs →
        selector.select others { arguments with authorizedRefs := refs } = .ok selection := by
  refine ⟨_, select_eq positive, ⟨_, meetsSpecification distinct rfl rfl⟩, ?_⟩
  intro others refs perm refsPerm
  have assessed := assess_congr selector fun _ => refsPerm.mem_iff
  have reportedEq : sortBy unavailableKey
      (selector.reported { arguments with authorizedRefs := refs } others) =
        sortBy unavailableKey (selector.reported arguments descriptors) := by
    refine (sortBy_eq_of_perm (reported_perm distinct perm refsPerm).symm ?_).symm
    exact fun one member other also tied =>
      outcome_eq_of_reference distinct member also (reference_of_unavailableKey tied)
  have positive' : 1 ≤ { arguments with authorizedRefs := refs }.maximumSelected := positive
  rw [select_eq positive', ranked_perm distinct perm refsPerm, reportedEq, assessed]
  rfl

/-- A package that is only its reference. -/
def barePackage (reference : SkillReference) : SkillDescriptor where
  specification := ⟨
    { skillId := reference.skillId
      skillVersion := reference.skillVersion
      name := "package"
      description := "Review architecture."
      inputSchemaRef := "schema.request"
      outputSchemaRef := "schema.result" }, reference.wellFormed,
    (by decide : 1 ≤ "package".length), (by decide : 1 ≤ "Review architecture.".length)⟩
  packagePath := [reference.skillId]

def packageArguments (refs : List SkillReference) : SelectionArguments where
  authorizedRefs := refs
  goal := "architecture"
  backendAllowedToolIds := []

theorem select_meets_specification_packages :
    ∃ selection, SkillSelector.select ⟨.ascii⟩
        (SkillRuntime.packageReferences.map barePackage)
        (packageArguments SkillRuntime.packageReferences) = .ok selection ∧
      (∃ ranked, SkillSelector.MeetsSpecification ⟨.ascii⟩
        (packageArguments SkillRuntime.packageReferences)
        (SkillRuntime.packageReferences.map barePackage) ranked selection) ∧
      SkillSelector.select ⟨.ascii⟩ (SkillRuntime.packageReferences.map barePackage).reverse
        (packageArguments SkillRuntime.packageReferences.reverse) = .ok selection := by
  obtain ⟨selection, returned, meets, ordered⟩ := select_meets_specification ⟨.ascii⟩
    (SkillRuntime.packageReferences.map barePackage)
    (packageArguments SkillRuntime.packageReferences) (by decide +kernel) (by decide)
  exact ⟨selection, returned, meets, ordered _ _ (List.reverse_perm _) (List.reverse_perm _)⟩

end SkillSelector

/-! ## The catalogue of a packages root -/

/-- The loop of `discover` refuses a reference it has seen. -/
theorem FileSystemSkillLoader.nodup_of_discoverFrom {loader : FileSystemSkillLoader} {tree : Tree}
    {references : List SkillReference} {manifests : List Path}
    {descriptors : List SkillDescriptor}
    (found : loader.discoverFrom tree references manifests = .ok descriptors) :
    (descriptors.map SkillDescriptor.reference).Nodup ∧
      ∀ reference ∈ descriptors.map SkillDescriptor.reference, reference ∉ references := by
  induction manifests generalizing references descriptors with
  | nil =>
    cases found
    exact ⟨.nil, List.forall_mem_nil _⟩
  | cons manifestPath rest ih =>
    obtain ⟨descriptor, later, -, unseen, others, rfl⟩ := discoverFrom_cons_eq_ok found
    obtain ⟨nodup, fresh⟩ := ih others
    refine ⟨List.nodup_cons.mpr ⟨?_, nodup⟩, List.forall_mem_cons.mpr ⟨unseen, ?_⟩⟩
    · exact fun again => fresh _ again (List.mem_append_right _ List.mem_cons_self)
    · exact fun reference member seen => fresh reference member (List.mem_append_left _ seen)

theorem FileSystemSkillLoader.nodup_of_discover {loader : FileSystemSkillLoader} {tree : Tree}
    {descriptors : List SkillDescriptor} (found : loader.discover tree = .ok descriptors) :
    (descriptors.map SkillDescriptor.reference).Nodup := by
  unfold discover at found
  split at found
  · exact (nodup_of_discoverFrom found).1
  · cases found

/-- The selection of a prepared context is as specified for the discovered packages. -/
theorem SkillRuntime.Steps.meets_specification {runtime : SkillRuntime} {packagesRoot : Tree}
    {authorization : SkillAuthorizationSnapshot} {goal : String}
    {capabilityContext : List String} {maximumSelected : ℤ} {prepared : SkillRuntimeContext}
    {descriptors : List SkillDescriptor}
    (steps : Steps runtime packagesRoot authorization goal capabilityContext maximumSelected
      prepared descriptors) :
    ∃ ranked, runtime.selector.MeetsSpecification
      (selectionArguments authorization goal capabilityContext maximumSelected) descriptors ranked
      prepared.selection := by
  have distinct := FileSystemSkillLoader.nodup_of_discover steps.discovered
  have selected := steps.selected
  rw [SkillSelector.select_eq (SkillSelector.select_eq_ok selected).1, Except.ok.injEq] at selected
  exact ⟨_, SkillSelector.meetsSpecification distinct (selected ▸ rfl) (selected ▸ rfl)⟩

end Genesis

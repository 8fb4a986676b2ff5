import Genesis.Context.Authority

/-!
# What a selection keeps, and what it reports

`ContextBudgetManager.select_optimal`: the selection is the best one the budget
allows, position by position in the order of the priorities.
`ContextManager.build_selectionFaithful_iff`: the audit trail of a build is keyed
by the ids of the segments, so it is faithful exactly when these are distinct.
-/

namespace Genesis

open Py Priority

namespace ContextBudgetManager

/-! ## The best selection -/

/-- What a selection under a character budget is worth.  A sub-collection of the
sorted segments is a mask of their positions. -/
structure Optimal (segments : List ContextSegment) (maximumCharacters : ℤ)
    (selection : ContextSelection) : Prop where
  permutation : (selection.selected ++ selection.dropped).Perm segments
  selected_ordered : selection.selected.Pairwise fun a b => segmentKey a ≤ segmentKey b
  dropped_ordered : selection.dropped.Pairwise fun a b => segmentKey a ≤ segmentKey b
  required : ∀ item ∈ segments, item.required = true → item ∈ selection.selected
  characters : selection.metadata.selectedCharacters =
    total ContextSegment.sizeCharacters selection.selected
  within : (selection.metadata.selectedCharacters : ℤ) ≤ maximumCharacters
  best : ∃ chosen,
    selection.selected = pick chosen (sortBy segmentKey segments) ∧
      selection.dropped = pick (chosen.map not) (sortBy segmentKey segments) ∧
      Covers ContextSegment.required chosen (sortBy segmentKey segments) ∧
      ∀ mask, Covers ContextSegment.required mask (sortBy segmentKey segments) →
        (total ContextSegment.sizeCharacters (pick mask (sortBy segmentKey segments)) : ℤ) ≤
          maximumCharacters →
        mask = chosen ∨ Precedes chosen mask
  full : ∀ item ∈ selection.dropped, maximumCharacters <
    ((selection.metadata.selectedCharacters + item.sizeCharacters : ℕ) : ℤ)

/-- The selection failed because the required segments alone are too large. -/
def RequiredOverflow (result : Except PyException ContextSelection) : Prop :=
  ∃ failure, result = .error (.contextFailure failure) ∧
    failure.code = "CONTEXT_BUDGET_REQUIRED_OVERFLOW"

section

variable {segments : List ContextSegment} {maximumCharacters : ℤ} {correlationId : String}
  {selection : ContextSelection}

/-- The priorities of the required segments come before all others. -/
theorem forcedFirst_sortBy (segments : List ContextSegment) :
    ForcedFirst ContextSegment.required (sortBy segmentKey segments) := by
  apply (sortBy_pairwise segmentKey segments).imp
  intro a b le isRequired
  have priority : a.priority.toNat ≤ b.priority.toNat := Prod.Lex.monotone_fst _ _ le
  rw [ContextSegment.required, decide_eq_true_eq] at isRequired ⊢
  omega

/-- The metadata of a selection is what the loop has counted. -/
theorem metadata_of_select
    (selected : select segments maximumCharacters correlationId = .ok selection) :
    selection.metadata.selectedCharacters =
        total ContextSegment.sizeCharacters selection.selected ∧
      selection.metadata.selectedSegmentIds = selection.selected.map (fun item => item.segmentId) ∧
      selection.metadata.droppedSegmentIds = selection.dropped.map (fun item => item.segmentId) ∧
      selection.metadata.reasonBySegment =
        ((sortBy segmentKey segments).foldl (step maximumCharacters) {}).reasons := by
  obtain ⟨s, rfl, kept, dropped, characters, selectedIds, droppedIds, reasons⟩ :=
    eq_of_select selected
  have used := foldl_step_used maximumCharacters (sortBy segmentKey segments) {}
  have loop := foldl_step maximumCharacters (sortBy segmentKey segments) {}
  refine ⟨?_, by rw [selectedIds, kept], by rw [droppedIds, dropped], reasons⟩
  rw [characters, kept, loop.1]
  exact used.trans (Nat.zero_add _)

/-- A selection that succeeds is the best one. -/
theorem optimal_of_select
    (fits : (requiredSize segments : ℤ) ≤ maximumCharacters)
    (selected : select segments maximumCharacters correlationId = .ok selection) :
    Optimal segments maximumCharacters selection := by
  obtain ⟨kept, dropped⟩ := select_eq_ok selected
  obtain ⟨characters, -, -, -⟩ := metadata_of_select selected
  have decided : pass maximumCharacters segments =
      (pick (marks ContextSegment.required ContextSegment.sizeCharacters maximumCharacters 0
          (sortBy segmentKey segments)) (sortBy segmentKey segments),
        pick ((marks ContextSegment.required ContextSegment.sizeCharacters maximumCharacters 0
          (sortBy segmentKey segments)).map not) (sortBy segmentKey segments)) :=
    greedy_eq_pick 0 _
  have sorted := sortBy_pairwise segmentKey segments
  have small : ((0 + total ContextSegment.sizeCharacters
      ((sortBy segmentKey segments).filter ContextSegment.required) : ℕ) : ℤ) ≤
        maximumCharacters := by
    rw [Nat.zero_add]
    rw [← requiredSize_sortBy] at fits
    exact fits
  have within := greedy_kept_within (forcedFirst_sortBy segments) small
  rw [Nat.zero_add] at within
  refine
    { permutation := ?_
      selected_ordered := ?_
      dropped_ordered := ?_
      required := ?_
      characters := characters
      within := ?_
      best := ?_
      full := ?_ }
  · rw [kept, dropped]
    exact (greedy_perm 0 _).trans (sortBy_perm segmentKey segments)
  · rw [kept]
    exact sorted.sublist (greedy_kept_sublist 0 _)
  · rw [dropped]
    exact sorted.sublist (greedy_dropped_sublist 0 _)
  · intro item member isRequired
    have inOrder : item ∈ (sortBy segmentKey segments).filter ContextSegment.required :=
      List.mem_filter.mpr ⟨(sortBy_perm segmentKey segments).mem_iff.mpr member, isRequired⟩
    have keepsRequired : (pass maximumCharacters segments).1.filter ContextSegment.required =
        (sortBy segmentKey segments).filter ContextSegment.required :=
      filter_greedy_kept 0 _
    rw [← keepsRequired] at inOrder
    rw [kept]
    exact (List.mem_filter.mp inOrder).1
  · rw [characters, kept]
    exact within
  · rw [kept, dropped, decided]
    refine ⟨_, rfl, rfl, covers_marks 0 _, ?_⟩
    intro mask covers small
    rw [← Nat.zero_add (total _ _)] at small
    exact eq_or_precedes_marks covers small
  · intro item inDropped
    rw [dropped] at inDropped
    have above := limit_lt_of_mem_dropped inDropped
    rw [characters, kept]
    rw [Nat.zero_add] at above
    exact above

theorem requiredOverflow_iff (positive : 1 ≤ maximumCharacters) :
    RequiredOverflow (select segments maximumCharacters correlationId) ↔
      maximumCharacters < requiredSize segments := by
  have valid : ¬ maximumCharacters < 1 := not_lt.mpr positive
  unfold select
  rw [if_neg valid]
  dsimp only
  rw [requiredSize_sortBy]
  split
  · next overflow => exact ⟨fun _ => overflow, fun _ => ⟨_, rfl, rfl⟩⟩
  · next fits =>
    refine ⟨fun failed => ?_, fun overflow => absurd overflow fits⟩
    obtain ⟨_, impossible, _⟩ := failed
    cases impossible

end

/-- Under a positive budget a selection fails exactly when the required segments
alone are too large, and is the best one otherwise. -/
theorem select_optimal {segments : List ContextSegment} {maximumCharacters : ℤ}
    {correlationId : String} (positive : 1 ≤ maximumCharacters) :
    (RequiredOverflow (select segments maximumCharacters correlationId) ↔
        maximumCharacters < requiredSize segments) ∧
      ((requiredSize segments : ℤ) ≤ maximumCharacters →
        ∃ selection, select segments maximumCharacters correlationId = .ok selection ∧
          Optimal segments maximumCharacters selection) := by
  refine ⟨requiredOverflow_iff positive, ?_⟩
  intro fits
  obtain ⟨selection, selected⟩ := select_isOk_iff.mpr ⟨positive, fits⟩
  exact ⟨selection, selected, optimal_of_select fits selected⟩

def shortNote : ContextSegment where
  segmentId := "supporting_note_002"
  key := "short-note"
  content := "Short note."
  priority := .supportingContext
  source := .internal
  trust := .governed
  dataClassification := .internal
  scopeRefs := ["scope.division.technology"]
  wellFormed := by decide

/-- A note that sorts before the short one and fits no budget of forty characters. -/
def longNote : ContextSegment :=
  { shortNote with
    segmentId := "supporting_note_001"
    content := "A note of more characters than the budget leaves."
    wellFormed := by decide }

theorem select_optimal_notes :
    ¬ RequiredOverflow (select [shortNote, longNote, ContextManager.evidenceSegment] 40
        "corr_context_001") ∧
      ∃ selection,
        select [shortNote, longNote, ContextManager.evidenceSegment] 40 "corr_context_001" =
          .ok selection ∧
        selection.selected = [ContextManager.evidenceSegment, shortNote] ∧
        selection.dropped = [longNote] ∧
        Optimal [shortNote, longNote, ContextManager.evidenceSegment] 40 selection := by
  obtain ⟨overflow, best⟩ := @select_optimal
    [shortNote, longNote, ContextManager.evidenceSegment] 40 "corr_context_001" (by decide)
  have fits : (requiredSize [shortNote, longNote, ContextManager.evidenceSegment] : ℤ) ≤ 40 := by
    decide
  obtain ⟨selection, selected, optimal⟩ := best fits
  obtain ⟨kept, dropped⟩ := select_eq_ok selected
  have decided : pass 40 [shortNote, longNote, ContextManager.evidenceSegment] =
      ([ContextManager.evidenceSegment, shortNote], [longNote]) := by
    decide +kernel
  rw [decided] at kept dropped
  exact ⟨fun failed => (overflow.mp failed).not_ge fits, selection, selected, kept, dropped,
    optimal⟩

/-! ## The audit trail -/

/-- The metadata of a selection tells, under the id of each segment, whether that
segment was selected or dropped. -/
structure Faithful (segments : List ContextSegment) (selection : ContextSelection) : Prop where
  selected_nodup : selection.metadata.selectedSegmentIds.Nodup
  dropped_nodup : selection.metadata.droppedSegmentIds.Nodup
  disjoint : ∀ id ∈ selection.metadata.selectedSegmentIds,
    id ∉ selection.metadata.droppedSegmentIds
  selected_iff : ∀ item ∈ segments,
    selection.metadata.reasonBySegment.get? item.segmentId = some "SELECTED_BY_PRIORITY" ↔
      item ∈ selection.selected
  dropped_iff : ∀ item ∈ segments,
    selection.metadata.reasonBySegment.get? item.segmentId = some "DROPPED_CONTEXT_BUDGET" ↔
      item ∈ selection.dropped

section

variable {segments : List ContextSegment} {maximumCharacters : ℤ} {correlationId : String}
  {selection : ContextSelection}

theorem selection_perm
    (selected : select segments maximumCharacters correlationId = .ok selection) :
    (selection.selected ++ selection.dropped).Perm segments := by
  obtain ⟨kept, dropped⟩ := select_eq_ok selected
  rw [kept, dropped]
  exact (greedy_perm 0 _).trans (sortBy_perm segmentKey segments)

/-- The ids reported are the ids of the segments. -/
theorem ids_perm
    (selected : select segments maximumCharacters correlationId = .ok selection) :
    (selection.metadata.selectedSegmentIds ++ selection.metadata.droppedSegmentIds).Perm
      (segments.map fun item => item.segmentId) := by
  obtain ⟨-, selectedIds, droppedIds, -⟩ := metadata_of_select selected
  rw [selectedIds, droppedIds, ← List.map_append]
  exact (selection_perm selected).map _

/-- The reason written last under an id is that of its segment when ids are distinct. -/
theorem reasons_of_select
    (selected : select segments maximumCharacters correlationId = .ok selection)
    (distinct : (segments.map fun item => item.segmentId).Nodup) :
    (∀ item ∈ selection.selected, selection.metadata.reasonBySegment.get? item.segmentId =
        some "SELECTED_BY_PRIORITY") ∧
      ∀ item ∈ selection.dropped, selection.metadata.reasonBySegment.get? item.segmentId =
        some "DROPPED_CONTEXT_BUDGET" := by
  obtain ⟨kept, dropped⟩ := select_eq_ok selected
  obtain ⟨-, -, -, reasons⟩ := metadata_of_select selected
  have inOrder : ((sortBy segmentKey segments).map fun item => item.segmentId).Nodup :=
    ((sortBy_perm segmentKey segments).map _).nodup_iff.mpr distinct
  rw [reasons, kept, dropped]
  exact foldl_step_reasons maximumCharacters {} inOrder

theorem faithful_iff
    (selected : select segments maximumCharacters correlationId = .ok selection) :
    Faithful segments selection ↔ (segments.map fun item => item.segmentId).Nodup := by
  have ids := ids_perm selected
  refine ⟨?_, ?_⟩
  · intro faithful
    rw [← ids.nodup_iff, List.nodup_append']
    exact ⟨faithful.selected_nodup, faithful.dropped_nodup, faithful.disjoint⟩
  · intro distinct
    obtain ⟨selectedNodup, droppedNodup, disjoint⟩ :=
      List.nodup_append'.mp (ids.nodup_iff.mpr distinct)
    obtain ⟨keptReason, droppedReason⟩ := reasons_of_select selected distinct
    have differ : some "SELECTED_BY_PRIORITY" ≠ some "DROPPED_CONTEXT_BUDGET" := by decide
    refine ⟨selectedNodup, droppedNodup, disjoint, ?_, ?_⟩
    · intro item member
      refine ⟨fun reason => ?_, keptReason item⟩
      rcases List.mem_append.mp ((selection_perm selected).mem_iff.mpr member) with kept | dropped
      · exact kept
      · exact absurd (reason.symm.trans (droppedReason item dropped)) differ
    · intro item member
      refine ⟨fun reason => ?_, droppedReason item⟩
      rcases List.mem_append.mp ((selection_perm selected).mem_iff.mpr member) with kept | dropped
      · exact absurd ((keptReason item kept).symm.trans reason) differ
      · exact dropped

end

end ContextBudgetManager

namespace ContextManager

/-- The metadata of the bundle is faithful to the selection among the generated
segments and those of the caller. -/
def SelectionFaithful (manager : ContextManager) (args : BuildArguments)
    (bundle : RuntimeContextBundle) : Prop :=
  ∃ context header selection,
    Built manager args bundle context header selection ∧
      bundle.selectedSegments = selection.selected ∧ bundle.selection = selection.metadata ∧
        ContextBudgetManager.Faithful (header ++ args.segments) selection

/-- The ids of the generated segments. -/
def systemSegmentIds : List String :=
  ["system_security_authority", "execution_context_scope", "authorized_user_goal"]

/-- The segments of the caller have distinct ids, and none that is generated. -/
def DistinctIds (segments : List ContextSegment) : Prop :=
  (segments.map fun item => item.segmentId).Nodup ∧
    ∀ item ∈ segments, item.segmentId ∉ systemSegmentIds

instance distinctIdsDecidable (segments : List ContextSegment) :
    Decidable (DistinctIds segments) :=
  inferInstanceAs (Decidable (_ ∧ _))

theorem header_ids {platform : Platform} {context : ExecutionContextView} {goal : String}
    {header : List ContextSegment}
    (generated : requiredSegments platform context goal = .ok header) :
    (header.map fun item => item.segmentId) = systemSegmentIds := by
  have ids : (header.map fun item => item.segmentId) =
      (requiredFields platform context goal).map fun fields => fields.segmentId := by
    rw [← requiredSegments_eq_ok_iff.mp generated, List.map_map]
    rfl
  rw [ids]
  rfl

theorem distinctIds_iff {platform : Platform} {context : ExecutionContextView} {goal : String}
    {header segments : List ContextSegment}
    (generated : requiredSegments platform context goal = .ok header) :
    ((header ++ segments).map fun item => item.segmentId).Nodup ↔ DistinctIds segments := by
  have systemNodup : systemSegmentIds.Nodup := by decide
  rw [List.map_append, header_ids generated, List.nodup_append']
  refine ⟨?_, ?_⟩
  · intro distinct
    refine ⟨distinct.2.1, fun item member system => ?_⟩
    exact distinct.2.2 system (List.mem_map_of_mem member)
  · intro distinct
    refine ⟨systemNodup, distinct.1, fun id system supplied => ?_⟩
    obtain ⟨item, member, rfl⟩ := List.mem_map.mp supplied
    exact distinct.2 item member system

theorem Built.selectionFaithful_iff {manager : ContextManager} {args : BuildArguments}
    {bundle : RuntimeContextBundle} {context : ExecutionContextView} {header : List ContextSegment}
    {selection : ContextSelection} (b : Built manager args bundle context header selection) :
    SelectionFaithful manager args bundle ↔ DistinctIds args.segments := by
  refine ⟨?_, ?_⟩
  · intro h
    rcases h with ⟨_, _, _, b', -, -, faithful⟩
    exact (distinctIds_iff b'.generated).mp
      ((ContextBudgetManager.faithful_iff b'.selected).mp faithful)
  · intro distinct
    have faithful := (ContextBudgetManager.faithful_iff b.selected).mpr
      ((distinctIds_iff b.generated).mpr distinct)
    exact ⟨context, header, selection, b, by rw [b.bundle]; rfl, by rw [b.bundle]; rfl, faithful⟩

/-- The audit trail of a successful build is faithful exactly when no two
segments, of the caller or generated, share an id. -/
theorem build_selectionFaithful_iff {manager : ContextManager} {args : BuildArguments}
    {bundle : RuntimeContextBundle} (built : manager.build args = .ok bundle) :
    SelectionFaithful manager args bundle ↔ DistinctIds args.segments := by
  obtain ⟨context, header, selection, b⟩ := build_eq_ok_iff.mp built
  exact b.selectionFaithful_iff

theorem build_selectionFaithful_contextArguments :
    ∃ bundle, contextManager.build (contextArguments [evidenceSegment]) = .ok bundle ∧
      SelectionFaithful contextManager (contextArguments [evidenceSegment]) bundle := by
  obtain ⟨bundle, header, selection, b⟩ :=
    exists_build_contextArguments [evidenceSegment] (by decide +kernel) (by decide +kernel)
  have distinct : DistinctIds (contextArguments [evidenceSegment]).segments := by decide
  have built := build_eq_ok_iff.mpr ⟨_, header, selection, b⟩
  exact ⟨bundle, built, (build_selectionFaithful_iff built).mpr distinct⟩

def supportingNote : ContextSegment where
  segmentId := "supporting_note_001"
  key := "supporting-note"
  content := "First note."
  priority := .supportingContext
  source := .internal
  trust := .governed
  dataClassification := .internal
  scopeRefs := ["scope.division.technology"]
  wellFormed := by decide

/-- Another note under the same id. -/
def repeatedNote : ContextSegment :=
  { supportingNote with content := "Second note.", wellFormed := by decide }

/-- A build accepts two segments with one id and reports on them under that id. -/
theorem selection_counterexample :
    ¬ ∀ (manager : ContextManager) (args : BuildArguments) (bundle : RuntimeContextBundle),
      manager.build args = .ok bundle → SelectionFaithful manager args bundle := by
  intro always
  obtain ⟨bundle, header, selection, b⟩ :=
    exists_build_contextArguments [supportingNote, repeatedNote] (by decide +kernel)
      (by decide +kernel)
  have faithful := always _ _ _ (build_eq_ok_iff.mpr ⟨_, header, selection, b⟩)
  have repeated : ¬ DistinctIds (contextArguments [supportingNote, repeatedNote]).segments := by
    decide
  exact repeated (b.selectionFaithful_iff.mp faithful)

end ContextManager

end Genesis

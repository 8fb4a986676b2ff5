import Mathlib.Algebra.GroupWithZero.Nat
import Mathlib.Data.Prod.Lex
import Genesis.Context.Models
import Genesis.Lib.Priority

/-!
# Deterministic bounded selection

`ContextBudgetManager.select` as the loop it is, and `select_eq_ok`, which
identifies its result with the greedy pass over the segments sorted by
`(priority, segment_id)`.
-/

namespace Genesis

open Py Priority

/-- The sort key `(int(item.priority), item.segment_id)`. -/
def segmentKey (item : ContextSegment) : ℕ ×ₗ String :=
  toLex (item.priority.toNat, item.segmentId)

namespace ContextBudgetManager

/-- The local variables of the selection loop. -/
structure LoopState where
  selected : List ContextSegment := []
  dropped : List ContextSegment := []
  reasons : Dict String := []
  used : ℕ := 0

/-- The body of the selection loop. -/
def step (maximumCharacters : ℤ) (s : LoopState) (item : ContextSegment) : LoopState :=
  if item.required ∨ ((s.used + item.sizeCharacters : ℕ) : ℤ) ≤ maximumCharacters then
    { s with
      selected := s.selected ++ [item]
      used := s.used + item.sizeCharacters
      reasons := s.reasons.set item.segmentId "SELECTED_BY_PRIORITY" }
  else
    { s with
      dropped := s.dropped ++ [item]
      reasons := s.reasons.set item.segmentId "DROPPED_CONTEXT_BUDGET" }

def requiredSize (ordered : List ContextSegment) : ℕ :=
  ((ordered.filter ContextSegment.required).map ContextSegment.sizeCharacters).sum

def select (segments : List ContextSegment) (maximumCharacters : ℤ) (correlationId : String) :
    Except PyException ContextSelection :=
  if maximumCharacters < 1 then
    .error (.contextFailure
      { code := "CONTEXT_BUDGET_INVALID"
        message := "Context character budget must be positive."
        correlationId })
  else
    let ordered := sortBy segmentKey segments
    if (requiredSize ordered : ℤ) > maximumCharacters then
      .error (.contextFailure
        { code := "CONTEXT_BUDGET_REQUIRED_OVERFLOW"
          message := "Required authority, goal, business context, and evidence exceed the budget."
          correlationId
          details := [("required_characters", .int (requiredSize ordered)),
            ("maximum_characters", .int maximumCharacters)] })
    else
      let s := ordered.foldl (step maximumCharacters) {}
      .ok
        { selected := s.selected
          dropped := s.dropped
          metadata :=
            { maximumCharacters
              selectedCharacters := s.used
              selectedSegmentIds := s.selected.map fun item => item.segmentId
              droppedSegmentIds := s.dropped.map fun item => item.segmentId
              reasonBySegment := s.reasons } }

/-- The greedy pass over the sorted segments. -/
def pass (maximumCharacters : ℤ) (segments : List ContextSegment) :
    List ContextSegment × List ContextSegment :=
  greedy ContextSegment.required ContextSegment.sizeCharacters maximumCharacters 0
    (sortBy segmentKey segments)

/-- The loop appends what the greedy pass keeps and drops. -/
theorem foldl_step (maximumCharacters : ℤ) (items : List ContextSegment) (s : LoopState) :
    let kept := greedy ContextSegment.required ContextSegment.sizeCharacters maximumCharacters
      s.used items
    (items.foldl (step maximumCharacters) s).selected = s.selected ++ kept.1 ∧
      (items.foldl (step maximumCharacters) s).dropped = s.dropped ++ kept.2 := by
  induction items generalizing s with
  | nil => simp [greedy]
  | cons item items ih =>
    have rest := ih (step maximumCharacters s item)
    rw [List.foldl_cons, greedy]
    unfold step at rest ⊢
    split at rest <;> rename_i fits
    · rw [if_pos fits, if_pos fits]
      simpa using rest
    · rw [if_neg fits, if_neg fits]
      simpa using rest

/-- The loop adds up the sizes of what it keeps. -/
theorem foldl_step_used (maximumCharacters : ℤ) (items : List ContextSegment) (s : LoopState) :
    (items.foldl (step maximumCharacters) s).used =
      s.used + total ContextSegment.sizeCharacters (greedy ContextSegment.required
        ContextSegment.sizeCharacters maximumCharacters s.used items).1 := by
  induction items generalizing s with
  | nil => rfl
  | cons item items ih =>
    rw [List.foldl_cons, ih, greedy]
    unfold step
    split
    · rw [total_cons]
      exact Nat.add_assoc _ _ _
    · rfl

/-- The loop writes one reason under the id of each item it visits. -/
theorem foldl_step_reasons_of_notMem (maximumCharacters : ℤ) {items : List ContextSegment}
    (s : LoopState) {key : String} (other : key ∉ items.map fun item => item.segmentId) :
    (items.foldl (step maximumCharacters) s).reasons.get? key = s.reasons.get? key := by
  induction items generalizing s with
  | nil => rfl
  | cons item items ih =>
    rw [List.map_cons, List.mem_cons, not_or] at other
    rw [List.foldl_cons, ih _ other.2]
    unfold step
    split
    · exact (Dict.get?_set _ _ _ _).trans (if_neg other.1)
    · exact (Dict.get?_set _ _ _ _).trans (if_neg other.1)

/-- With distinct ids no reason is overwritten. -/
theorem foldl_step_reasons (maximumCharacters : ℤ) {items : List ContextSegment} (s : LoopState)
    (distinct : (items.map fun item => item.segmentId).Nodup) :
    let kept := greedy ContextSegment.required ContextSegment.sizeCharacters maximumCharacters
      s.used items
    let reasons := (items.foldl (step maximumCharacters) s).reasons
    (∀ item ∈ kept.1, reasons.get? item.segmentId = some "SELECTED_BY_PRIORITY") ∧
      ∀ item ∈ kept.2, reasons.get? item.segmentId = some "DROPPED_CONTEXT_BUDGET" := by
  induction items generalizing s with
  | nil => exact ⟨List.forall_mem_nil _, List.forall_mem_nil _⟩
  | cons item items ih =>
    obtain ⟨other, distinct⟩ := List.nodup_cons.mp distinct
    obtain ⟨selected, dropped⟩ := ih (step maximumCharacters s item) distinct
    have own := foldl_step_reasons_of_notMem maximumCharacters (step maximumCharacters s item) other
    dsimp only
    rw [List.foldl_cons, greedy]
    unfold step at selected dropped own ⊢
    split at selected <;> rename_i fits
    · rw [if_pos fits] at dropped own ⊢
      rw [if_pos fits]
      rw [Dict.get?_set, if_pos rfl] at own
      exact ⟨List.forall_mem_cons.mpr ⟨own, selected⟩, dropped⟩
    · rw [if_neg fits] at dropped own ⊢
      rw [if_neg fits]
      rw [Dict.get?_set, if_pos rfl] at own
      exact ⟨selected, List.forall_mem_cons.mpr ⟨own, dropped⟩⟩

theorem requiredSize_sortBy (segments : List ContextSegment) :
    requiredSize (sortBy segmentKey segments) = requiredSize segments :=
  (((sortBy_perm segmentKey segments).filter _).map _).sum_nat

/-- A selection that succeeds is what the loop has collected and counted. -/
theorem eq_of_select {segments : List ContextSegment} {maximumCharacters : ℤ}
    {correlationId : String} {selection : ContextSelection}
    (selected : select segments maximumCharacters correlationId = .ok selection) :
    ∃ s : LoopState, s = (sortBy segmentKey segments).foldl (step maximumCharacters) {} ∧
      selection.selected = s.selected ∧ selection.dropped = s.dropped ∧
      selection.metadata.selectedCharacters = s.used ∧
      selection.metadata.selectedSegmentIds = s.selected.map (fun item => item.segmentId) ∧
      selection.metadata.droppedSegmentIds = s.dropped.map (fun item => item.segmentId) ∧
      selection.metadata.reasonBySegment = s.reasons := by
  unfold select at selected
  split at selected
  · cases selected
  · dsimp only at selected
    split at selected
    · cases selected
    · cases selected
      exact ⟨_, rfl, rfl, rfl, rfl, rfl, rfl, rfl⟩

theorem select_eq_ok {segments : List ContextSegment} {maximumCharacters : ℤ}
    {correlationId : String} {selection : ContextSelection}
    (selected : select segments maximumCharacters correlationId = .ok selection) :
    selection.selected = (pass maximumCharacters segments).1 ∧
      selection.dropped = (pass maximumCharacters segments).2 := by
  obtain ⟨s, rfl, kept, dropped, -⟩ := eq_of_select selected
  have loop := foldl_step maximumCharacters (sortBy segmentKey segments) {}
  exact ⟨kept.trans loop.1, dropped.trans loop.2⟩

/-- Selection succeeds exactly when the budget is positive and holds the
required segments. -/
theorem select_isOk_iff {segments : List ContextSegment} {maximumCharacters : ℤ}
    {correlationId : String} :
    (∃ selection, select segments maximumCharacters correlationId = .ok selection) ↔
      1 ≤ maximumCharacters ∧ (requiredSize segments : ℤ) ≤ maximumCharacters := by
  unfold select
  dsimp only
  rw [requiredSize_sortBy]
  split
  · exact ⟨fun ⟨_, impossible⟩ => (nomatch impossible), fun fits => by omega⟩
  · split
    · exact ⟨fun ⟨_, impossible⟩ => (nomatch impossible), fun fits => by omega⟩
    · exact ⟨fun _ => by omega, fun _ => ⟨_, rfl⟩⟩

theorem mem_of_mem_selected {segments : List ContextSegment} {maximumCharacters : ℤ}
    {correlationId : String} {selection : ContextSelection}
    (selected : select segments maximumCharacters correlationId = .ok selection)
    {item : ContextSegment} (member : item ∈ selection.selected) : item ∈ segments := by
  rw [(select_eq_ok selected).1] at member
  exact (sortBy_perm segmentKey segments).mem_iff.mp
    ((greedy_kept_sublist 0 _).subset member)

end ContextBudgetManager

end Genesis

import Genesis.Research.Risks

/-!
# Comparisons of reordered and of more documents

The order of the documents decides the order of the findings only: the sources
of a hash and of a key are sorted, and the keys of a dictionary are the same in
any order (`compare_perm_of_perm`).  One more document takes no finding back and
removes no source from one (`duplicate_kept`, `conflict_kept`).
-/

namespace Genesis

open Py

namespace DocumentComparisonIntelligence

variable {analysis : DocumentComparisonIntelligence}
  {documents documents' : List ComparableDocument} {requiredFields : List String} {currentYear : ℤ}

/-! ## Order -/

theorem carriers_perm (perm : documents.Perm documents') (contentHash : String) :
    (carriers documents contentHash).Perm (carriers documents' contentHash) :=
  valuesOf_perm (perm.map _)

theorem contributions_perm (perm : documents.Perm documents') (key : String) :
    (analysis.contributions documents key).length = (analysis.contributions documents' key).length ∧
      conflictFinding key (analysis.contributions documents key).values.flatten =
        conflictFinding key (analysis.contributions documents' key).values.flatten := by
  refine ⟨?_, ?_⟩
  · have values : ∀ value, value ∈ (valuesOf key (documents.flatMap analysis.valueEntries)).map
        Prod.fst ↔ value ∈ (valuesOf key (documents'.flatMap analysis.valueEntries)).map Prod.fst :=
      fun value => ((valuesOf_perm (perm.flatMap_right _)).map _).mem_iff
    simp only [contributions, collect_eq, List.length_map]
    exact (fromKeys_perm values).length_eq
  · apply conflictFinding_congr
    intro source
    simp only [mem_contributions_iff, perm.mem_iff]

/-- Reordered documents have the same findings, each as often. -/
theorem compare_perm_of_perm (perm : documents.Perm documents') :
    (analysis.compare documents requiredFields currentYear).Perm
      (analysis.compare documents' requiredFields currentYear) := by
  rw [compare_eq, compare_eq]
  have hashes : (fromKeys (documents.map ComparableDocument.contentHash)).Perm
      (fromKeys (documents'.map ComparableDocument.contentHash)) :=
    fromKeys_perm fun _ => (perm.map _).mem_iff
  have keys : (fromKeys ((documents.flatMap analysis.valueEntries).map Prod.fst)).Perm
      (fromKeys ((documents'.flatMap analysis.valueEntries).map Prod.fst)) :=
    fromKeys_perm fun _ => ((perm.flatMap_right _).map _).mem_iff
  refine ((perm.flatMap_right _).append ?_).append ?_
  · have several : ∀ contentHash, (carriers documents contentHash).length =
        (carriers documents' contentHash).length :=
      fun contentHash => (carriers_perm perm contentHash).length_eq
    have findings : ∀ contentHash, duplicateFinding (carriers documents contentHash) =
        duplicateFinding (carriers documents' contentHash) := by
      intro contentHash
      unfold duplicateFinding
      rw [sorted_eq_of_perm (carriers_perm perm contentHash)]
    simp only [several, findings]
    exact (hashes.filter _).map _
  · have filed : ∀ key, (analysis.contributions documents key).length =
        (analysis.contributions documents' key).length ∧
        conflictFinding key (analysis.contributions documents key).values.flatten =
          conflictFinding key (analysis.contributions documents' key).values.flatten :=
      contributions_perm perm
    simp only [(filed _).1, (filed _).2]
    exact (keys.filter _).map _

/-! ## One more document -/

/-- The findings about single documents are kept in place. -/
theorem findings_prefix_append (more : List ComparableDocument) :
    (analysis.compare documents requiredFields currentYear).filter ofDocument <+:
      (analysis.compare (documents ++ more) requiredFields currentYear).filter ofDocument := by
  rw [filter_ofDocument, filter_ofDocument, List.flatMap_append]
  exact List.prefix_append _ _

theorem duplicate_kept (more : List ComparableDocument) {contentHash : String}
    (found : duplicateFinding (carriers documents contentHash) ∈
      analysis.compare documents requiredFields currentYear) :
    duplicateFinding (carriers (documents ++ more) contentHash) ∈
        analysis.compare (documents ++ more) requiredFields currentYear ∧
      (duplicateFinding (carriers documents contentHash)).sourceIds ⊆
        (duplicateFinding (carriers (documents ++ more) contentHash)).sourceIds := by
  have grown : carriers (documents ++ more) contentHash =
      carriers documents contentHash ++ carriers more contentHash := by
    rw [carriers, hashEntries, List.map_append, valuesOf_append]
    rfl
  rw [duplicateFinding_mem_iff] at found
  refine ⟨?_, ?_⟩
  · rw [duplicateFinding_mem_iff, grown, List.length_append]
    omega
  · intro source member
    rw [duplicateFinding, mem_sorted] at member ⊢
    rw [grown]
    exact List.mem_append_left _ member

theorem conflict_kept (more : List ComparableDocument) {key : String}
    (found : analysis.conflictOver documents key ∈
      analysis.compare documents requiredFields currentYear) :
    analysis.conflictOver (documents ++ more) key ∈
        analysis.compare (documents ++ more) requiredFields currentYear ∧
      (analysis.conflictOver documents key).sourceIds ⊆
        (analysis.conflictOver (documents ++ more) key).sourceIds := by
  rw [conflictOver_mem_iff] at found
  obtain ⟨first, inFirst, second, inSecond, differ⟩ := found
  refine ⟨?_, ?_⟩
  · rw [conflictOver_mem_iff]
    exact ⟨first, List.mem_append_left _ inFirst, second, List.mem_append_left _ inSecond, differ⟩
  · intro source member
    simp only [conflictOver, conflictFinding, mem_sorted, mem_fromKeys, List.filter_append,
      List.map_append, List.mem_append] at member ⊢
    exact .inl member

/-- Reordering the documents changes the order of the findings at most; a further
document keeps every finding, a duplicate or a conflict with all its sources. -/
theorem compare_stable (analysis : DocumentComparisonIntelligence)
    (requiredFields : List String) (currentYear : ℤ) :
    (∀ documents documents' : List ComparableDocument, documents.Perm documents' →
      (analysis.compare documents requiredFields currentYear).Perm
        (analysis.compare documents' requiredFields currentYear)) ∧
    ∀ (documents : List ComparableDocument) (document : ComparableDocument),
      (analysis.compare documents requiredFields currentYear).filter ofDocument <+:
        (analysis.compare (documents ++ [document]) requiredFields currentYear).filter
          ofDocument ∧
      (∀ contentHash, duplicateFinding (carriers documents contentHash) ∈
          analysis.compare documents requiredFields currentYear →
        duplicateFinding (carriers (documents ++ [document]) contentHash) ∈
            analysis.compare (documents ++ [document]) requiredFields currentYear ∧
          (duplicateFinding (carriers documents contentHash)).sourceIds ⊆
            (duplicateFinding (carriers (documents ++ [document]) contentHash)).sourceIds) ∧
      (∀ key, analysis.conflictOver documents key ∈
          analysis.compare documents requiredFields currentYear →
        analysis.conflictOver (documents ++ [document]) key ∈
            analysis.compare (documents ++ [document]) requiredFields currentYear ∧
          (analysis.conflictOver documents key).sourceIds ⊆
            (analysis.conflictOver (documents ++ [document]) key).sourceIds) ∧
      ∀ finding ∈ analysis.compare documents requiredFields currentYear,
        ofDocument finding = true ∨
        (∃ contentHash, finding = duplicateFinding (carriers documents contentHash)) ∨
        ∃ key, finding = analysis.conflictOver documents key := by
  refine ⟨fun _ _ perm => compare_perm_of_perm perm, ?_⟩
  intro documents document
  refine ⟨findings_prefix_append [document], fun _ found => duplicate_kept [document] found,
    fun _ found => conflict_kept [document] found, ?_⟩
  intro finding member
  rcases mem_compare_iff.mp member with ⟨_, -, found⟩ | ⟨contentHash, -, same⟩ | ⟨key, -, same⟩
  · left
    rcases kind_of_mem_documentFindings found with kind | kind <;> simp [ofDocument, kind]
  · exact .inr (.inl ⟨contentHash, same⟩)
  · exact .inr (.inr ⟨key, same⟩)

end DocumentComparisonIntelligence

end Genesis

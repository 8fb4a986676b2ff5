import Genesis.Memory.Ranking

/-!
# Ranking a ranked bundle

The positions that break ties in the source are what a stable sort keeps
anyway: `kept_eq` has the kept items as the head of one stable sort by score.
Sorting and cutting twice is then cutting once at the smaller size
(`kept_kept`), and the references filtered for the smaller cut are among those
filtered for the larger one (`filter_citedBy`).
-/

namespace Genesis

open Py Priority

namespace EvidenceAwareRanker

variable {ranker : EvidenceAwareRanker} {bundle : JsonObject} {items : List JsonObject}
  {query : String} {m n : ℤ}

/-- The score the item has for the query. -/
def scoreFor (ranker : EvidenceAwareRanker) (query : String) (item : JsonObject) : ℕ :=
  ranker.score (ranker.queryTerms query) item

/-- The kept items are the head of the items in stable order of falling score. -/
theorem kept_eq :
    ranker.kept items query m =
      (sortBy (fun item => -(ranker.scoreFor query item : ℤ)) items).take m.toNat := by
  let mark : JsonObject × ℕ → Scored := fun entry =>
    { score := ranker.scoreFor query entry.1, index := entry.2, item := entry.1 }
  have byScore := sortBy_zipIdx (fun item => -(ranker.scoreFor query item : ℤ)) items 0
  have marked : (sortBy scoreKey (items.zipIdx.map mark)).map Scored.item =
      sortBy (fun item => -(ranker.scoreFor query item : ℤ)) items := by
    rw [sortBy_map, List.map_map, ← byScore]
    rfl
  rw [kept, List.map_take, ← marked]
  rfl

theorem toNat_min (m n : ℤ) : (min m n).toNat = min n.toNat m.toNat := by
  omega

theorem kept_kept :
    ranker.kept (ranker.kept items query m) query n = ranker.kept items query (min m n) := by
  have outer : ranker.kept (ranker.kept items query m) query n =
      (sortBy (fun item => -(ranker.scoreFor query item : ℤ))
        (ranker.kept items query m)).take n.toNat := kept_eq
  rw [outer, kept_eq, kept_eq, sortBy_take_sortBy, List.take_take, toNat_min]

/-- A smaller cut is the head of a larger one. -/
theorem kept_prefix_of_le (le : m ≤ n) :
    ranker.kept items query m <+: ranker.kept items query n := by
  have smaller : m.toNat ≤ n.toNat := by omega
  rw [kept_eq, kept_eq]
  exact List.take_prefix_take_left smaller

/-- The kept items of one score are the first of that score in the bundle, in its order. -/
theorem filter_kept_prefix_of_le (score : ℕ) :
    ((ranker.kept items query m).filter fun item => ranker.scoreFor query item = score) <+:
      items.filter fun item => ranker.scoreFor query item = score := by
  have ofScore : (sortBy (fun item => -(ranker.scoreFor query item : ℤ)) items).filter
      (fun item => ranker.scoreFor query item = score) =
      items.filter fun item => ranker.scoreFor query item = score := by
    rw [filter_sortBy]
    apply sortBy_eq_self_of_tied (k := -(score : ℤ))
    intro item member
    have tied : ranker.scoreFor query item = score :=
      of_decide_eq_true (List.mem_filter.mp member).2
    rw [tied]
  rw [kept_eq, ← ofScore]
  exact (List.take_prefix _ _).filter _

/-! ## References -/

/-- The reference is an object with the evidence id of one of the items. -/
def citedBy (ranker : EvidenceAwareRanker) (selected : List JsonObject) (ref : Json) : Bool :=
  ref.dict?.any (ranker.isCited (selected.map ranker.evidenceText))

theorem citedBy_iff {selected : List JsonObject} {ref : Json} :
    ranker.citedBy selected ref = true ↔
      ∃ fields, ref = .obj fields ∧
        ∃ item ∈ selected, ranker.evidenceText item = ranker.evidenceText fields := by
  simp only [citedBy, Option.any_eq_true, Json.dict?_eq_some_iff, isCited, decide_eq_true_eq,
    List.mem_map, evidenceText]

theorem citedBy_mono {fewer more : List JsonObject} (subset : fewer ⊆ more) {ref : Json}
    (cited : ranker.citedBy fewer ref = true) : ranker.citedBy more ref = true := by
  obtain ⟨fields, isObject, item, inFewer, same⟩ := citedBy_iff.mp cited
  exact citedBy_iff.mpr ⟨fields, isObject, item, subset inFewer, same⟩

theorem cited?_eq (selected : List JsonObject) (ref : Json) :
    ranker.cited? (selected.map ranker.evidenceText) ref =
      if ranker.citedBy selected ref then some ref else none := by
  unfold cited? citedBy isCited
  cases ref.dict? with
  | none => rfl
  | some fields => simp

theorem filterMap_cited?_eq (selected : List JsonObject) (refs : List Json) :
    refs.filterMap (ranker.cited? (selected.map ranker.evidenceText)) =
      refs.filter (ranker.citedBy selected) := by
  rw [← List.filterMap_eq_filter]
  apply List.filterMap_congr
  intro ref _
  rw [cited?_eq, Option.guard]

/-- A smaller selection finds its references among those of a larger one. -/
theorem filter_citedBy {fewer more : List JsonObject} (subset : fewer ⊆ more) (refs : List Json) :
    (refs.filter (ranker.citedBy more)).filter (ranker.citedBy fewer) =
      refs.filter (ranker.citedBy fewer) := by
  rw [List.filter_filter]
  apply List.filter_congr
  intro ref _
  cases cited : ranker.citedBy fewer ref with
  | false => rfl
  | true => rw [citedBy_mono subset cited]; rfl

/-! ## Composition -/

/-- `context_bundle.get("evidence_refs", [])` as a sequence. -/
def evidenceRefs (bundle : JsonObject) : Option (List Json) :=
  ((bundle.get? "evidence_refs").getD (.arr [])).iterate?

theorem filterRefs_eq (selected : List JsonObject) :
    ranker.filterRefs bundle (selected.map ranker.evidenceText) =
      match evidenceRefs bundle with
      | none => .error .typeError
      | some refs => .ok (refs.filter (ranker.citedBy selected)) := by
  unfold filterRefs evidenceRefs
  cases ((bundle.get? "evidence_refs").getD (.arr [])).iterate? with
  | none => rfl
  | some refs => exact congrArg Except.ok (filterMap_cited?_eq selected refs)

theorem get?_items_ranked (selected : List JsonObject) (refs : List Json) :
    (ranked bundle selected refs).get? "items" = some (.arr (selected.map Json.obj)) := by
  simp [ranked, Dict.get?_set]

theorem get?_evidenceRefs_ranked (selected : List JsonObject) (refs : List Json) :
    (ranked bundle selected refs).get? "evidence_refs" = some (.arr refs) := by
  simp [ranked, Dict.get?_set]

/-- Ranking overwrites what an earlier ranking wrote. -/
theorem ranked_ranked (first second : List JsonObject) (refs others : List Json) :
    ranked (ranked bundle first refs) second others = ranked bundle second others := by
  unfold ranked
  rw [Dict.set_set_set (by decide), Dict.set_set_set (by decide)]

section

variable (hasItems : bundle.get? "items" = some (.arr (items.map Json.obj)))
  (carry : ∀ item ∈ items, ∃ value, item.get? "evidence_id" = some value)
include hasItems carry

/-- What a successful ranking returns. -/
theorem rank_eq_ok_iff (bounded : 1 ≤ m ∧ m ≤ 50) {output : JsonObject} :
    ranker.rank bundle query m = .ok output ↔
      ∃ refs, evidenceRefs bundle = some refs ∧
        output = ranked bundle (ranker.kept items query m)
          (refs.filter (ranker.citedBy (ranker.kept items query m))) := by
  have keptCarry : ∀ item ∈ ranker.kept items query m,
      ∃ value, item.get? "evidence_id" = some value :=
    fun item member => carry item (kept_subperm.subset member)
  rw [rank_eq ranker query bounded hasItems keptCarry, filterRefs_eq]
  cases evidenceRefs bundle with
  | none => simp [Except.map]
  | some refs => simp [Except.map, eq_comm]

/-- Ranking a ranked bundle is ranking once at the smaller size. -/
theorem rank_bind_rank (m_bounded : 1 ≤ m ∧ m ≤ 50) (n_bounded : 1 ≤ n ∧ n ≤ 50) :
    ((ranker.rank bundle query m).bind fun first => ranker.rank first query n) =
      ranker.rank bundle query (min m n) := by
  have min_bounded : 1 ≤ min m n ∧ min m n ≤ 50 := by omega
  have keptCarry : ∀ k, ∀ item ∈ ranker.kept items query k,
      ∃ value, item.get? "evidence_id" = some value :=
    fun k item member => carry item (kept_subperm.subset member)
  rw [rank_eq ranker query m_bounded hasItems (keptCarry m),
    rank_eq ranker query min_bounded hasItems (keptCarry _), filterRefs_eq, filterRefs_eq]
  cases evidenceRefs bundle with
  | none => rfl
  | some refs =>
    have subset : ranker.kept items query (min m n) ⊆ ranker.kept items query m :=
      (kept_prefix_of_le (min_le_left m n)).subset
    have again : ranker.rank (ranked bundle (ranker.kept items query m)
        (refs.filter (ranker.citedBy (ranker.kept items query m)))) query n =
        .ok (ranked bundle (ranker.kept items query (min m n))
          (refs.filter (ranker.citedBy (ranker.kept items query (min m n))))) := by
      rw [rank_eq ranker query n_bounded (get?_items_ranked _ _)
        (by rw [kept_kept]; exact keptCarry _), kept_kept, filterRefs_eq, evidenceRefs,
        get?_evidenceRefs_ranked]
      simp only [Option.getD_some, Json.iterate?, Except.map, filter_citedBy subset, ranked_ranked]
    exact again

/-- Ranking twice is ranking once at the smaller size; a smaller cut is the head
of a larger one, tied items stay in order, and the references are those whose
evidence id a kept item has. -/
theorem rank_composes (ranker : EvidenceAwareRanker) (query : String)
    (m_bounded : 1 ≤ m ∧ m ≤ 50) (n_bounded : 1 ≤ n ∧ n ≤ 50) :
    ((ranker.rank bundle query m).bind fun first => ranker.rank first query n) =
        ranker.rank bundle query (min m n) ∧
      ((ranker.rank bundle query m).bind fun first => ranker.rank first query m) =
        ranker.rank bundle query m ∧
      (m ≤ n → ranker.kept items query m <+: ranker.kept items query n) ∧
      (∀ score, ((ranker.kept items query m).filter
          fun item => ranker.scoreFor query item = score) <+:
        items.filter fun item => ranker.scoreFor query item = score) ∧
      ∀ output, ranker.rank bundle query m = .ok output →
        output.get? "items" = some (.arr ((ranker.kept items query m).map Json.obj)) ∧
        ∃ refs, evidenceRefs bundle = some refs ∧ output.get? "evidence_refs" =
          some (.arr (refs.filter (ranker.citedBy (ranker.kept items query m)))) := by
  refine ⟨rank_bind_rank hasItems carry m_bounded n_bounded, ?_, kept_prefix_of_le,
    filter_kept_prefix_of_le, ?_⟩
  · rw [rank_bind_rank hasItems carry m_bounded m_bounded, min_self]
  · intro output ranks
    obtain ⟨refs, sequence, rfl⟩ := (rank_eq_ok_iff hasItems carry m_bounded).mp ranks
    exact ⟨get?_items_ranked _ _, refs, sequence, get?_evidenceRefs_ranked _ _⟩

end

/-- Two items of equal score and one of a higher one. -/
def findings : List JsonObject :=
  [[("evidence_id", .str "e1"), ("value", .str "policy")],
    [("evidence_id", .str "e2"), ("value", .str "finance policy")],
    [("evidence_id", .str "e1"), ("value", .str "a policy")]]

def findingsBundle : JsonObject :=
  [("items", .arr (findings.map Json.obj)),
    ("evidence_refs", .arr [.obj [("evidence_id", .str "e1")], .obj [("evidence_id", .str "e2")]])]

theorem rank_composes_findings :
    ((rank ⟨.sample, .ascii⟩ findingsBundle "finance policy" 2).bind fun first =>
      rank ⟨.sample, .ascii⟩ first "finance policy" 1) =
        rank ⟨.sample, .ascii⟩ findingsBundle "finance policy" 1 := by
  have hasItems : findingsBundle.get? "items" = some (.arr (findings.map Json.obj)) := rfl
  have carry : ∀ item ∈ findings, ∃ value, item.get? "evidence_id" = some value := by
    simp only [findings, List.forall_mem_cons]
    exact ⟨⟨_, rfl⟩, ⟨_, rfl⟩, ⟨_, rfl⟩, List.forall_mem_nil _⟩
  exact (rank_composes hasItems carry ⟨.sample, .ascii⟩ "finance policy" ⟨by decide, by decide⟩
    ⟨by decide, by decide⟩).1

end EvidenceAwareRanker

end Genesis

import Mathlib.Data.Prod.Lex
import Genesis.Lib.Priority
import Genesis.Lib.Text
import Genesis.Platform

/-!
# Evidence-aware ranking

`EvidenceAwareRanker.rank` keeps the items of a context bundle that match a
query best, and the evidence references they cite.  `rank_eq` computes the
result for a bundle whose items are objects that carry an evidence id,
`rank_eq_ok` where the ids are text and the references objects.
-/

namespace Genesis

open Py Priority

structure EvidenceAwareRanker where
  platform : Platform
  unicode : Unicode

namespace EvidenceAwareRanker

/-- An item with its score and its position in the bundle. -/
structure Scored where
  score : ℕ
  index : ℕ
  item : JsonObject

/-- `set(re.findall(r"[a-z0-9_]+", query.casefold()))`. -/
def queryTerms (ranker : EvidenceAwareRanker) (query : String) : List String :=
  fromKeys (findallRuns isWordChar (ranker.unicode.casefold query))

/-- The number of terms in the value of an item. -/
def score (ranker : EvidenceAwareRanker) (terms : List String) (item : JsonObject) : ℕ :=
  let searchable := ranker.unicode.casefold
    (ranker.platform.dumps ((item.get? "value").getD .null))
  (terms.filter fun term => isIn term searchable).length

/-- The body of the scoring loop. -/
def scored (ranker : EvidenceAwareRanker) (terms : List String) (entry : Json × ℕ) :
    Except PyException Scored :=
  match entry.1.dict? with
  | none => .error (.valueError "ContextBundle item must be an object")
  | some item => .ok { score := ranker.score terms item, index := entry.2, item }

/-- `(-score, index)`. -/
def scoreKey (entry : Scored) : ℤ ×ₗ ℕ := toLex (-(entry.score : ℤ), entry.index)

/-- The items to be ranked. -/
def itemsOf (contextBundle : JsonObject) : Except PyException (List Json) :=
  match contextBundle.get? "items" with
  | some (.arr items) => .ok items
  | _ => .error (.valueError "ContextBundle items must be an array")

/-- `str(item["evidence_id"])`. -/
def evidenceId (ranker : EvidenceAwareRanker) (item : JsonObject) : Except PyException String := do
  let value ← Genesis.item item "evidence_id"
  pure (ranker.platform.str value)

/-- The reference, if it is an object that one of the ids names. -/
def cited? (ranker : EvidenceAwareRanker) (selectedEvidence : List String) (ref : Json) :
    Option Json :=
  ref.dict?.bind fun fields =>
    if ranker.platform.str ((fields.get? "evidence_id").getD .null) ∈ selectedEvidence then some ref
    else none

/-- `[... for ref in evidence_refs if ...]`. -/
def filterRefs (ranker : EvidenceAwareRanker) (contextBundle : JsonObject)
    (selectedEvidence : List String) : Except PyException (List Json) :=
  match ((contextBundle.get? "evidence_refs").getD (.arr [])).iterate? with
  | none => .error .typeError
  | some refs => .ok (refs.filterMap (ranker.cited? selectedEvidence))

/-- `rank`. -/
def rank (ranker : EvidenceAwareRanker) (contextBundle : JsonObject) (query : String)
    (maxItems : ℤ) : Except PyException JsonObject := do
  raiseUnless (1 ≤ maxItems ∧ maxItems ≤ 50) (.valueError "max_items must be between 1 and 50")
  let items ← itemsOf contextBundle
  let scored ← items.zipIdx.mapM (ranker.scored (ranker.queryTerms query))
  let selected := ((sortBy scoreKey scored).take maxItems.toNat).map Scored.item
  let selectedEvidence ← selected.mapM ranker.evidenceId
  let filteredRefs ← ranker.filterRefs contextBundle selectedEvidence
  pure ((contextBundle.set "items" (.arr (selected.map Json.obj))).set "evidence_refs"
    (.arr filteredRefs))

/-! ## Ranking well-formed bundles -/

section

variable {ranker : EvidenceAwareRanker} {document : JsonObject} {items refs : List JsonObject}
  {query : String} {maxItems : ℤ}

/-- The scored items, in the order of the bundle. -/
def scoredItems (ranker : EvidenceAwareRanker) (terms : List String) (items : List JsonObject) :
    List Scored :=
  items.zipIdx.map fun entry =>
    { score := ranker.score terms entry.1, index := entry.2, item := entry.1 }

/-- The items that are kept. -/
def kept (ranker : EvidenceAwareRanker) (items : List JsonObject) (query : String)
    (maxItems : ℤ) : List JsonObject :=
  ((sortBy scoreKey (ranker.scoredItems (ranker.queryTerms query) items)).take
    maxItems.toNat).map Scored.item

theorem mapM_scored (ranker : EvidenceAwareRanker) (terms : List String) (items : List JsonObject)
    (start : ℕ) :
    ((items.map Json.obj).zipIdx start).mapM (ranker.scored terms) =
      .ok ((items.zipIdx start).map fun entry =>
        { score := ranker.score terms entry.1, index := entry.2, item := entry.1 }) := by
  induction items generalizing start with
  | nil => rfl
  | cons item items ih =>
    rw [List.map_cons, List.zipIdx_cons, List.mapM_cons, ih]
    rfl

/-- `str(entry.get("evidence_id"))`. -/
def evidenceText (ranker : EvidenceAwareRanker) (entry : JsonObject) : String :=
  ranker.platform.str ((entry.get? "evidence_id").getD .null)

/-- The bundle with its items and its evidence references replaced. -/
def ranked (contextBundle : JsonObject) (selected : List JsonObject) (filteredRefs : List Json) :
    JsonObject :=
  (contextBundle.set "items" (.arr (selected.map Json.obj))).set "evidence_refs" (.arr filteredRefs)

theorem mapM_evidenceId (carry : ∀ item ∈ items, ∃ value, item.get? "evidence_id" = some value) :
    items.mapM ranker.evidenceId = .ok (items.map ranker.evidenceText) := by
  induction items with
  | nil => rfl
  | cons item items ih =>
    obtain ⟨⟨value, carries⟩, others⟩ := List.forall_mem_cons.mp carry
    have first : ranker.evidenceId item = .ok (ranker.evidenceText item) := by
      rw [evidenceId, evidenceText, item_eq_ok_iff.mpr carries, carries]
      rfl
    rw [List.mapM_cons, first, ih others]
    rfl

/-- Ranking a bundle whose items are objects that carry an evidence id. -/
theorem rank_eq (ranker : EvidenceAwareRanker) (query : String)
    (bounded : 1 ≤ maxItems ∧ maxItems ≤ 50)
    (hasItems : document.get? "items" = some (.arr (items.map Json.obj)))
    (carry : ∀ item ∈ ranker.kept items query maxItems,
      ∃ value, item.get? "evidence_id" = some value) :
    ranker.rank document query maxItems =
      (ranker.filterRefs document ((ranker.kept items query maxItems).map ranker.evidenceText)).map
        (ranked document (ranker.kept items query maxItems)) := by
  have bound : raiseUnless (1 ≤ maxItems ∧ maxItems ≤ 50)
      (.valueError "max_items must be between 1 and 50") = .ok () :=
    raiseUnless_eq_ok_iff.mpr bounded
  have list : itemsOf document = .ok (items.map Json.obj) := by
    rw [itemsOf, hasItems]
  have scoring := mapM_scored ranker (ranker.queryTerms query) items 0
  unfold rank
  rw [bound, list]
  dsimp only [bind, Except.bind]
  rw [scoring]
  dsimp only
  rw [← scoredItems, ← kept, mapM_evidenceId carry]
  rfl

/-- The kept items are among the items, none more often than there. -/
theorem kept_subperm : (ranker.kept items query maxItems).Subperm items := by
  have sorted := (sortBy_perm scoreKey (ranker.scoredItems (ranker.queryTerms query) items)).map
    Scored.item
  have same : (ranker.scoredItems (ranker.queryTerms query) items).map Scored.item = items := by
    rw [scoredItems, List.map_map]
    exact List.zipIdx_map_fst 0 items
  rw [same] at sorted
  exact ((List.take_sublist _ _).map _).subperm.trans sorted.subperm

theorem length_kept :
    (ranker.kept items query maxItems).length = min maxItems.toNat items.length := by
  have sorted := (sortBy_perm scoreKey
    (ranker.scoredItems (ranker.queryTerms query) items)).length_eq
  rw [scoredItems, List.length_map, List.length_zipIdx] at sorted
  rw [kept, List.length_map, List.length_take, scoredItems, sorted]

/-- The document has an evidence id, and it is text. -/
def Names (document : JsonObject) (evidenceId : String) : Prop :=
  document.get? "evidence_id" = some (.str evidenceId)

theorem evidenceId_of_names {id : String} (names : Names document id) :
    ranker.evidenceId document = .ok id := by
  rw [evidenceId, item_eq_ok_iff.mpr names]
  rfl

/-- The ids of documents that have one. -/
theorem exists_mapM_evidenceId (ranker : EvidenceAwareRanker)
    (named : ∀ item ∈ items, ∃ id, Names item id) :
    ∃ ids, items.mapM ranker.evidenceId = .ok ids ∧
      ∀ id, id ∈ ids ↔ ∃ item ∈ items, Names item id := by
  induction items with
  | nil => exact ⟨[], rfl, by simp⟩
  | cons item items ih =>
    obtain ⟨⟨first, names⟩, others⟩ := List.forall_mem_cons.mp named
    obtain ⟨ids, collected, mem⟩ := ih others
    refine ⟨first :: ids, ?_, ?_⟩
    · rw [List.mapM_cons, evidenceId_of_names names, collected]
      rfl
    · intro id
      have same : id = first ↔ Names item id := by
        rw [Names, names, Option.some.injEq, Json.str.injEq]
        exact eq_comm
      rw [List.mem_cons, mem, same, List.exists_mem_cons_iff]

/-- The reference has one of the ids. -/
def isCited (ranker : EvidenceAwareRanker) (ids : List String) (ref : JsonObject) : Bool :=
  ranker.platform.str ((ref.get? "evidence_id").getD .null) ∈ ids

theorem filterMap_cited (ids : List String) :
    (refs.map Json.obj).filterMap (ranker.cited? ids) =
      (refs.filter (ranker.isCited ids)).map Json.obj := by
  induction refs with
  | nil => rfl
  | cons ref refs ih =>
    rw [List.map_cons, List.filterMap_cons, List.filter_cons, ih, isCited]
    unfold cited?
    by_cases listed : ranker.platform.str ((ref.get? "evidence_id").getD .null) ∈ ids
    · simp [listed, Json.dict?]
    · simp [listed, Json.dict?]

theorem isCited_iff {ids : List String} {ref : JsonObject} {id : String} (names : Names ref id) :
    ranker.isCited ids ref = true ↔ id ∈ ids := by
  rw [isCited, decide_eq_true_eq, names]
  rfl

/-- Ranking a bundle whose items are objects with an evidence id. -/
theorem rank_eq_ok (ranker : EvidenceAwareRanker) (query : String)
    (bounded : 1 ≤ maxItems ∧ maxItems ≤ 50)
    (hasItems : document.get? "items" = some (.arr (items.map Json.obj)))
    (hasRefs : document.get? "evidence_refs" = some (.arr (refs.map Json.obj)))
    (named : ∀ item ∈ items, ∃ id, Names item id) :
    ∃ ids, (∀ id, id ∈ ids ↔ ∃ item ∈ ranker.kept items query maxItems, Names item id) ∧
      ranker.rank document query maxItems =
        .ok ((document.set "items" (.arr ((ranker.kept items query maxItems).map Json.obj))).set
          "evidence_refs" (.arr ((refs.filter (ranker.isCited ids)).map Json.obj))) := by
  have keptNamed : ∀ item ∈ ranker.kept items query maxItems, ∃ id, Names item id :=
    fun item member => named item (kept_subperm.subset member)
  obtain ⟨ids, collected, mem⟩ := exists_mapM_evidenceId ranker keptNamed
  refine ⟨ids, mem, ?_⟩
  have carry : ∀ item ∈ ranker.kept items query maxItems,
      ∃ value, item.get? "evidence_id" = some value := by
    intro item member
    obtain ⟨id, names⟩ := keptNamed item member
    exact ⟨.str id, names⟩
  have texts : (ranker.kept items query maxItems).map ranker.evidenceText = ids :=
    Except.ok.inj ((mapM_evidenceId carry).symm.trans collected)
  have filtered : ranker.filterRefs document ids =
      .ok ((refs.filter (ranker.isCited ids)).map Json.obj) := by
    rw [filterRefs, hasRefs, ← filterMap_cited]
    rfl
  rw [rank_eq ranker query bounded hasItems carry, texts, filtered]
  rfl

end

end EvidenceAwareRanker

end Genesis

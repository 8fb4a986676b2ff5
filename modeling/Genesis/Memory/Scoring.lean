import Genesis.Lib.Words
import Genesis.Memory.Composition

/-!
# What a score counts

The score of an item is taken on `json.dumps` of its value.  For a text that is
a string literal, in which letters stand for every character outside printable
ASCII.  `hits` counts the query's terms in the text itself; `scoreFor_eq_iff`
says for which texts the two agree on every query.
-/

namespace Genesis

open Py Priority

/-- The spelling of the text as a string literal neither adds words to the
folded text nor takes words from it. -/
structure SpeltAsRead (unicode : Unicode) (v : String) : Prop where
  /-- The letters of an escape, with the printable text after it, form no word
  that the text does not have. -/
  nothingAdded : ∀ word, IsTerm word → ∀ before c stretch after,
    v.toList = before ++ c :: (stretch ++ after) → isPrintable c = false →
    (∀ d ∈ stretch, isPrintable d = true) →
    word <:+: spelled [c] ++ stretch.map Char.toLower → word <:+: (unicode.casefold v).toList
  /-- What an escaped character contributes to a word of the folded text is not
  the only place where the word stands. -/
  nothingLost : ∀ word, IsTerm word → word <:+: (unicode.casefold v).toList →
    Spells v.toList word

namespace EvidenceAwareRanker

variable {ranker : EvidenceAwareRanker} {v : String}

/-- The number of the query's terms in the text. -/
def hits (ranker : EvidenceAwareRanker) (query v : String) : ℕ :=
  ((ranker.queryTerms query).filter fun term => isIn term (ranker.unicode.casefold v)).length

/-- A text spelt as it reads has the words of its spelling. -/
theorem speltAsRead_iff (folds : ranker.unicode.Folds) :
    SpeltAsRead ranker.unicode v ↔
      ∀ word, IsTerm word →
        (word <:+: spelled v.toList ↔ word <:+: (ranker.unicode.casefold v).toList) := by
  refine ⟨?_, ?_⟩
  · intro spelt word isTerm
    rw [infix_spelled_iff isTerm]
    refine ⟨?_, spelt.nothingLost word isTerm⟩
    intro spells
    cases spells with
    | stretch before stretch after split printable inside =>
      exact inside.trans (infix_casefold_of_printable folds split printable)
    | escape before c stretch after split escaped printable inside =>
      exact spelt.nothingAdded word isTerm before c stretch after split escaped printable inside
  · intro agree
    refine ⟨?_, ?_⟩
    · intro word isTerm before c stretch after split escaped printable inside
      exact (agree word isTerm).mp ((infix_spelled_iff isTerm).mpr
        (.escape before c stretch after split escaped printable inside))
    · intro word isTerm inText
      exact (infix_spelled_iff isTerm).mp ((agree word isTerm).mpr inText)

/-- Printable text is spelt as it reads. -/
theorem speltAsRead_of_printable (folds : ranker.unicode.Folds)
    (printable : ∀ c ∈ v.toList, isPrintable c = true) : SpeltAsRead ranker.unicode v := by
  refine ⟨?_, ?_⟩
  · intro word _ before c stretch after split escaped
    have known := printable c (by rw [split]; simp)
    rw [escaped] at known
    cases known
  · intro word _ inText
    have ascii : ∀ c ∈ v.toList, c.toNat < 128 := by
      intro c member
      have range := printable c member
      simp only [isPrintable, Bool.and_eq_true, decide_eq_true_eq] at range
      omega
    rw [folds.ascii v ascii, String.toList_ofList] at inText
    exact .stretch [] v.toList [] (by simp) printable inText

/-! ## Scores -/

theorem isTerm_of_mem_queryTerms {query term : String} (member : term ∈ ranker.queryTerms query) :
    IsTerm term.toList :=
  isTerm_of_mem_findallRuns (mem_fromKeys.mp member)

/-- A term is a query that asks for it alone. -/
theorem queryTerms_of_isTerm (folds : ranker.unicode.Folds) {word : List Char}
    (isTerm : IsTerm word) : ranker.queryTerms (String.ofList word) = [String.ofList word] := by
  have lowered : word.map Char.toLower = word := by
    rw [List.map_congr_left fun c member => (toLower_of_isWordChar (isTerm.2 c member)).2]
    exact List.map_id word
  have folded : ranker.unicode.casefold (String.ofList word) = String.ofList word := by
    rw [folds.ascii, String.toList_ofList, lowered]
    intro c member
    rw [String.toList_ofList] at member
    exact (toLower_of_isWordChar (isTerm.2 c member)).1
  rw [queryTerms, folded, findallRuns_of_isTerm isTerm]
  rfl

/-- The score of a text counts the terms in its spelling. -/
theorem scoreFor_eq (folds : ranker.unicode.Folds) {item : JsonObject} (query : String)
    (hasValue : item.get? "value" = some (.str v)) :
    ranker.scoreFor query item =
      ((ranker.queryTerms query).filter fun term => term.toList <:+: spelled v.toList).length := by
  have text : ranker.platform.dumps ((item.get? "value").getD .null) =
      String.ofList (Json.quote v) := by
    rw [hasValue]
    rfl
  rw [scoreFor, score, text]
  congr 1
  apply List.filter_congr
  intro term member
  rw [Bool.eq_iff_iff, decide_eq_true_iff]
  exact isIn_casefold_quote_iff folds (isTerm_of_mem_queryTerms member)

/-- The score counts the terms in the text itself, for every query, exactly when
the text is spelt as it reads. -/
theorem scoreFor_eq_iff (folds : ranker.unicode.Folds) :
    (∀ query item, item.get? "value" = some (.str v) →
      ranker.scoreFor query item = ranker.hits query v) ↔ SpeltAsRead ranker.unicode v := by
  rw [speltAsRead_iff folds]
  refine ⟨?_, ?_⟩
  · intro counts word isTerm
    -- the word alone is the query that tells the two apart
    have asked := counts (String.ofList word) [("value", .str v)] rfl
    rw [scoreFor_eq folds _ rfl, hits, queryTerms_of_isTerm folds isTerm] at asked
    simp only [List.filter_cons, List.filter_nil, String.toList_ofList, decide_eq_true_eq,
      isIn_iff] at asked
    split_ifs at asked <;> simp_all
  · intro agree query item hasValue
    rw [scoreFor_eq folds query hasValue, hits]
    congr 1
    apply List.filter_congr
    intro term member
    rw [Bool.eq_iff_iff, decide_eq_true_iff, isIn_iff]
    exact agree _ (isTerm_of_mem_queryTerms member)

/-! ## Ranks -/

/-- The number of the query's terms in the value of an item, where it is a text. -/
def itemHits (ranker : EvidenceAwareRanker) (query : String) (item : JsonObject) : ℕ :=
  match item.get? "value" with
  | some (.str v) => ranker.hits query v
  | _ => 0

/-- Items spelt as they read are ranked by their hits: none without a hit comes
before one that has some, among the kept items or by being kept itself. -/
theorem kept_pairwise_hits (folds : ranker.unicode.Folds) {items : List JsonObject}
    (spelt : ∀ item ∈ items, ∃ v, item.get? "value" = some (.str v) ∧
      SpeltAsRead ranker.unicode v) (query : String) (maxItems : ℤ) :
    ∃ dropped, (ranker.kept items query maxItems ++ dropped).Perm items ∧
      (ranker.kept items query maxItems ++ dropped).Pairwise
        fun first second => ranker.itemHits query second ≤ ranker.itemHits query first := by
  let sorted := sortBy (fun item => -(ranker.scoreFor query item : ℤ)) items
  have whole : ranker.kept items query maxItems ++ sorted.drop maxItems.toNat = sorted := by
    rw [kept_eq]
    exact List.take_append_drop _ _
  have perm : sorted.Perm items := sortBy_perm _ _
  refine ⟨sorted.drop maxItems.toNat, by rwa [whole], ?_⟩
  rw [whole]
  have ordered : sorted.Pairwise fun first second =>
      -(ranker.scoreFor query first : ℤ) ≤ -(ranker.scoreFor query second : ℤ) :=
    sortBy_pairwise _ _
  refine ordered.imp_of_mem ?_
  intro first second inSorted inSorted' le
  have counted : ∀ item ∈ sorted, ranker.scoreFor query item = ranker.itemHits query item := by
    intro item member
    obtain ⟨v, hasValue, speltAsRead⟩ := spelt item (perm.mem_iff.mp member)
    rw [(scoreFor_eq_iff folds).mpr speltAsRead query item hasValue, itemHits, hasValue]
  rw [counted first inSorted, counted second inSorted'] at le
  omega

/-- The score of a text counts the query's terms in it, for every query, exactly
when the text is spelt as it reads, as printable ASCII is; among such texts none
without a query term outranks one with some. -/
theorem score_counts_iff (ranker : EvidenceAwareRanker) (folds : ranker.unicode.Folds) :
    (∀ v, (∀ query item, item.get? "value" = some (.str v) →
      ranker.scoreFor query item = ranker.hits query v) ↔ SpeltAsRead ranker.unicode v) ∧
    (∀ v : String, (∀ c ∈ v.toList, isPrintable c = true) → SpeltAsRead ranker.unicode v) ∧
    ∀ items, (∀ item ∈ items, ∃ v, item.get? "value" = some (.str v) ∧
      SpeltAsRead ranker.unicode v) → ∀ query maxItems,
      ∃ dropped, (ranker.kept items query maxItems ++ dropped).Perm items ∧
        (ranker.kept items query maxItems ++ dropped).Pairwise
          fun first second => ranker.itemHits query second ≤ ranker.itemHits query first := by
  refine ⟨fun v => scoreFor_eq_iff folds, fun v => speltAsRead_of_printable folds, ?_⟩
  intro items spelt query maxItems
  exact kept_pairwise_hits folds spelt query maxItems

/-! ## Line breaks -/

/-- The words of a text that is searched for words. -/
def wordsIn (text : List Char) : List (List Char) :=
  (text.tails.flatMap List.inits).filter fun word => word ≠ [] && word.all isWordChar

theorem mem_wordsIn {word text : List Char} (inside : word <:+: text) (nonempty : word ≠ [])
    (each : ∀ c ∈ word, isWordChar c = true) : word ∈ wordsIn text := by
  obtain ⟨suffix, begins, ends⟩ := List.infix_iff_prefix_suffix.mp inside
  refine List.mem_filter.mpr ⟨List.mem_flatMap.mpr ⟨suffix, ?_, ?_⟩, ?_⟩
  · exact (List.mem_tails _ _).mpr ends
  · exact (List.mem_inits _ _).mpr begins
  · rw [decide_eq_true nonempty, List.all_eq_true.mpr each]
    rfl

/-- A text with a line break and quotes, whose spelling has no other words. -/
def quotedPlan : String := "Finance\n \"plan\"."

theorem quotedPlan_spelt : SpeltAsRead .ascii quotedPlan := by
  have forth : ∀ word ∈ wordsIn (spelled quotedPlan.toList),
      word <:+: (Unicode.ascii.casefold quotedPlan).toList := by
    decide +kernel
  have back : ∀ word ∈ wordsIn (Unicode.ascii.casefold quotedPlan).toList,
      word <:+: spelled quotedPlan.toList := by
    decide +kernel
  refine (@speltAsRead_iff ⟨.sample, .ascii⟩ quotedPlan Unicode.ascii_folds).mpr ?_
  rintro word ⟨nonempty, each⟩
  exact ⟨fun inSpelling => forth word (mem_wordsIn inSpelling nonempty each),
    fun inText => back word (mem_wordsIn inText nonempty each)⟩

theorem score_counts_policy :
    scoreFor ⟨.sample, .ascii⟩ "Finance policy" [("value", .str quotedPlan)] = 1 := by
  have counts := score_counts_iff ⟨.sample, .ascii⟩ Unicode.ascii_folds
  have score := (counts.1 _).mpr quotedPlan_spelt "Finance policy" [("value", .str quotedPlan)] rfl
  rw [score]
  decide +kernel

/-- A line break counts as the term `n`. -/
theorem score_counts_counterexample :
    ¬ ∀ v query item, Dict.get? item "value" = some (.str v) →
      scoreFor ⟨.sample, .ascii⟩ query item = hits ⟨.sample, .ascii⟩ query v := by
  intro counts
  exact absurd (counts "\n" "n" [("value", .str "\n")] rfl) (by decide +kernel)

-- an item of two white-space characters outranks one with a term of the query
example : kept ⟨.sample, .ascii⟩ [[("value", .str "policy")], [("value", .str "\n\t")]]
    "n t policy" 1 = [[("value", .str "\n\t")]] := by
  decide +kernel

end EvidenceAwareRanker

end Genesis

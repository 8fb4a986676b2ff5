import Genesis.Lib.Priority
import Genesis.Research.Comparison

/-!
# The risks a comparison reports

What stands in the documents, read line by line and word by word, against what
`compare` finds: the years it reads off the casefolded text (`mem_yearsFrom`),
the keys it takes from a dictionary in which the last line of a key wins
(`get?_keyValues_eq_some_iff`), the hashes and the conflicts.  `reports_iff` says
when the findings are exactly the risks.
-/

namespace Genesis

open Py

namespace DocumentComparisonIntelligence

variable {analysis : DocumentComparisonIntelligence} {documents : List ComparableDocument}
  {requiredFields : List String} {currentYear : ℤ}

/-! ## Years -/

/-- The year stands in the text with no word character beside it. -/
structure WholeWord (isWord : Char → Bool) (previous : Option Char)
    (text year before after : List Char) : Prop where
  split : text = before ++ (year ++ after)
  isYear : isYear year = true
  left : (before.getLast?.or previous).any isWord = false
  right : after.head?.any isWord = false

theorem isYear_iff {year : List Char} :
    isYear year = true ↔ ∃ a b c d, year = [a, b, c, d] ∧
      ((a = '1' ∧ b = '9') ∨ (a = '2' ∧ b = '0')) ∧ isDecimal c = true ∧ isDecimal d = true := by
  refine ⟨?_, ?_⟩
  · intro h
    unfold isYear at h
    split at h
    next a b c d =>
      simp only [Bool.and_eq_true, Bool.or_eq_true, beq_iff_eq] at h
      exact ⟨a, b, c, d, rfl, h.1.1, h.1.2, h.2⟩
    · cases h
  · intro h
    obtain ⟨a, b, c, d, rfl, first, third, fourth⟩ := h
    simp only [isYear, Bool.and_eq_true, Bool.or_eq_true, beq_iff_eq]
    exact ⟨⟨first, third⟩, fourth⟩

/-- A year is made of word characters. -/
theorem isWord_of_mem_year {year : List Char} (isYear : isYear year = true) :
    ∀ c ∈ year, analysis.isWord c = true := by
  obtain ⟨a, b, c, d, rfl, first, third, fourth⟩ := isYear_iff.mp isYear
  intro x member
  apply analysis.isWord_of_isDecimal
  simp only [List.mem_cons, List.not_mem_nil, or_false] at member
  rcases first with ⟨rfl, rfl⟩ | ⟨rfl, rfl⟩
  · rcases member with rfl | rfl | rfl | rfl
    · decide
    · decide
    · exact third
    · exact fourth
  · rcases member with rfl | rfl | rfl | rfl
    · decide
    · decide
    · exact third
    · exact fourth

theorem length_of_isYear {year : List Char} (isYear : isYear year = true) : year.length = 4 := by
  obtain ⟨a, b, c, d, rfl, -⟩ := isYear_iff.mp isYear
  rfl

/-- Where the pattern matches. -/
theorem yearHere_iff {previous : Option Char} {text : List Char} :
    yearHere analysis.isWord previous text = true ↔
      ∃ year after, WholeWord analysis.isWord previous text year [] after := by
  have edges : ∀ year, isYear year = true →
      year.head?.any analysis.isWord = true ∧ year.getLast?.any analysis.isWord = true := by
    intro year holds
    have word : ∀ c ∈ year, analysis.isWord c = true := isWord_of_mem_year holds
    obtain ⟨a, b, c, d, rfl, -⟩ := isYear_iff.mp holds
    exact ⟨word a (by simp), word d (by simp)⟩
  refine ⟨?_, ?_⟩
  · intro h
    simp only [yearHere, Bool.and_eq_true, boundary] at h
    obtain ⟨⟨holds, left⟩, right⟩ := h
    obtain ⟨first, last⟩ := edges _ holds
    rw [first] at left
    rw [last] at right
    refine ⟨text.take 4, text.drop 4, ⟨(List.take_append_drop 4 text).symm, holds, ?_, ?_⟩⟩
    · simpa using left
    · simpa using right
  · intro h
    obtain ⟨year, after, split, holds, left, right⟩ := h
    obtain ⟨first, last⟩ := edges _ holds
    have length := length_of_isYear holds
    rw [List.nil_append] at split
    subst split
    have head : (year ++ after).take 4 = year := by
      rw [← length, List.take_left]
    have tail : (year ++ after).drop 4 = after := by
      rw [← length, List.drop_left]
    simp only [List.getLast?_nil, Option.none_or] at left
    simp only [yearHere, head, tail, boundary, first, last, left, right, holds]
    rfl

/-- One character further on. -/
theorem wholeWord_cons_iff {isWord : Char → Bool} {previous : Option Char} {c : Char}
    {text year before after : List Char} :
    WholeWord isWord previous (c :: text) year (c :: before) after ↔
      WholeWord isWord (some c) text year before after := by
  have last : (c :: before).getLast?.or previous = before.getLast?.or (some c) := by
    rw [List.getLast?_cons]
    cases before.getLast? with
    | none => rfl
    | some d => rfl
  refine ⟨?_, ?_⟩
  · intro whole
    have split := whole.split
    rw [List.cons_append, List.cons.injEq] at split
    exact ⟨split.2, whole.isYear, last ▸ whole.left, whole.right⟩
  · intro whole
    exact ⟨congrArg (c :: ·) whole.split, whole.isYear, last.symm ▸ whole.left, whole.right⟩

/-- No year begins inside another: it would follow a digit. -/
theorem four_le_of_wholeWord {text year before after year' after' : List Char} {c : Char}
    {previous : Option Char} (first : WholeWord analysis.isWord previous text year [] after)
    (second : WholeWord analysis.isWord previous text year' (c :: before) after') :
    4 ≤ (c :: before).length := by
  by_contra short
  have length := length_of_isYear first.isYear
  have inside : c :: before <+: year := by
    have split := first.split.symm.trans second.split
    rw [List.nil_append] at split
    exact List.prefix_of_prefix_length_le ⟨_, split.symm⟩ (List.prefix_append year after) (by omega)
  have nonempty : c :: before ≠ [] := List.cons_ne_nil _ _
  have word : analysis.isWord ((c :: before).getLast nonempty) = true :=
    isWord_of_mem_year first.isYear _ (inside.subset (List.getLast_mem nonempty))
  have left := second.left
  rw [List.getLast?_eq_some_getLast nonempty, Option.some_or, Option.any_some, word] at left
  cases left

/-- The year stands in the text as a whole word, behind `skip` characters or more. -/
def StandsBehind (isWord : Char → Bool) (previous : Option Char) (skip : ℕ)
    (text year : List Char) : Prop :=
  ∃ before after, skip ≤ before.length ∧ WholeWord isWord previous text year before after

theorem not_standsBehind_nil {isWord : Char → Bool} {previous : Option Char} {skip : ℕ}
    {year : List Char} : ¬ StandsBehind isWord previous skip [] year := by
  intro h
  obtain ⟨before, after, -, whole⟩ := h
  have empty := whole.split
  rw [List.nil_eq, List.append_eq_nil_iff, List.append_eq_nil_iff] at empty
  have length := length_of_isYear whole.isYear
  rw [empty.2.1] at length
  cases length

/-- What stands behind the first character stands in the rest. -/
theorem standsBehind_cons_iff {isWord : Char → Bool} {previous : Option Char} {skip : ℕ}
    {c : Char} {text year : List Char} :
    StandsBehind isWord previous (skip + 1) (c :: text) year ↔
      StandsBehind isWord (some c) skip text year := by
  refine ⟨?_, ?_⟩
  · intro h
    obtain ⟨before, after, le, whole⟩ := h
    obtain ⟨d, rest, rfl⟩ := List.exists_cons_of_length_pos (Nat.lt_of_lt_of_le skip.succ_pos le)
    have split := whole.split
    rw [List.cons_append, List.cons.injEq] at split
    rw [← split.1] at whole
    exact ⟨rest, after, Nat.le_of_succ_le_succ le, wholeWord_cons_iff.mp whole⟩
  · intro h
    obtain ⟨before, after, le, whole⟩ := h
    exact ⟨c :: before, after, Nat.succ_le_succ le, wholeWord_cons_iff.mpr whole⟩

/-- A year stands at the front of the text or further on. -/
theorem standsBehind_zero_iff {isWord : Char → Bool} {previous : Option Char}
    {text year : List Char} :
    StandsBehind isWord previous 0 text year ↔
      (∃ after, WholeWord isWord previous text year [] after) ∨
        StandsBehind isWord previous 1 text year := by
  refine ⟨?_, ?_⟩
  · intro h
    obtain ⟨before, after, -, whole⟩ := h
    cases before with
    | nil => exact .inl ⟨after, whole⟩
    | cons c before => exact .inr ⟨c :: before, after, Nat.succ_le_succ (Nat.zero_le _), whole⟩
  · intro h
    rcases h with ⟨after, whole⟩ | ⟨before, after, -, whole⟩
    · exact ⟨[], after, Nat.zero_le _, whole⟩
    · exact ⟨before, after, Nat.zero_le _, whole⟩

/-- Behind a year at the front the next one is four characters on. -/
theorem standsBehind_one_iff {previous : Option Char} {text found year behind : List Char}
    (first : WholeWord analysis.isWord previous text found [] behind) :
    StandsBehind analysis.isWord previous 1 text year ↔
      StandsBehind analysis.isWord previous 4 text year := by
  refine ⟨?_, ?_⟩
  · intro h
    obtain ⟨before, after, le, whole⟩ := h
    obtain ⟨c, rest, rfl⟩ := List.exists_cons_of_length_pos le
    exact ⟨c :: rest, after, four_le_of_wholeWord first whole, whole⟩
  · intro h
    obtain ⟨before, after, le, whole⟩ := h
    exact ⟨before, after, le.trans' (by decide), whole⟩

theorem take_of_wholeWord {isWord : Char → Bool} {previous : Option Char}
    {text year after : List Char} (whole : WholeWord isWord previous text year [] after) :
    text.take 4 = year := by
  rw [whole.split, List.nil_append, ← length_of_isYear whole.isYear, List.take_left]

/-- `findall` misses no year and finds nothing else. -/
theorem mem_yearsFrom {year text : List Char} {previous : Option Char} {skip : ℕ} :
    year ∈ yearsFrom analysis.isWord previous skip text ↔
      StandsBehind analysis.isWord previous skip text year := by
  induction text generalizing previous skip with
  | nil =>
    simp only [yearsFrom, List.not_mem_nil, false_iff]
    exact not_standsBehind_nil
  | cons c text ih =>
    cases skip with
    | succ skip => rw [yearsFrom, ih, standsBehind_cons_iff]
    | zero =>
      rw [yearsFrom, standsBehind_zero_iff]
      split
      next here =>
        obtain ⟨found, behind, first⟩ := yearHere_iff.mp here
        rw [List.mem_cons, take_of_wholeWord first, ih, standsBehind_one_iff first,
          standsBehind_cons_iff]
        refine or_congr_left ⟨?_, ?_⟩
        · intro same
          exact ⟨behind, same ▸ first⟩
        · intro h
          obtain ⟨after, whole⟩ := h
          exact (take_of_wholeWord whole).symm.trans (take_of_wholeWord first)
      next absent =>
        rw [ih, standsBehind_cons_iff, or_iff_right]
        intro h
        obtain ⟨after, whole⟩ := h
        exact absent (yearHere_iff.mpr ⟨year, after, whole⟩)

/-- A four-digit year 19xx or 20xx below the comparison year stands in the text
as a whole word. -/
def HasOldYear (analysis : DocumentComparisonIntelligence) (currentYear : ℤ) (text : String) :
    Prop :=
  ∃ year before after, WholeWord analysis.isWord none text.toList year before after ∧
    (intOfDecimals year : ℤ) < currentYear

theorem any_years_iff {text : String} :
    ((analysis.years text).any fun (year : ℕ) => (year : ℤ) < currentYear) = true ↔
      analysis.HasOldYear currentYear text := by
  simp only [List.any_eq_true, years, mem_fromKeys, List.mem_map, mem_yearsFrom,
    decide_eq_true_eq]
  refine ⟨?_, ?_⟩
  · intro h
    obtain ⟨_, ⟨year, ⟨before, after, -, whole⟩, rfl⟩, old⟩ := h
    exact ⟨year, before, after, whole, old⟩
  · intro h
    obtain ⟨year, before, after, whole, old⟩ := h
    exact ⟨_, ⟨year, ⟨before, after, Nat.zero_le _, whole⟩, rfl⟩, old⟩

/-! ## Keys and values -/

/-- The line gives the key this value: what stands before its first colon,
stripped and casefolded, is the key, and what stands after it, stripped, the
value; neither is empty. -/
def Gives (analysis : DocumentComparisonIntelligence) (line key value : String) : Prop :=
  ∃ before after, partition? ':' line = some (before, after) ∧ strip before ≠ "" ∧
    key = analysis.unicode.casefold (strip before) ∧ value = strip after ∧ value ≠ ""

theorem entryOf_eq_some_iff {line key value : String} :
    analysis.entryOf line = some (key, value) ↔ analysis.Gives line key value := by
  simp only [entryOf, Option.bind_eq_some_iff, Prod.exists]
  apply exists_congr
  intro before
  apply exists_congr
  intro after
  apply and_congr_right
  intro _
  constructor
  · intro h
    split at h
    next nonempty =>
      cases h
      exact ⟨nonempty.1, rfl, rfl, nonempty.2⟩
    · cases h
  · intro h
    obtain ⟨key_ne, rfl, rfl, value_ne⟩ := h
    rw [if_pos ⟨key_ne, value_ne⟩]

/-- A line of the document gives the key this value. -/
def DocumentGives (analysis : DocumentComparisonIntelligence) (document : ComparableDocument)
    (key value : String) : Prop :=
  ∃ line ∈ splitlines document.content, analysis.Gives line key value

/-- The last line of the document that gives the key a value gives it this one. -/
def LastGives (analysis : DocumentComparisonIntelligence) (document : ComparableDocument)
    (key value : String) : Prop :=
  ∃ before line after, splitlines document.content = before ++ line :: after ∧
    analysis.Gives line key value ∧ ∀ later ∈ after, ∀ other, ¬ analysis.Gives later key other

variable {document : ComparableDocument} {key value : String}

theorem mem_entries_iff :
    (key, value) ∈ (splitlines document.content).filterMap analysis.entryOf ↔
      analysis.DocumentGives document key value := by
  simp only [List.mem_filterMap, entryOf_eq_some_iff, DocumentGives]

theorem mem_keys_iff {lines : List String} :
    key ∈ (lines.filterMap analysis.entryOf).map Prod.fst ↔
      ∃ line ∈ lines, ∃ value, analysis.Gives line key value := by
  simp only [List.mem_map, List.mem_filterMap, Prod.exists, exists_and_right, exists_eq_right]
  refine ⟨?_, ?_⟩
  · intro h
    obtain ⟨value, line, member, gives⟩ := h
    exact ⟨line, member, value, entryOf_eq_some_iff.mp gives⟩
  · intro h
    obtain ⟨line, member, value, gives⟩ := h
    exact ⟨value, line, member, entryOf_eq_some_iff.mpr gives⟩

/-- The dictionary has the keys some line gives. -/
theorem get?_keyValues_eq_none_iff :
    (analysis.keyValues document.content).get? key = none ↔
      ∀ line ∈ splitlines document.content, ∀ value, ¬ analysis.Gives line key value := by
  rw [keyValues, Dict.get?_ofPairs_eq_none_iff, mem_keys_iff]
  simp only [not_exists, not_and]

/-- The last line of a key wins. -/
theorem get?_keyValues_eq_some_iff :
    (analysis.keyValues document.content).get? key = some value ↔
      analysis.LastGives document key value := by
  rw [keyValues, Dict.get?_ofPairs_eq_some_iff]
  refine ⟨?_, ?_⟩
  · intro h
    obtain ⟨first, second, split, absent⟩ := h
    obtain ⟨before, rest, lines, -, tail⟩ := List.filterMap_eq_append_iff.mp split
    obtain ⟨skipped, line, after, cut, -, gives, later⟩ := List.filterMap_eq_cons_iff.mp tail
    refine ⟨before ++ skipped, line, after, ?_, entryOf_eq_some_iff.mp gives, ?_⟩
    · rw [lines, cut, List.append_assoc]
    · intro other member value gives'
      rw [← later] at absent
      exact absent (mem_keys_iff.mpr ⟨other, member, value, gives'⟩)
  · intro h
    obtain ⟨before, line, after, lines, gives, last⟩ := h
    refine ⟨before.filterMap analysis.entryOf, after.filterMap analysis.entryOf, ?_, ?_⟩
    · rw [lines, List.filterMap_append,
        List.filterMap_cons_some (entryOf_eq_some_iff.mpr gives)]
    · intro member
      obtain ⟨later, inAfter, other, gives'⟩ := mem_keys_iff.mp member
      exact last later inAfter other gives'

theorem LastGives.gives (last : analysis.LastGives document key value) :
    analysis.DocumentGives document key value := by
  obtain ⟨before, line, after, lines, gives, -⟩ := last
  exact ⟨line, by rw [lines]; simp, gives⟩

/-- A document that gives a key a value gives it a last one. -/
theorem exists_lastGives (gives : analysis.DocumentGives document key value) :
    ∃ last, analysis.LastGives document key last := by
  cases found : (analysis.keyValues document.content).get? key with
  | none =>
    obtain ⟨line, member, gives⟩ := gives
    exact absurd gives (get?_keyValues_eq_none_iff.mp found line member value)
  | some last => exact ⟨last, get?_keyValues_eq_some_iff.mp found⟩

/-! ## The contributions to a key -/

theorem mem_valueEntries_iff {source : String} :
    (key, value, source) ∈ documents.flatMap analysis.valueEntries ↔
      ∃ document ∈ documents, source = document.sourceId ∧
        analysis.LastGives document key value := by
  simp only [List.mem_flatMap, valueEntries, List.mem_map, Prod.mk.injEq, Prod.exists]
  apply exists_congr
  intro document
  apply and_congr_right
  intro _
  have nodup : ((analysis.keyValues document.content).map Prod.fst).Nodup :=
    Dict.nodup_keys_ofPairs _
  refine ⟨?_, ?_⟩
  · intro h
    obtain ⟨_, _, member, rfl, rfl, rfl⟩ := h
    exact ⟨rfl, get?_keyValues_eq_some_iff.mp (Dict.get?_eq_some_of_mem nodup member)⟩
  · intro h
    obtain ⟨rfl, last⟩ := h
    exact ⟨key, value, Dict.mem_of_get?_eq_some (get?_keyValues_eq_some_iff.mpr last),
      rfl, rfl, rfl⟩

/-- A key has several values filed where the last values of two documents differ. -/
theorem one_lt_length_contributions_iff :
    1 < (analysis.contributions documents key).length ↔
      ∃ first ∈ documents, ∃ second ∈ documents, ∃ value other,
        analysis.LastGives first key value ∧ analysis.LastGives second key other ∧
          value ≠ other := by
  rw [contributions, collect_eq, List.length_map, one_lt_length_fromKeys_iff]
  simp only [List.mem_map, mem_valuesOf, Prod.exists, exists_and_right, exists_eq_right,
    mem_valueEntries_iff]
  refine ⟨?_, ?_⟩
  · intro h
    obtain ⟨value, ⟨_, first, inFirst, -, last⟩, other, ⟨_, second, inSecond, -, last'⟩, ne⟩ := h
    exact ⟨first, inFirst, second, inSecond, value, other, last, last', ne⟩
  · intro h
    obtain ⟨first, inFirst, second, inSecond, value, other, last, last', ne⟩ := h
    exact ⟨value, ⟨_, first, inFirst, rfl, last⟩, other, ⟨_, second, inSecond, rfl, last'⟩, ne⟩

/-- The sources filed under a key are those of the documents that give it a value. -/
theorem mem_contributions_iff {source : String} :
    source ∈ (analysis.contributions documents key).values.flatten ↔
      ∃ document ∈ documents, source = document.sourceId ∧
        ∃ value, analysis.DocumentGives document key value := by
  have filed : ∀ value, (valuesOf value (valuesOf key (documents.flatMap
      analysis.valueEntries))).foldl fileSource [] = valuesOf value (valuesOf key
      (documents.flatMap analysis.valueEntries)) := fun _ => foldl_fileSource _
  simp only [contributions, collect_eq, Dict.values, List.map_map, List.mem_flatten, List.mem_map,
    Function.comp_apply, filed, mem_fromKeys, mem_valuesOf, Prod.exists, exists_and_right,
    exists_eq_right]
  refine ⟨?_, ?_⟩
  · intro h
    obtain ⟨_, ⟨value, -, rfl⟩, member⟩ := h
    obtain ⟨document, inDocuments, source, last⟩ := mem_valueEntries_iff.mp
      (mem_valuesOf.mp (mem_valuesOf.mp member))
    exact ⟨document, inDocuments, source, value, last.gives⟩
  · intro h
    obtain ⟨document, inDocuments, rfl, value, gives⟩ := h
    obtain ⟨last, lastGives⟩ := exists_lastGives gives
    have entry : (key, last, document.sourceId) ∈ documents.flatMap analysis.valueEntries :=
      mem_valueEntries_iff.mpr ⟨document, inDocuments, rfl, lastGives⟩
    exact ⟨_, ⟨last, ⟨_, entry⟩, rfl⟩, mem_valuesOf.mpr (mem_valuesOf.mpr entry)⟩

/-! ## The findings -/

/-- The document gives the key a value. -/
def givesKey (analysis : DocumentComparisonIntelligence) (key : String)
    (document : ComparableDocument) : Bool :=
  (splitlines document.content).any fun line =>
    (analysis.entryOf line).any fun entry => entry.1 = key

theorem givesKey_iff :
    analysis.givesKey key document = true ↔ ∃ value, analysis.DocumentGives document key value := by
  simp only [givesKey, List.any_eq_true, Option.any_eq_true, Prod.exists, entryOf_eq_some_iff,
    decide_eq_true_eq, DocumentGives]
  refine ⟨?_, ?_⟩
  · intro h
    obtain ⟨line, member, _, value, gives, rfl⟩ := h
    exact ⟨value, line, member, gives⟩
  · intro h
    obtain ⟨value, line, member, gives⟩ := h
    exact ⟨line, member, key, value, gives, rfl⟩

/-- The conflict over a key, naming every source that gives it a value. -/
def conflictOver (analysis : DocumentComparisonIntelligence) (documents : List ComparableDocument)
    (key : String) : ComparisonFinding :=
  conflictFinding key ((documents.filter (analysis.givesKey key)).map ComparableDocument.sourceId)

/-- Findings over the same key depend on which sources there are, not on their order. -/
theorem conflictFinding_congr {xs ys : List String} (same : ∀ x, x ∈ xs ↔ x ∈ ys) :
    conflictFinding key xs = conflictFinding key ys := by
  unfold conflictFinding
  rw [sorted_eq_of_perm (fromKeys_perm same)]

theorem conflictFinding_contributions :
    conflictFinding key (analysis.contributions documents key).values.flatten =
      analysis.conflictOver documents key := by
  apply conflictFinding_congr
  intro source
  simp only [mem_contributions_iff, List.mem_map, List.mem_filter, givesKey_iff]
  refine ⟨?_, ?_⟩
  · intro h
    obtain ⟨document, member, rfl, gives⟩ := h
    exact ⟨document, ⟨member, gives⟩, rfl⟩
  · intro h
    obtain ⟨document, ⟨member, gives⟩, rfl⟩ := h
    exact ⟨document, member, rfl, gives⟩

theorem length_carriers {contentHash : String} :
    (carriers documents contentHash).length =
      (documents.filter fun document => document.contentHash = contentHash).length := by
  rw [carriers, valuesOf, hashEntries, List.length_map, List.filter_map, List.length_map]
  rfl

/-- The findings after those of the single documents. -/
theorem mem_compare_iff {finding : ComparisonFinding} :
    finding ∈ analysis.compare documents requiredFields currentYear ↔
      (∃ document ∈ documents,
        finding ∈ analysis.documentFindings requiredFields currentYear document) ∨
      (∃ contentHash, 2 ≤ (carriers documents contentHash).length ∧
        finding = duplicateFinding (carriers documents contentHash)) ∨
      ∃ key, (∃ first ∈ documents, ∃ second ∈ documents, ∃ value other,
        analysis.LastGives first key value ∧ analysis.LastGives second key other ∧
          value ≠ other) ∧ finding = analysis.conflictOver documents key := by
  rw [compare_eq, List.mem_append, List.mem_append, or_assoc]
  apply or_congr List.mem_flatMap
  apply or_congr
  · simp only [List.mem_map, List.mem_filter, mem_fromKeys, decide_eq_true_eq]
    refine ⟨?_, ?_⟩
    · intro h
      obtain ⟨contentHash, ⟨-, several⟩, rfl⟩ := h
      exact ⟨contentHash, several, rfl⟩
    · intro h
      obtain ⟨contentHash, several, rfl⟩ := h
      refine ⟨contentHash, ⟨?_, several⟩, rfl⟩
      -- a hash with a carrier is the hash of a document
      obtain ⟨source, member⟩ := List.exists_mem_of_length_pos (by omega :
        0 < (carriers documents contentHash).length)
      obtain ⟨document, inDocuments, same⟩ := List.mem_map.mp (mem_valuesOf.mp member)
      cases same
      exact ⟨document, inDocuments, rfl⟩
  · simp only [List.mem_map, List.mem_filter, mem_fromKeys, decide_eq_true_eq,
      one_lt_length_contributions_iff, conflictFinding_contributions]
    refine ⟨?_, ?_⟩
    · intro h
      obtain ⟨key, ⟨-, differ⟩, rfl⟩ := h
      exact ⟨key, differ, rfl⟩
    · intro h
      obtain ⟨key, differ, rfl⟩ := h
      refine ⟨key, ⟨?_, differ⟩, rfl⟩
      obtain ⟨first, inFirst, -, -, value, -, last, -, -⟩ := differ
      exact ⟨(key, value, first.sourceId),
        mem_valueEntries_iff.mpr ⟨first, inFirst, rfl, last⟩, rfl⟩

theorem mem_documentFindings_iff {finding : ComparisonFinding} :
    finding ∈ analysis.documentFindings requiredFields currentYear document ↔
      (∃ required ∈ requiredFields, (∀ line ∈ splitlines document.content, ∀ value,
        ¬ analysis.Gives line (analysis.unicode.casefold required) value) ∧
          finding = missingFinding document required) ∨
      (analysis.HasOldYear currentYear (analysis.unicode.casefold document.content) ∧
        finding = outdatedFinding document) := by
  simp only [documentFindings, any_years_iff, List.mem_append, List.mem_map, List.mem_filter,
    Option.isNone_iff_eq_none, get?_keyValues_eq_none_iff]
  apply or_congr
  · apply exists_congr
    intro required
    rw [and_assoc, eq_comm]
  · split
    next old =>
      have holds := any_years_iff.mp old
      simp [holds]
    next recent =>
      have fails : ¬ analysis.HasOldYear currentYear
          (analysis.unicode.casefold document.content) :=
        fun old => recent (any_years_iff.mpr old)
      simp [fails]

/-! ## Findings and risks -/

/-- The finding is about a single document. -/
def ofDocument (finding : ComparisonFinding) : Bool :=
  finding.kind = .missingField || finding.kind = .outdatedReference

/-- The findings are the risks in the documents and nothing else. -/
structure ReportsRisks (analysis : DocumentComparisonIntelligence)
    (documents : List ComparableDocument) (requiredFields : List String) (currentYear : ℤ) :
    Prop where
  /-- No line of the document gives the field a value. -/
  missing : ∀ document ∈ documents, ∀ required ∈ requiredFields,
    missingFinding document required ∈
        analysis.documentFindings requiredFields currentYear document ↔
      ∀ line ∈ splitlines document.content, ∀ value,
        ¬ analysis.Gives line (analysis.unicode.casefold required) value
  outdated : ∀ document ∈ documents,
    outdatedFinding document ∈ analysis.documentFindings requiredFields currentYear document ↔
      analysis.HasOldYear currentYear document.content
  /-- The comparison emits the findings of each document, document by document. -/
  emitted : (analysis.compare documents requiredFields currentYear).filter ofDocument =
    documents.flatMap (analysis.documentFindings requiredFields currentYear)
  duplicate : ∀ contentHash,
    duplicateFinding (carriers documents contentHash) ∈
        analysis.compare documents requiredFields currentYear ↔
      2 ≤ (documents.filter fun document => document.contentHash = contentHash).length
  /-- Two lines anywhere give the key different values. -/
  conflict : ∀ key,
    analysis.conflictOver documents key ∈ analysis.compare documents requiredFields currentYear ↔
      ∃ first ∈ documents, ∃ second ∈ documents, ∃ value other,
        analysis.DocumentGives first key value ∧ analysis.DocumentGives second key other ∧
          value ≠ other
  complete : ∀ finding ∈ analysis.compare documents requiredFields currentYear,
    (∃ document ∈ documents,
      finding ∈ analysis.documentFindings requiredFields currentYear document ∧
        (finding = outdatedFinding document ∨
          ∃ required ∈ requiredFields, finding = missingFinding document required)) ∨
    (∃ contentHash, finding = duplicateFinding (carriers documents contentHash)) ∨
    ∃ key, finding = analysis.conflictOver documents key

/-- Nothing hides a risk from the comparison: where a document gives a key two
values, the last values of two documents differ too, and casefolding does not
change whether a document has an old year as a whole word. -/
structure NothingHidden (analysis : DocumentComparisonIntelligence)
    (documents : List ComparableDocument) (currentYear : ℤ) : Prop where
  repeatedKeys : ∀ key, ∀ document ∈ documents, ∀ value other,
    analysis.DocumentGives document key value → analysis.DocumentGives document key other →
      value ≠ other → ∃ first ∈ documents, ∃ second ∈ documents, ∃ value other,
        analysis.LastGives first key value ∧ analysis.LastGives second key other ∧ value ≠ other
  foldedYears : ∀ document ∈ documents,
    analysis.HasOldYear currentYear (analysis.unicode.casefold document.content) ↔
      analysis.HasOldYear currentYear document.content

theorem missingFinding_mem_iff {required : String} (member : required ∈ requiredFields) :
    missingFinding document required ∈
        analysis.documentFindings requiredFields currentYear document ↔
      ∀ line ∈ splitlines document.content, ∀ value,
        ¬ analysis.Gives line (analysis.unicode.casefold required) value := by
  rw [mem_documentFindings_iff]
  refine ⟨?_, fun absent => .inl ⟨required, member, absent, rfl⟩⟩
  intro h
  rcases h with ⟨other, -, absent, same⟩ | ⟨-, same⟩
  · rw [missingFinding_inj.mp same]
    exact absent
  · cases congrArg ComparisonFinding.kind same

theorem outdatedFinding_mem_iff :
    outdatedFinding document ∈ analysis.documentFindings requiredFields currentYear document ↔
      analysis.HasOldYear currentYear (analysis.unicode.casefold document.content) := by
  rw [mem_documentFindings_iff]
  refine ⟨?_, fun old => .inr ⟨old, rfl⟩⟩
  intro h
  rcases h with ⟨other, -, absent, same⟩ | ⟨old, -⟩
  · cases congrArg ComparisonFinding.kind same
  · exact old

/-- The findings of single documents are no duplicates and no conflicts. -/
theorem kind_of_mem_documentFindings {finding : ComparisonFinding}
    (member : finding ∈ analysis.documentFindings requiredFields currentYear document) :
    finding.kind = .missingField ∨ finding.kind = .outdatedReference := by
  rcases mem_documentFindings_iff.mp member with ⟨_, -, -, rfl⟩ | ⟨-, rfl⟩
  · exact .inl rfl
  · exact .inr rfl

theorem filter_ofDocument :
    (analysis.compare documents requiredFields currentYear).filter ofDocument =
      documents.flatMap (analysis.documentFindings requiredFields currentYear) := by
  have passes : ∀ finding ∈
      documents.flatMap (analysis.documentFindings requiredFields currentYear),
        ofDocument finding = true := by
    intro finding member
    obtain ⟨document, -, found⟩ := List.mem_flatMap.mp member
    rcases kind_of_mem_documentFindings found with kind | kind <;> simp [ofDocument, kind]
  rw [compare_eq, List.filter_append, List.filter_append, List.filter_eq_self.mpr passes,
    List.filter_map, List.filter_map]
  simp [ofDocument, duplicateFinding, conflictFinding]

theorem duplicateFinding_mem_iff {contentHash : String} :
    duplicateFinding (carriers documents contentHash) ∈
        analysis.compare documents requiredFields currentYear ↔
      2 ≤ (carriers documents contentHash).length := by
  rw [mem_compare_iff]
  refine ⟨?_, fun several => .inr (.inl ⟨contentHash, several, rfl⟩)⟩
  intro h
  rcases h with ⟨document, -, member⟩ | ⟨other, several, same⟩ | ⟨key, -, same⟩
  · rcases kind_of_mem_documentFindings member with kind | kind
    · cases kind
    · cases kind
  · -- the same sources, and so as many of them
    have lengths := congrArg (fun finding => finding.sourceIds.length) same
    simp only [duplicateFinding, sorted, List.length_insertionSort] at lengths
    rw [lengths]
    exact several
  · cases congrArg ComparisonFinding.kind same

theorem conflictOver_mem_iff :
    analysis.conflictOver documents key ∈ analysis.compare documents requiredFields currentYear ↔
      ∃ first ∈ documents, ∃ second ∈ documents, ∃ value other,
        analysis.LastGives first key value ∧ analysis.LastGives second key other ∧
          value ≠ other := by
  rw [mem_compare_iff]
  refine ⟨?_, fun differ => .inr (.inr ⟨key, differ, rfl⟩)⟩
  intro h
  rcases h with ⟨document, -, member⟩ | ⟨other, -, same⟩ | ⟨other, differ, same⟩
  · rcases kind_of_mem_documentFindings member with kind | kind
    · cases kind
    · cases kind
  · cases congrArg ComparisonFinding.kind same
  · rw [conflictStatement_injective (congrArg ComparisonFinding.statement same)]
    exact differ

/-- Two lines give a key different values exactly when the last values of two
documents differ or one document gives it two. -/
theorem exists_differ_iff :
    (∃ first ∈ documents, ∃ second ∈ documents, ∃ value other,
      analysis.DocumentGives first key value ∧ analysis.DocumentGives second key other ∧
        value ≠ other) ↔
    (∃ first ∈ documents, ∃ second ∈ documents, ∃ value other,
      analysis.LastGives first key value ∧ analysis.LastGives second key other ∧
        value ≠ other) ∨
    ∃ document ∈ documents, ∃ value other, analysis.DocumentGives document key value ∧
      analysis.DocumentGives document key other ∧ value ≠ other := by
  refine ⟨?_, ?_⟩
  · intro h
    obtain ⟨first, inFirst, second, inSecond, value, other, gives, gives', ne⟩ := h
    obtain ⟨last, lastGives⟩ := exists_lastGives gives
    obtain ⟨last', lastGives'⟩ := exists_lastGives gives'
    by_cases same : last = last'
    · -- one of the two values is not the last of its document
      by_cases overwritten : value = last
      · refine .inr ⟨second, inSecond, other, last', gives', lastGives'.gives, ?_⟩
        rw [← same, ← overwritten]
        exact ne.symm
      · exact .inr ⟨first, inFirst, value, last, gives, lastGives.gives, overwritten⟩
    · exact .inl ⟨first, inFirst, second, inSecond, last, last', lastGives, lastGives', same⟩
  · intro h
    rcases h with ⟨first, inFirst, second, inSecond, value, other, last, last', ne⟩ |
      ⟨document, member, value, other, gives, gives', ne⟩
    · exact ⟨first, inFirst, second, inSecond, value, other, last.gives, last'.gives, ne⟩
    · exact ⟨document, member, document, member, value, other, gives, gives', ne⟩

/-- The comparison reports the risks in the documents and nothing else exactly
when nothing hides one from it. -/
theorem reportsRisks_iff (analysis : DocumentComparisonIntelligence)
    (documents : List ComparableDocument) (requiredFields : List String) (currentYear : ℤ) :
    analysis.ReportsRisks documents requiredFields currentYear ↔
      analysis.NothingHidden documents currentYear := by
  refine ⟨?_, ?_⟩
  · intro reports
    refine ⟨?_, ?_⟩
    · intro key document member value other gives gives' ne
      exact conflictOver_mem_iff.mp ((reports.conflict key).mpr
        (exists_differ_iff.mpr (.inr ⟨document, member, value, other, gives, gives', ne⟩)))
    · intro document member
      rw [← reports.outdated document member, outdatedFinding_mem_iff]
  · intro clear
    refine ⟨?_, ?_, filter_ofDocument, ?_, ?_, ?_⟩
    · intro document _ required member
      exact missingFinding_mem_iff member
    · intro document member
      rw [outdatedFinding_mem_iff, clear.foldedYears document member]
    · intro contentHash
      rw [duplicateFinding_mem_iff, length_carriers]
    · intro key
      rw [conflictOver_mem_iff, exists_differ_iff]
      refine ⟨.inl, ?_⟩
      intro h
      rcases h with differ | ⟨document, member, value, other, gives, gives', ne⟩
      · exact differ
      · exact clear.repeatedKeys key document member value other gives gives' ne
    · intro finding member
      rcases mem_compare_iff.mp member with ⟨document, inDocuments, found⟩ | duplicate | conflict
      · refine .inl ⟨document, inDocuments, found, ?_⟩
        rcases mem_documentFindings_iff.mp found with ⟨required, listed, -, same⟩ | ⟨-, same⟩
        · exact .inr ⟨required, listed, same⟩
        · exact .inl same
      · obtain ⟨contentHash, -, same⟩ := duplicate
        exact .inr (.inl ⟨contentHash, same⟩)
      · obtain ⟨key, -, same⟩ := conflict
        exact .inr (.inr ⟨key, same⟩)

/-! ## A conflict within one document -/

/-- The comparison on ASCII text. -/
def sample : DocumentComparisonIntelligence where
  unicode := .ascii
  isWord c := c.isAlphanum || c == '_' || isDecimal c
  isWord_of_isDecimal c decimal := by rw [decimal, Bool.or_true]

def twoOwners : ComparableDocument where
  sourceId := "source_policy_001"
  sourceVersion := "1.0.0"
  contentHash := "sha256:aaaaaaaaaaaaaaaaaaaaaaaaaaaaaaaaaaaaaaaaaaaaaaaaaaaaaaaaaaaaaaaa"
  content := "Owner: Finance\nOwner: Legal"

/-- Two owners in one document are no conflict to the comparison. -/
theorem reportsRisks_counterexample :
    ¬ ∀ (analysis : DocumentComparisonIntelligence) (documents : List ComparableDocument)
      (requiredFields : List String) (currentYear : ℤ),
      analysis.ReportsRisks documents requiredFields currentYear := by
  intro reports
  have none : sample.compare [twoOwners] [] 2026 = [] := by decide +kernel
  have entries : (splitlines twoOwners.content).filterMap sample.entryOf =
      [("owner", "Finance"), ("owner", "Legal")] := by decide +kernel
  have gives : ∀ value ∈ ["Finance", "Legal"], sample.DocumentGives twoOwners "owner" value := by
    intro value member
    rw [← mem_entries_iff, entries]
    simpa using member
  have found := ((reports sample [twoOwners] [] 2026).conflict "owner").mpr
    ⟨twoOwners, List.mem_singleton_self _, twoOwners, List.mem_singleton_self _, "Finance",
      "Legal", gives _ (by simp), gives _ (by simp), by decide⟩
  rw [none] at found
  cases found

end DocumentComparisonIntelligence

end Genesis

import Genesis.Context.Models
import Genesis.Lib.Groups
import Genesis.Lib.Lines

/-!
# Document comparison

`DocumentComparisonIntelligence.compare`: one loop over the documents that
reports missing fields and outdated references and files content hashes and
key-value pairs, then one loop over each of the two dictionaries.  `compare_eq`
takes the loops apart: the findings of each document on its own, the hashes with
the sources that carry them, and the keys with the sources of each value.
-/

namespace Genesis

open Py

/-! ## Models -/

inductive ComparisonFindingKind : Type
  | duplicate
  | conflict
  | missingField
  | outdatedReference
  deriving DecidableEq

structure ComparableDocument where
  sourceId : String
  sourceVersion : String
  contentHash : String
  content : String
  sourceId_length : 3 ≤ sourceId.length := by decide
  sourceVersion_length : 1 ≤ sourceVersion.length := by decide
  contentHash_pattern : IsContentHash contentHash := by decide +kernel
  content_length : 1 ≤ content.length := by decide

/-- A finding; `sourceIds` is never empty (`compare_sourceIds_ne_nil`). -/
structure ComparisonFinding where
  kind : ComparisonFindingKind
  sourceIds : List String
  statement : String
  requiresHumanDecision : Bool := true
  deriving DecidableEq

/-- The case mappings and the `\w` of regular expressions, which holds of every
decimal digit. -/
structure DocumentComparisonIntelligence where
  unicode : Unicode
  isWord : Char → Bool
  isWord_of_isDecimal : ∀ c, isDecimal c = true → isWord c = true

namespace DocumentComparisonIntelligence

/-! ## Years -/

/-- `\b` between these two characters, `none` being an end of the text. -/
def boundary (isWord : Char → Bool) (left right : Option Char) : Bool :=
  left.any isWord != right.any isWord

/-- `(?:19|20)\d{2}`. -/
def isYear : List Char → Bool
  | [a, b, c, d] =>
    ((a == '1' && b == '9') || (a == '2' && b == '0')) && isDecimal c && isDecimal d
  | _ => false

/-- `\b(?:19|20)\d{2}\b` matches here, after the character `previous`. -/
def yearHere (isWord : Char → Bool) (previous : Option Char) (text : List Char) : Bool :=
  let year := text.take 4
  isYear year && boundary isWord previous year.head? &&
    boundary isWord year.getLast? (text.drop 4).head?

/-- `re.findall` of the pattern; `skip` characters of the last match are left. -/
def yearsFrom (isWord : Char → Bool) : Option Char → ℕ → List Char → List (List Char)
  | _, _, [] => []
  | _, skip + 1, c :: rest => yearsFrom isWord (some c) skip rest
  | previous, 0, c :: rest =>
    if yearHere isWord previous (c :: rest) then
      (c :: rest).take 4 :: yearsFrom isWord (some c) 3 rest
    else yearsFrom isWord (some c) 0 rest

/-- `{int(value) for value in re.findall(..., text)}`. -/
def years (analysis : DocumentComparisonIntelligence) (text : String) : List ℕ :=
  fromKeys ((yearsFrom analysis.isWord none 0 text.toList).map intOfDecimals)

/-! ## Keys and values -/

/-- The entry of one line, if it has one. -/
def entryOf (analysis : DocumentComparisonIntelligence) (line : String) :
    Option (String × String) :=
  (partition? ':' line).bind fun parts =>
    if strip parts.1 ≠ "" ∧ strip parts.2 ≠ "" then
      some (analysis.unicode.casefold (strip parts.1), strip parts.2)
    else none

/-- `_key_values`. -/
def keyValues (analysis : DocumentComparisonIntelligence) (content : String) : Dict String :=
  Dict.ofPairs ((splitlines content).filterMap analysis.entryOf)

/-! ## The findings of one document -/

def missingFinding (document : ComparableDocument) (required : String) : ComparisonFinding where
  kind := .missingField
  sourceIds := [document.sourceId]
  statement := s!"Required field is missing: {required}"

def outdatedFinding (document : ComparableDocument) : ComparisonFinding where
  kind := .outdatedReference
  sourceIds := [document.sourceId]
  statement := "Document contains a reference older than the comparison year."

/-- What one pass of the loop over the documents appends to `findings`. -/
def documentFindings (analysis : DocumentComparisonIntelligence) (requiredFields : List String)
    (currentYear : ℤ) (document : ComparableDocument) : List ComparisonFinding :=
  let parsed := analysis.keyValues document.content
  let lowered := analysis.unicode.casefold document.content
  (requiredFields.filter fun required =>
      (parsed.get? (analysis.unicode.casefold required)).isNone).map (missingFinding document) ++
    if (analysis.years lowered).any fun (year : ℕ) => (year : ℤ) < currentYear then
      [outdatedFinding document]
    else []

/-! ## The comparison -/

/-- `d.setdefault(key, []).append(source)`. -/
def fileSource (sources : List String) (source : String) : List String := sources ++ [source]

/-- The sources of each value, the value first. -/
def fileValue (values : Dict (List String)) (entry : String × String) : Dict (List String) :=
  values.set entry.1 (fileSource ((values.get? entry.1).getD []) entry.2)

/-- `findings`, `hashes` and `key_values`. -/
structure Comparison where
  findings : List ComparisonFinding := []
  hashes : Dict (List String) := []
  keyValues : Dict (Dict (List String)) := []

/-- One pass of the loop over the documents. -/
def step (analysis : DocumentComparisonIntelligence) (requiredFields : List String)
    (currentYear : ℤ) (state : Comparison) (document : ComparableDocument) : Comparison where
  findings := state.findings ++ analysis.documentFindings requiredFields currentYear document
  hashes := state.hashes.set document.contentHash
    (fileSource ((state.hashes.get? document.contentHash).getD []) document.sourceId)
  keyValues := (analysis.keyValues document.content).foldl
    (fun filed entry => filed.set entry.1
      (fileValue ((filed.get? entry.1).getD []) (entry.2, document.sourceId))) state.keyValues

/-- `sorted(xs)`. -/
def sorted (xs : List String) : List String := xs.insertionSort (· ≤ ·)

def duplicateFinding (sourceIds : List String) : ComparisonFinding where
  kind := .duplicate
  sourceIds := sorted sourceIds
  statement := "Documents have identical immutable content hashes."

def conflictStatement (key : String) : String :=
  s!"Documents contain conflicting values for field: {key}"

def conflictFinding (key : String) (sourceIds : List String) : ComparisonFinding where
  kind := .conflict
  sourceIds := sorted (fromKeys sourceIds)
  statement := conflictStatement key

/-- The loop over `hashes.values()`. -/
def duplicateFindings (hashes : Dict (List String)) : List ComparisonFinding :=
  (hashes.values.filter fun sourceIds => 1 < sourceIds.length).map duplicateFinding

/-- The loop over `key_values.items()`. -/
def conflictFindings (keyValues : Dict (Dict (List String))) : List ComparisonFinding :=
  (keyValues.filter fun item => 1 < item.2.length).map fun item =>
    conflictFinding item.1 item.2.values.flatten

/-- `compare`. -/
def compare (analysis : DocumentComparisonIntelligence) (documents : List ComparableDocument)
    (requiredFields : List String) (currentYear : ℤ) : List ComparisonFinding :=
  let state := documents.foldl (analysis.step requiredFields currentYear) {}
  state.findings ++ duplicateFindings state.hashes ++ conflictFindings state.keyValues

/-- Sorting forgets the order of arrival. -/
theorem sorted_eq_of_perm {xs ys : List String} (perm : xs.Perm ys) : sorted xs = sorted ys := by
  have same : (sorted xs).Perm (sorted ys) :=
    (List.perm_insertionSort _ xs).trans (perm.trans (List.perm_insertionSort _ ys).symm)
  refine same.eq_of_pairwise ?_ (List.pairwise_insertionSort _ xs)
    (List.pairwise_insertionSort _ ys)
  intro a b _ _ below above
  exact le_antisymm below above

theorem mem_sorted {x : String} {xs : List String} : x ∈ sorted xs ↔ x ∈ xs :=
  (List.perm_insertionSort _ xs).mem_iff

theorem conflictStatement_injective : Function.Injective conflictStatement := by
  intro key other same
  exact (String.append_right_inj _).mp same

theorem missingFinding_inj {document : ComparableDocument} {required other : String} :
    missingFinding document required = missingFinding document other ↔ required = other := by
  refine ⟨?_, congrArg _⟩
  intro same
  have statements := congrArg ComparisonFinding.statement same
  exact (String.append_right_inj _).mp statements

/-! ## The loops taken apart -/

section

variable (analysis : DocumentComparisonIntelligence)

/-- Each document's hash with its source. -/
def hashEntries (documents : List ComparableDocument) : List (String × String) :=
  documents.map fun document => (document.contentHash, document.sourceId)

/-- Each entry of a document's dictionary, filed under its key with the source. -/
def valueEntries (document : ComparableDocument) : List (String × String × String) :=
  (analysis.keyValues document.content).map fun entry => (entry.1, entry.2, document.sourceId)

/-- The sources that carry a hash, in the order of the documents. -/
def carriers (documents : List ComparableDocument) (contentHash : String) : List String :=
  valuesOf contentHash (hashEntries documents)

/-- The sources of each value of a key. -/
def contributions (documents : List ComparableDocument) (key : String) : Dict (List String) :=
  collect [] fileSource (valuesOf key (documents.flatMap analysis.valueEntries))

theorem foldl_step (requiredFields : List String) (currentYear : ℤ)
    (documents : List ComparableDocument) :
    documents.foldl (analysis.step requiredFields currentYear) {} =
      { findings := documents.flatMap (analysis.documentFindings requiredFields currentYear)
        hashes := collect [] fileSource (hashEntries documents)
        keyValues := collect [] fileValue (documents.flatMap analysis.valueEntries) } := by
  induction documents using List.reverseRecOn with
  | nil => rfl
  | append_singleton documents document ih =>
    rw [List.foldl_append, ih]
    simp [step, collect, hashEntries, valueEntries, List.foldl_append, List.foldl_map]

theorem foldl_fileSource (sources : List String) : sources.foldl fileSource [] = sources := by
  induction sources using List.reverseRecOn with
  | nil => rfl
  | append_singleton sources source ih => rw [List.foldl_append, ih]; rfl

/-- The findings of a comparison: those of each document, then the duplicates in
the order the hashes first occur in, then the conflicts in that of the keys. -/
theorem compare_eq (documents : List ComparableDocument) (requiredFields : List String)
    (currentYear : ℤ) :
    analysis.compare documents requiredFields currentYear =
      documents.flatMap (analysis.documentFindings requiredFields currentYear) ++
      ((fromKeys (documents.map ComparableDocument.contentHash)).filter fun contentHash =>
        1 < (carriers documents contentHash).length).map (fun contentHash =>
          duplicateFinding (carriers documents contentHash)) ++
      ((fromKeys ((documents.flatMap analysis.valueEntries).map Prod.fst)).filter fun key =>
        1 < (analysis.contributions documents key).length).map fun key =>
          conflictFinding key (analysis.contributions documents key).values.flatten := by
  have hashes : (collect [] fileSource (hashEntries documents)).values =
      (fromKeys (documents.map ComparableDocument.contentHash)).map (carriers documents) := by
    rw [collect_eq, Dict.values, List.map_map, hashEntries, List.map_map]
    apply List.map_congr_left
    intro contentHash _
    exact foldl_fileSource _
  have keyValues : collect [] fileValue (documents.flatMap analysis.valueEntries) =
      (fromKeys ((documents.flatMap analysis.valueEntries).map Prod.fst)).map fun key =>
        (key, analysis.contributions documents key) := by
    rw [collect_eq]
    rfl
  rw [compare, foldl_step]
  dsimp only
  rw [duplicateFindings, hashes, conflictFindings, keyValues, List.filter_map, List.map_map,
    List.filter_map, List.map_map]
  rfl

end

end DocumentComparisonIntelligence

end Genesis

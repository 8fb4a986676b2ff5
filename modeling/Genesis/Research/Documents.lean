import Genesis.Lib.Lines
import Genesis.Lib.Markers
import Genesis.ModelGateway

/-!
# Source-bound document analysis

`DocumentIntelligence.analyze` numbers the lines of a document, asks the model
gateway once and returns the answer if `validate_semantic_answer` accepts it.
Lines are cut at all of Python's line boundaries and joined with a newline, which
none of them contains: the model sees exactly the lines the citations are checked
against (`numbersLines`, `citations_resolve`).
-/

namespace Genesis

open Py Session

/-! ## Models -/

def MAX_SOURCE_CHARACTERS : ℕ := 60000

/-- A document whose digest has been verified. -/
structure DocumentSource (platform : Platform) where
  sourceId : String
  version : String
  contentSha256 : String
  dataClassification : DataClassification := .internal
  content : String
  sourceId_length : 3 ≤ sourceId.length ∧ sourceId.length ≤ 128
  version_length : 1 ≤ version.length ∧ version.length ≤ 128
  contentSha256_pattern : contentSha256.length = 64 ∧ contentSha256.toList.all isHexDigit
  content_length : 1 ≤ content.length ∧ content.length ≤ MAX_SOURCE_CHARACTERS
  /-- `verify_content_digest`. -/
  digest : platform.sha256Hex content = contentSha256

structure DocumentAnalysisRequest (platform : Platform) where
  runId : String
  correlationId : String
  question : String
  source : DocumentSource platform
  policyRef : String
  runId_length : 3 ≤ runId.length ∧ runId.length ≤ 128
  correlationId_length : 3 ≤ correlationId.length ∧ correlationId.length ≤ 128
  question_length : 3 ≤ question.length ∧ question.length ≤ 10000
  policyRef_length : 1 ≤ policyRef.length

structure DocumentAnalysisDraft where
  correlationId : String
  sourceId : String
  sourceVersion : String
  contentSha256 : String
  outputState : String := "AI_INFERRED"
  answer : String
  promptId : String
  promptVersion : String
  promptSha256 : String
  limitations : List String
  answer_length : 1 ≤ answer.length

/-! ## Citations -/

/-- A run of `\d+`. -/
structure Decimals where
  digits : List Char
  nonempty : digits ≠ []
  decimal : ∀ c ∈ digits, isDecimal c = true

namespace Decimals

/-- The longest run of digits at the front of a text, and what follows. -/
def read? (text : List Char) : Option (Decimals × List Char) :=
  if nonempty : text.takeWhile isDecimal ≠ [] then
    some (⟨_, nonempty, List.all_eq_true.mp List.all_takeWhile⟩, text.dropWhile isDecimal)
  else none

/-- The number the digits denote. -/
def value (number : Decimals) : ℕ := intOfDecimals number.digits

/-- `int(digits)`, which refuses longer numerals. -/
def int (number : Decimals) : Except PyException ℕ :=
  let count := number.digits.length
  if count ≤ 4300 then .ok number.value
  else .error (.valueError (s!"Exceeds the limit (4300 digits) for integer string conversion: " ++
    s!"value has {count} digits; use sys.set_int_max_str_digits() to increase the limit"))

theorem read?_eq_some {text rest : List Char} {number : Decimals}
    (found : read? text = some (number, rest)) : text = number.digits ++ rest := by
  unfold read? at found
  split at found
  · cases found
    exact List.takeWhile_append_dropWhile.symm
  · cases found

/-- Digits are read up to the first character that is none. -/
theorem read?_append_cons (number : Decimals) {c : Char} (ends : isDecimal c = false)
    (rest : List Char) : read? (number.digits ++ c :: rest) = some (number, c :: rest) := by
  have taken : (number.digits ++ c :: rest).takeWhile isDecimal = number.digits := by
    rw [List.takeWhile_append_of_pos number.decimal, List.takeWhile_cons_of_neg (by simp [ends]),
      List.append_nil]
  have dropped : (number.digits ++ c :: rest).dropWhile isDecimal = c :: rest := by
    rw [List.dropWhile_append_of_pos number.decimal, List.dropWhile_cons_of_neg (by simp [ends])]
  unfold read?
  rw [dif_pos (by rw [taken]; exact number.nonempty)]
  simp only [taken, dropped]

theorem int_eq_ok_iff {number : Decimals} {n : ℕ} :
    number.int = .ok n ↔ number.digits.length ≤ 4300 ∧ number.value = n := by
  unfold int
  dsimp only
  split
  next short => simp [short]
  next long => simp [long]

end Decimals

/-- What follows a literal at the front of a text. -/
def literal? (literal : String) (text : List Char) : Option (List Char) :=
  text.dropPrefix? literal.toList

theorem literal?_eq_some_iff {literal : String} {chars text rest : List Char}
    (spelled : literal.toList = chars) :
    literal? literal text = some rest ↔ text = chars ++ rest := by
  rw [← spelled]
  simp [literal?, List.dropPrefix?_eq_some_iff]

/-- The two line numbers of a citation. -/
structure Citation where
  rawStart : Decimals
  rawEnd : Decimals

namespace Citation

/-- The text between the brackets. -/
def inside (citation : Citation) : List Char :=
  "Sumber L".toList ++ (citation.rawStart.digits ++ ("-L".toList ++ citation.rawEnd.digits))

/-- A match of `\[Sumber L(\d+)-L(\d+)\]` at the front of the text. -/
def here? (text : List Char) : Option (Citation × List Char) :=
  (literal? "[Sumber L" text).bind fun first =>
    (Decimals.read? first).bind fun rawStart =>
      (literal? "-L" rawStart.2).bind fun second =>
        (Decimals.read? second).bind fun rawEnd =>
          (literal? "]" rawEnd.2).map fun rest => (⟨rawStart.1, rawEnd.1⟩, rest)

theorem here?_eq_some_iff {text rest : List Char} {citation : Citation} :
    here? text = some (citation, rest) ↔ text = '[' :: (citation.inside ++ ']' :: rest) := by
  have bracket : "[Sumber L".toList = '[' :: "Sumber L".toList := by decide
  have dash : "-L".toList = ['-', 'L'] := by decide
  have closing : "]".toList = [']'] := by decide
  have shape : '[' :: (citation.inside ++ ']' :: rest) = '[' :: "Sumber L".toList ++
      (citation.rawStart.digits ++ '-' :: 'L' :: (citation.rawEnd.digits ++ ']' :: rest)) := by
    unfold inside
    rw [dash]
    simp only [List.cons_append, List.append_assoc, List.nil_append]
  rw [shape]
  refine ⟨?_, ?_⟩
  · intro found
    simp only [here?, Option.bind_eq_some_iff, Option.map_eq_some_iff, Prod.exists,
      literal?_eq_some_iff bracket, literal?_eq_some_iff dash,
      literal?_eq_some_iff closing] at found
    obtain ⟨_, rfl, rawStart, _, first, _, rfl, rawEnd, _, second, _, rfl, same⟩ := found
    cases same
    rw [Decimals.read?_eq_some first, Decimals.read?_eq_some second]
    rfl
  · intro split
    have opened := (literal?_eq_some_iff bracket).mpr split
    have dashed : literal? "-L" ('-' :: 'L' :: (citation.rawEnd.digits ++ ']' :: rest)) =
        some (citation.rawEnd.digits ++ ']' :: rest) := (literal?_eq_some_iff dash).mpr rfl
    have closed : literal? "]" (']' :: rest) = some rest := (literal?_eq_some_iff closing).mpr rfl
    have dashEnds : isDecimal '-' = false := by decide +kernel
    have bracketEnds : isDecimal ']' = false := by decide +kernel
    simp only [here?, opened, Decimals.read?_append_cons _ dashEnds, dashed,
      Decimals.read?_append_cons _ bracketEnds, closed, Option.bind_some, Option.map_some]

end Citation

/-- `_CITATION`. -/
def CITATION : Marker Char Citation where
  opening := '['
  closing := ']'
  inside := Citation.inside
  here? := Citation.here?
  opening_notMem citation := by
    have noDigit : isDecimal '[' = false := by decide +kernel
    have absent (number : Decimals) : '[' ∉ number.digits := by
      intro member
      rw [number.decimal _ member] at noDigit
      cases noDigit
    have noSource : '[' ∉ "Sumber L".toList := by decide
    have noDash : '[' ∉ "-L".toList := by decide
    intro member
    unfold Citation.inside at member
    rcases List.mem_append.mp member with within | last
    · rcases List.mem_append.mp within with source | numbers
      · exact noSource source
      rcases List.mem_append.mp numbers with start | rest
      · exact absent _ start
      rcases List.mem_append.mp rest with dash | stop
      · exact noDash dash
      · exact absent _ stop
    · cases List.mem_singleton.mp last
  here?_eq_some_iff := Citation.here?_eq_some_iff

example : ((CITATION.findall "[Sumber L1-L2] [Sumber L3]".toList).map fun citation =>
    (citation.rawStart.value, citation.rawEnd.value)) = [(1, 2)] := by
  decide +kernel

/-! ## The answer -/

/-- `_REQUIRED_HEADINGS`. -/
def REQUIRED_HEADINGS : List String :=
  ["jawaban ringkas", "temuan dan kekurangan", "checklist perbaikan",
    "batasan dan informasi yang belum tersedia", "sumber"]

/-- `SemanticAnswerInvalid`, a `ValueError` of another name. -/
def semanticAnswerInvalid (message : String) : PyException := .valueError message

def validateCitation (sourceLineCount : ℕ) (citation : Citation) : Except PyException Unit := do
  let start ← citation.rawStart.int
  let stop ← citation.rawEnd.int
  raiseUnless (1 ≤ start ∧ start ≤ stop ∧ stop ≤ sourceLineCount)
    (semanticAnswerInvalid s!"citation is outside source bounds: L{start}-L{stop}")

/-- `validate_semantic_answer`. -/
def validateSemanticAnswer (unicode : Unicode) (answer : String) (sourceLineCount : ℕ) :
    Except PyException Unit := do
  let lowered := unicode.casefold answer
  let missing := REQUIRED_HEADINGS.filter fun heading => !isIn heading lowered
  let listed := join ", " missing
  raiseUnless (missing = []) (semanticAnswerInvalid s!"missing required headings: {listed}")
  let citations := CITATION.findall answer.toList
  raiseUnless (citations ≠ [])
    (semanticAnswerInvalid "at least one source-line citation is required")
  forM citations (validateCitation sourceLineCount)

/-- The citation stands in the answer. -/
def Cites (answer : String) (citation : Citation) : Prop :=
  CITATION.spell citation <:+: answer.toList

/-- The line numbers of the citation are in bounds, and short enough to be read. -/
structure Citation.InBounds (sourceLineCount : ℕ) (citation : Citation) : Prop where
  start_length : citation.rawStart.digits.length ≤ 4300
  end_length : citation.rawEnd.digits.length ≤ 4300
  one_le_start : 1 ≤ citation.rawStart.value
  start_le_end : citation.rawStart.value ≤ citation.rawEnd.value
  end_le : citation.rawEnd.value ≤ sourceLineCount

theorem validateCitation_eq_ok_iff {sourceLineCount : ℕ} {citation : Citation} :
    validateCitation sourceLineCount citation = .ok () ↔ citation.InBounds sourceLineCount := by
  simp only [validateCitation, except_bind_eq_ok, Decimals.int_eq_ok_iff, raiseUnless_eq_ok_iff]
  refine ⟨?_, ?_⟩
  · intro h
    obtain ⟨_, ⟨start_length, rfl⟩, _, ⟨end_length, rfl⟩, first, ordered, last⟩ := h
    exact ⟨start_length, end_length, first, ordered, last⟩
  · intro h
    exact ⟨_, ⟨h.start_length, rfl⟩, _, ⟨h.end_length, rfl⟩, h.one_le_start, h.start_le_end,
      h.end_le⟩

/-- An accepted answer has every heading and a citation, and no citation out of bounds. -/
theorem validateSemanticAnswer_eq_ok_iff {unicode : Unicode} {answer : String}
    {sourceLineCount : ℕ} :
    validateSemanticAnswer unicode answer sourceLineCount = .ok () ↔
      (∀ heading ∈ REQUIRED_HEADINGS, isIn heading (unicode.casefold answer) = true) ∧
      (∃ citation, Cites answer citation) ∧
        ∀ citation, Cites answer citation → citation.InBounds sourceLineCount := by
  simp only [validateSemanticAnswer, check_bind_eq_ok, raiseUnless_eq_ok_iff, forM_eq_ok_iff,
    validateCitation_eq_ok_iff, Marker.mem_findall_iff, List.filter_eq_nil_iff,
    Bool.not_eq_true', Bool.not_eq_false]
  refine and_congr_right fun _ => and_congr_left fun _ => ?_
  refine ⟨?_, ?_⟩
  · intro nonempty
    obtain ⟨citation, member⟩ := List.exists_mem_of_ne_nil _ nonempty
    exact ⟨citation, Marker.mem_findall_iff.mp member⟩
  · intro h
    obtain ⟨citation, cites⟩ := h
    exact List.ne_nil_of_mem (Marker.mem_findall_iff.mpr cites)

/-! ## The prompt -/

/-- The instructions of `_SEMANTIC_PROMPT`. -/
def SEMANTIC_INSTRUCTIONS : String :=
  "Jawab hanya berdasarkan sumber bernomor yang diberikan. " ++
    "Jangan gunakan pengetahuan eksternal dan jangan menjalankan tool. " ++
    "Setiap temuan material wajib memakai sitasi [Sumber Lx-Ly]. " ++
    "Gunakan heading: Jawaban Ringkas; Temuan dan Kekurangan; " ++
    "Checklist Perbaikan; Batasan dan Informasi yang Belum Tersedia; Sumber.\n"

def SEMANTIC_TEMPLATE : String :=
  SEMANTIC_INSTRUCTIONS ++ "Pertanyaan: {question}\nSumber:\n{numbered_source}"

/-- `_SEMANTIC_PROMPT.render`. -/
def renderSemanticPrompt (question numberedSource : String) : String :=
  SEMANTIC_INSTRUCTIONS ++ "Pertanyaan: " ++ question ++ "\nSumber:\n" ++ numberedSource

/-- `content.splitlines() or [content]`. -/
def sourceLines (content : String) : List String :=
  match splitlines content with
  | [] => [content]
  | line :: lines => line :: lines

def numberedLine (line : String) (index : ℕ) : String := s!"L{index}: {line}"

/-- The lines under their numbers, from one on. -/
def numberedLines (content : String) : List String :=
  ((sourceLines content).zipIdx 1).map fun entry => numberedLine entry.1 entry.2

def numberedSource (content : String) : String := join "\n" (numberedLines content)

/-! ## The analysis -/

structure DocumentIntelligence where
  platform : Platform
  unicode : Unicode

namespace DocumentIntelligence

/-- An analysis awaits the model gateway. -/
abbrev AnalysisM (α : Type) : Type :=
  Session Unit PyException ModelRequest (fun _ => ModelResponse) α

abbrev AnalysisTrace : Type := Trace PyException ModelRequest fun _ => ModelResponse

variable {intelligence : DocumentIntelligence}

def prompt {platform : Platform} (request : DocumentAnalysisRequest platform) : String :=
  renderSemanticPrompt (strip request.question) (numberedSource request.source.content)

/-- `ExecutionBudget(max_tokens=2_000, max_steps=1)`. -/
def analysisBudget : ExecutionBudget :=
  ⟨{ maxTokens := some 2000, maxSteps := some 1 }, by decide +kernel⟩

/-- The request meets the constraints of the model request, whatever the document. -/
def modelRequest {platform : Platform} (request : DocumentAnalysisRequest platform) :
    ModelRequest where
  runId := request.runId
  correlationId := request.correlationId
  policyRef := request.policyRef
  purpose := "source-bound-document-analysis"
  dataClassification := request.source.dataClassification
  promptId := some "genesis.document-semantic-analysis"
  promptVersion := some "1.0.0"
  messages := [[("role", .str "user"), ("content", .str (prompt request))]]
  requestedMaxTokens := 2000
  budget := analysisBudget
  wellFormed := by
    have purpose : 1 ≤ "source-bound-document-analysis".length := by decide
    have tokens : 1 ≤ 2000 := by decide
    refine ⟨request.runId_length.1, request.correlationId_length.1, request.policyRef_length,
      purpose, ?_, ?_, List.cons_ne_nil _ _, tokens⟩
    · intro id same
      cases same
      decide
    · intro version same
      cases same
      decide

/-- The draft, from an answer that is accepted. -/
def draft (intelligence : DocumentIntelligence)
    (request : DocumentAnalysisRequest intelligence.platform) (response : ModelResponse) :
    Except PyException DocumentAnalysisDraft := do
  validateSemanticAnswer intelligence.unicode response.content
    (sourceLines request.source.content).length
  construct "DocumentAnalysisDraft" fun answer_length : 1 ≤ response.content.length =>
    { correlationId := request.correlationId
      sourceId := request.source.sourceId
      sourceVersion := request.source.version
      contentSha256 := request.source.contentSha256
      answer := response.content
      promptId := "genesis.document-semantic-analysis"
      promptVersion := "1.0.0"
      promptSha256 := intelligence.platform.sha256Hex SEMANTIC_TEMPLATE
      limitations :=
        ["Analysis is restricted to the supplied immutable source.",
          "Backend review and governance remain required for authoritative use."]
      answer_length }

/-- `analyze`. -/
def analyze (intelligence : DocumentIntelligence)
    (request : DocumentAnalysisRequest intelligence.platform) :
    AnalysisM DocumentAnalysisDraft := do
  let response ← await (modelRequest request)
  compute (intelligence.draft request response)

/-! ## The lines shown -/

theorem sourceLines_length_pos (content : String) : 1 ≤ (sourceLines content).length := by
  unfold sourceLines
  split
  · exact le_rfl
  · exact Nat.succ_le_succ (Nat.zero_le _)

/-- A document that is not empty has its lines. -/
theorem sourceLines_eq_splitlines {content : String} (nonempty : 1 ≤ content.length) :
    sourceLines content = splitlines content := by
  unfold sourceLines
  split
  next empty =>
    have chars : content.toList ≠ [] := by
      rw [ne_eq, String.toList_eq_nil_iff]
      exact one_le_length_iff.mp nonempty
    have none := List.map_eq_nil_iff.mp empty
    exact absurd none (linesFrom_ne_nil (.inr chars))
  next lines => exact lines.symm

theorem newline_notMem_sourceLines {content line : String} (nonempty : 1 ≤ content.length)
    (member : line ∈ sourceLines content) : '\n' ∉ line.toList := by
  rw [sourceLines_eq_splitlines nonempty] at member
  obtain ⟨chars, inLines, rfl⟩ := List.mem_map.mp member
  rw [String.toList_ofList]
  intro newline
  have clean := not_isLineBreak_of_mem (List.forall_mem_nil _) inLines _ newline
  exact absurd clean (by decide)

/-- A line number is written without a line break. -/
theorem newline_notMem_numberedLine {line : String} (clean : '\n' ∉ line.toList) (index : ℕ) :
    '\n' ∉ (numberedLine line index).toList := by
  have chars : (numberedLine line index).toList =
      'L' :: (Nat.toDigits 10 index ++ (": ".toList ++ line.toList)) := by
    have spelled : numberedLine line index =
        "L" ++ String.ofList (Nat.toDigits 10 index) ++ ": " ++ line := rfl
    rw [spelled]
    simp only [String.toList_append, String.toList_ofList, List.append_assoc]
    rfl
  have digits : '\n' ∉ Nat.toDigits 10 index := by
    intro member
    exact absurd (Nat.isDigit_of_mem_toDigits (by decide) (by decide) member) (by decide)
  have separator : '\n' ∉ ": ".toList := by decide
  rw [chars]
  simp only [List.mem_cons, List.mem_append, not_or]
  exact ⟨by decide, digits, separator, clean⟩

theorem length_numberedLines {content : String} :
    (numberedLines content).length = (sourceLines content).length := by
  rw [numberedLines, List.length_map, List.length_zipIdx]

/-- What is joined with newlines is split there. -/
theorem splitOn_numberedSource {content : String} (nonempty : 1 ≤ content.length) :
    splitOn '\n' (numberedSource content) = numberedLines content := by
  have some_line : numberedLines content ≠ [] := by
    have positive := sourceLines_length_pos content
    rw [← length_numberedLines] at positive
    exact List.ne_nil_of_length_pos positive
  apply splitOn_join some_line
  intro entry member
  obtain ⟨⟨line, index⟩, inLines, rfl⟩ := List.mem_map.mp member
  exact newline_notMem_numberedLine (newline_notMem_sourceLines nonempty
    (List.fst_mem_of_mem_zipIdx inLines)) index

/-- The numbered source splits at newlines into the source lines, each under its number. -/
structure NumbersLines (content : String) : Prop where
  one_le : 1 ≤ (sourceLines content).length
  length_eq : (splitOn '\n' (numberedSource content)).length = (sourceLines content).length
  entry : ∀ k line, (sourceLines content)[k]? = some line →
    (splitOn '\n' (numberedSource content))[k]? = some s!"L{k + 1}: {line}"

theorem numbersLines {content : String} (nonempty : 1 ≤ content.length) :
    NumbersLines content := by
  refine ⟨sourceLines_length_pos content, ?_, ?_⟩
  · rw [splitOn_numberedSource nonempty, length_numberedLines]
  · intro k line found
    rw [splitOn_numberedSource nonempty, numberedLines, List.getElem?_map, List.getElem?_zipIdx,
      found, Nat.add_comm 1 k]
    rfl

/-! ## The citations accepted -/

/-- Every citation of the answer denotes source lines, and there is one. -/
structure CitesLines (content answer : String) : Prop where
  exists_citation : ∃ citation, Cites answer citation
  bounds : ∀ citation, Cites answer citation →
    1 ≤ citation.rawStart.value ∧ citation.rawStart.value ≤ citation.rawEnd.value ∧
      citation.rawEnd.value ≤ (sourceLines content).length
  range : ∀ citation, Cites answer citation →
    ∀ k, citation.rawStart.value ≤ k → k ≤ citation.rawEnd.value →
      ∃ line, (sourceLines content)[k - 1]? = some line ∧
        (splitOn '\n' (numberedSource content))[k - 1]? = some s!"L{k}: {line}"

theorem citesLines_of_validate {unicode : Unicode} {content answer : String}
    (nonempty : 1 ≤ content.length)
    (accepted : validateSemanticAnswer unicode answer (sourceLines content).length = .ok ()) :
    CitesLines content answer := by
  obtain ⟨-, cited, inBounds⟩ := validateSemanticAnswer_eq_ok_iff.mp accepted
  refine ⟨cited, ?_, ?_⟩
  · intro citation cites
    have bounds := inBounds citation cites
    exact ⟨bounds.one_le_start, bounds.start_le_end, bounds.end_le⟩
  · intro citation cites k from_start to_end
    have bounds := inBounds citation cites
    have one_le : 1 ≤ k := bounds.one_le_start.trans from_start
    have lt : k - 1 < (sourceLines content).length := by
      have le := to_end.trans bounds.end_le
      omega
    have found := List.getElem?_eq_getElem lt
    have entry := (numbersLines nonempty).entry (k - 1) _ found
    rw [Nat.sub_add_cancel one_le] at entry
    exact ⟨_, found, entry⟩

theorem runs_analyze {request : DocumentAnalysisRequest intelligence.platform}
    {t : AnalysisTrace} {result : DocumentAnalysisDraft} :
    Runs (intelligence.analyze request) () t (.ok result) () ↔
      ∃ response, t = [⟨modelRequest request, .ok response⟩] ∧
        intelligence.draft request response = .ok result := by
  unfold analyze
  rw [runs_await_bind]
  refine ⟨?_, ?_⟩
  · intro run
    rcases run with ⟨e, -, impossible, -⟩ | ⟨response, rest, rfl, ending⟩
    · cases impossible
    · obtain ⟨rfl, built, -⟩ := runs_compute.mp ending
      exact ⟨response, rfl, built.symm⟩
  · intro h
    obtain ⟨response, rfl, built⟩ := h
    exact .inr ⟨response, [], rfl, runs_compute.mpr ⟨rfl, built.symm, rfl⟩⟩

theorem draft_eq_ok {request : DocumentAnalysisRequest intelligence.platform}
    {response : ModelResponse} {result : DocumentAnalysisDraft}
    (built : intelligence.draft request response = .ok result) :
    validateSemanticAnswer intelligence.unicode response.content
        (sourceLines request.source.content).length = .ok () ∧
      result.answer = response.content := by
  rw [draft, check_bind_eq_ok, construct_eq_ok_iff] at built
  obtain ⟨accepted, _, rfl⟩ := built
  exact ⟨accepted, rfl⟩

/-- The model is shown every source line under its number, and every answer that
becomes a draft cites lines it was shown. -/
theorem citations_resolve (intelligence : DocumentIntelligence) :
    (∀ content : String, 1 ≤ content.length → NumbersLines content) ∧
      ∀ (request : DocumentAnalysisRequest intelligence.platform) (t : AnalysisTrace)
        (result : DocumentAnalysisDraft),
        Runs (intelligence.analyze request) () t (.ok result) () →
          (∃ model response, t = [⟨model, .ok response⟩] ∧
            model.messages = [[("role", .str "user"), ("content", .str (renderSemanticPrompt
              (strip request.question) (numberedSource request.source.content)))]] ∧
              result.answer = response.content) ∧
          CitesLines request.source.content result.answer := by
  refine ⟨fun content nonempty => numbersLines nonempty, ?_⟩
  intro request t result run
  obtain ⟨response, rfl, built⟩ := runs_analyze.mp run
  obtain ⟨accepted, answer⟩ := draft_eq_ok built
  refine ⟨⟨_, response, rfl, rfl, answer⟩, ?_⟩
  rw [answer]
  exact citesLines_of_validate request.source.content_length.1 accepted

/-! ## A policy of two lines -/

/-- A platform with the digests of the policy, under two kinds of line breaks, and of the
template. -/
def policyPlatform : Platform :=
  .hashing
    [("Kebijakan aktif.\r\nBerlaku tahun ini.",
      "53072fe694e258d1452516a5d78f73908252bca34dbc23349fe91fb521b16cc2"),
    ("Kebijakan aktif.\nBerlaku tahun ini.\n",
      "2402a0cb3274885392cbac4892965f2c0d57fd9052bbe5d08065ba8a131196ea"),
    (SEMANTIC_TEMPLATE, "8cb5631b4af90a25d94ec09ebcd434d0ccd6e771be1e068422ae32fc56dd9eaf")]

def policySource : DocumentSource policyPlatform where
  sourceId := "source_policy_001"
  version := "1.0.0"
  contentSha256 := "53072fe694e258d1452516a5d78f73908252bca34dbc23349fe91fb521b16cc2"
  content := "Kebijakan aktif.\r\nBerlaku tahun ini."
  sourceId_length := by decide
  version_length := by decide
  contentSha256_pattern := by decide +kernel
  content_length := by decide +kernel
  digest := by decide +kernel

def policyQuestion : DocumentAnalysisRequest policyPlatform where
  runId := "run_document_001"
  correlationId := "corr_document_001"
  question := "Apa status kebijakan?"
  source := policySource
  policyRef := "policy.document"
  runId_length := by decide
  correlationId_length := by decide
  question_length := by decide
  policyRef_length := by decide

def policyAnswer : ModelResponse where
  content := "Jawaban Ringkas\nTemuan dan Kekurangan\nChecklist Perbaikan\n" ++
    "Batasan dan Informasi yang Belum Tersedia\nSumber\n[Sumber L1-L2]"
  routeId := "route.test"
  inputTokens := 20
  outputTokens := 30

def asciiIntelligence : DocumentIntelligence := ⟨policyPlatform, .ascii⟩

theorem policyAnswer_accepted :
    validateSemanticAnswer .ascii policyAnswer.content 2 = .ok () := by
  decide +kernel

theorem citations_resolve_policy :
    NumbersLines policySource.content ∧ CitesLines policySource.content policyAnswer.content := by
  have lines : (sourceLines policySource.content).length = 2 := by decide +kernel
  have accepted : validateSemanticAnswer .ascii policyAnswer.content
      (sourceLines policySource.content).length = .ok () := by
    rw [lines]
    exact policyAnswer_accepted
  obtain ⟨result, built⟩ : ∃ result,
      asciiIntelligence.draft policyQuestion policyAnswer = .ok result := by
    have answer_length : 1 ≤ policyAnswer.content.length :=
      one_le_length_iff.mpr (by decide +kernel)
    refine ⟨_, check_bind_eq_ok.mpr ⟨accepted, construct_eq_ok_iff.mpr ⟨answer_length, rfl⟩⟩⟩
  have run : Runs (asciiIntelligence.analyze policyQuestion) ()
      [⟨modelRequest policyQuestion, .ok policyAnswer⟩] (.ok result) () :=
    runs_analyze.mpr ⟨policyAnswer, rfl, built⟩
  obtain ⟨numbers, resolves⟩ := citations_resolve asciiIntelligence
  refine ⟨numbers _ policySource.content_length.1, ?_⟩
  have cites := (resolves policyQuestion _ result run).2
  rw [(draft_eq_ok built).2] at cites
  exact cites

end DocumentIntelligence

end Genesis

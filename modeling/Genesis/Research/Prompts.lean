import Genesis.Lib.JsonAlike
import Genesis.Research.Documents
import Genesis.Research.Engine

/-!
# What a prompt tells

The prompts of the two research services are plain concatenations, and a question may
contain the words that introduce the bundle or the source.  No question can pass for
them: the bundle is the last line of its prompt, and the lines of a source bear their
numbers.  So a prompt tells the question and what follows it
(`renderResearchPrompt_inj`, `renderSemanticPrompt_inj`).
-/

namespace Genesis

open Py Session

/-! ## The prompt of a research -/

/-- The bundle stands behind the last line break of the prompt. -/
theorem exists_head_renderResearchPrompt : ∃ head : List Char, ∀ question bundle : String,
    (renderResearchPrompt question bundle).toList =
      (head ++ question.toList) ++ '\n' :: ("ContextBundle: ".toList ++ bundle.toList) := by
  apply Exists.intro
  intro question bundle
  unfold renderResearchPrompt
  rw [String.toList_append, String.toList_append, String.toList_append, List.append_assoc]
  rfl

/-- The prompt tells the question and the bundle, if the bundle is a single line. -/
theorem renderResearchPrompt_inj {question question' bundle bundle' : String}
    (line : '\n' ∉ bundle.toList) (line' : '\n' ∉ bundle'.toList) :
    renderResearchPrompt question bundle = renderResearchPrompt question' bundle' ↔
      question = question' ∧ bundle = bundle' := by
  have clean {text : String} (line : '\n' ∉ text.toList) :
      '\n' ∉ "ContextBundle: ".toList ++ text.toList := by
    rw [List.mem_append, not_or]
    exact ⟨by decide, line⟩
  obtain ⟨head, spelled⟩ := exists_head_renderResearchPrompt
  rw [← String.toList_inj, spelled, spelled,
    append_last_separator_inj (clean line) (clean line'), List.append_cancel_left_eq,
    List.append_cancel_left_eq, String.toList_inj, String.toList_inj]

/-! ## The prompt of a document -/

namespace DocumentIntelligence

theorem toList_numberedLine (line : String) (index : ℕ) :
    (numberedLine line index).toList =
      'L' :: (Nat.toDigits 10 index ++ (": ".toList ++ line.toList)) := by
  have spelled : numberedLine line index =
      "L" ++ String.ofList (Nat.toDigits 10 index) ++ ": " ++ line := rfl
  rw [spelled]
  simp only [String.toList_append, String.toList_ofList, List.append_assoc]
  rfl

/-- The numbered lines tell the lines. -/
theorem numberedLines_inj {content content' : String} :
    numberedLines content = numberedLines content' ↔
      sourceLines content = sourceLines content' := by
  refine ⟨?_, fun same => by rw [numberedLines, numberedLines, same]⟩
  intro same
  have lengths := congrArg List.length same
  rw [length_numberedLines, length_numberedLines] at lengths
  refine List.ext_getElem lengths fun i inLines inLines' => ?_
  have entry := congrArg (·[i]?) same
  simp only [numberedLines, List.getElem?_map, List.getElem?_zipIdx,
    List.getElem?_eq_getElem inLines, List.getElem?_eq_getElem inLines', Option.map_some,
    Option.some.injEq] at entry
  have chars := congrArg String.toList entry
  rw [toList_numberedLine, toList_numberedLine, List.cons.injEq, List.append_cancel_left_eq,
    List.append_cancel_left_eq, String.toList_inj] at chars
  exact chars.2

/-- No numbered line is the one that introduces the source. -/
theorem heading_notMem_numberedLines (content : String) : "Sumber:" ∉ numberedLines content := by
  intro member
  obtain ⟨⟨line, index⟩, -, same⟩ := List.mem_map.mp member
  have chars := congrArg String.toList same
  rw [toList_numberedLine] at chars
  have first : 'L' = 'S' := (List.cons.inj chars).1
  cases first

/-- The lines of the prompt: those of the question, the heading and the source. -/
theorem splitOn_prompt {question content : String} (nonempty : 1 ≤ content.length) :
    splitOn '\n' (renderSemanticPrompt question (numberedSource content)) =
      splitOn '\n' (SEMANTIC_INSTRUCTIONS ++ "Pertanyaan: " ++ question) ++
        "Sumber:" :: numberedLines content := by
  have parts : renderSemanticPrompt question (numberedSource content) =
      SEMANTIC_INSTRUCTIONS ++ "Pertanyaan: " ++ question ++
        ("\nSumber:\n" ++ numberedSource content) := String.append_assoc
  have block : ("\nSumber:\n" ++ numberedSource content).toList =
      '\n' :: ("Sumber:".toList ++ '\n' :: (numberedSource content).toList) := by
    rw [String.toList_append]
    rfl
  have heading : ("Sumber:".toList ++ '\n' :: (numberedSource content).toList).splitOn '\n' =
      "Sumber:".toList :: (numberedSource content).toList.splitOn '\n' :=
    List.splitOn_append_cons_self_of_not_mem (by decide) _
  have numbered := splitOn_numberedSource nonempty
  rw [splitOn] at numbered
  rw [splitOn, splitOn, parts, String.toList_append, block, List.splitOn_append_cons_self, heading,
    List.map_append, List.map_cons, numbered]
  rfl

/-- The prompt tells the question and the lines of the source. -/
theorem renderSemanticPrompt_inj {question question' content content' : String}
    (nonempty : 1 ≤ content.length) (nonempty' : 1 ≤ content'.length) :
    renderSemanticPrompt question (numberedSource content) =
        renderSemanticPrompt question' (numberedSource content') ↔
      question = question' ∧ sourceLines content = sourceLines content' := by
  refine ⟨?_, ?_⟩
  · intro same
    have lines := congrArg (splitOn '\n') same
    rw [splitOn_prompt nonempty, splitOn_prompt nonempty',
      append_last_separator_inj (heading_notMem_numberedLines _) (heading_notMem_numberedLines _),
      numberedLines_inj] at lines
    obtain ⟨asked, shown⟩ := lines
    exact ⟨(String.append_right_inj _).mp (splitOn_inj asked), shown⟩
  · rintro ⟨rfl, shown⟩
    rw [numberedSource, numberedSource, numberedLines_inj.mpr shown]

/-! ## What a model is shown -/

variable {intelligence : DocumentIntelligence}

/-- An analysis is one call of the model, and a draft of its reply. -/
theorem runs_analyze_iff {request : DocumentAnalysisRequest intelligence.platform}
    {t : AnalysisTrace} {r : Except PyException DocumentAnalysisDraft} :
    Runs (intelligence.analyze request) () t r () ↔
      ∃ reply, t = [⟨modelRequest request, reply⟩] ∧ reply >>= intelligence.draft request = r := by
  unfold analyze
  rw [runs_await_bind]
  refine ⟨?_, ?_⟩
  · rintro (⟨e, rfl, rfl, -⟩ | ⟨response, rest, rfl, ending⟩)
    · exact ⟨.error e, rfl, rfl⟩
    · obtain ⟨rfl, built, -⟩ := runs_compute.mp ending
      exact ⟨.ok response, rfl, built.symm⟩
  · rintro ⟨e | response, rfl, rfl⟩
    · exact .inl ⟨e, rfl, rfl, rfl⟩
    · exact .inr ⟨response, [], rfl, runs_compute.mpr ⟨rfl, rfl, rfl⟩⟩

/-- Of a document the verdict on an answer takes only the number of lines. -/
theorem draft_answer_eq {request request' : DocumentAnalysisRequest intelligence.platform}
    (lines : (sourceLines request.source.content).length =
      (sourceLines request'.source.content).length) (response : ModelResponse) :
    (intelligence.draft request response).map (·.answer) =
      (intelligence.draft request' response).map (·.answer) := by
  unfold draft
  rw [lines]
  cases validateSemanticAnswer intelligence.unicode response.content
      (sourceLines request'.source.content).length with
  | error exc => rfl
  | ok _ =>
    dsimp only [construct]
    split
    · rfl
    · rfl

/-- Two analyses show the model the same messages exactly when they ask the same question,
up to the space around it, about the same lines; then the same reply gives the same
answer, or is refused for the same reason. -/
theorem analyze_shows (intelligence : DocumentIntelligence)
    (request request' : DocumentAnalysisRequest intelligence.platform) (t t' : AnalysisTrace)
    (r r' : Except PyException DocumentAnalysisDraft)
    (run : Runs (intelligence.analyze request) () t r ())
    (run' : Runs (intelligence.analyze request') () t' r' ()) :
    ∃ model reply model' reply', t = [⟨model, reply⟩] ∧ t' = [⟨model', reply'⟩] ∧
      (model.messages = model'.messages ↔ strip request.question = strip request'.question ∧
        sourceLines request.source.content = sourceLines request'.source.content) ∧
      (model.messages = model'.messages → reply = reply' →
        r.map (·.answer) = r'.map (·.answer)) := by
  obtain ⟨reply, rfl, rfl⟩ := runs_analyze_iff.mp run
  obtain ⟨reply', rfl, rfl⟩ := runs_analyze_iff.mp run'
  have shown : (modelRequest request).messages = (modelRequest request').messages ↔
      strip request.question = strip request'.question ∧
        sourceLines request.source.content = sourceLines request'.source.content := by
    rw [← renderSemanticPrompt_inj request.source.content_length.1
      request'.source.content_length.1]
    simp [modelRequest, prompt]
  refine ⟨_, reply, _, reply', rfl, rfl, shown, ?_⟩
  rintro same rfl
  obtain ⟨-, lines⟩ := shown.mp same
  cases reply with
  | error exc => rfl
  | ok response => exact draft_answer_eq (congrArg List.length lines) response

/-- The policy of the tests under other line breaks. -/
def unixSource : DocumentSource policyPlatform :=
  { policySource with
    contentSha256 := "2402a0cb3274885392cbac4892965f2c0d57fd9052bbe5d08065ba8a131196ea"
    content := "Kebijakan aktif.\nBerlaku tahun ini.\n"
    contentSha256_pattern := by decide +kernel
    content_length := by decide +kernel
    digest := by decide +kernel }

def unixQuestion : DocumentAnalysisRequest policyPlatform :=
  { policyQuestion with
    question := " Apa status kebijakan? "
    source := unixSource
    question_length := by decide }

theorem analyze_shows_policy :
    (modelRequest policyQuestion).messages = (modelRequest unixQuestion).messages ∧
      (asciiIntelligence.draft policyQuestion policyAnswer).map (·.answer) =
        (asciiIntelligence.draft unixQuestion policyAnswer).map (·.answer) := by
  have run : ∀ request : DocumentAnalysisRequest asciiIntelligence.platform,
      Runs (asciiIntelligence.analyze request) () [⟨modelRequest request, .ok policyAnswer⟩]
        (asciiIntelligence.draft request policyAnswer) () :=
    fun request => runs_analyze_iff.mpr ⟨.ok policyAnswer, rfl, pure_bind policyAnswer _⟩
  obtain ⟨model, reply, model', reply', asked, asked', shown, verdict⟩ :=
    analyze_shows asciiIntelligence policyQuestion unixQuestion _ _ _ _
      (run policyQuestion) (run unixQuestion)
  cases asked
  cases asked'
  have same := shown.mpr ⟨by decide +kernel, by decide +kernel⟩
  exact ⟨same, verdict same rfl⟩

end DocumentIntelligence

end Genesis

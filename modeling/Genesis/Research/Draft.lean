import Genesis.Context.Models

/-!
# Research drafts

The draft a model is asked for, and its validation from the text of a response.
Text fields take strings only; numbers and booleans are converted as the
validation library does when it is not strict.
-/

namespace Genesis

open Py

/-! ## Fields -/

/-- A value for a `bool` field: the two numbers, or one of these words in any case. -/
def laxBool : Json → Option Bool
  | .bool b => some b
  | .int n => if n = 0 then some false else if n = 1 then some true else none
  | .float q => if q = 0 then some false else if q = 1 then some true else none
  | .str s =>
    if s.toLower ∈ ["0", "off", "f", "false", "n", "no"] then some false
    else if s.toLower ∈ ["1", "on", "t", "true", "y", "yes"] then some true
    else none
  | _ => none

/-- A field read by `read`, `default` being its value when absent. -/
def readField {α : Type} (read : Json → Option α) (model : String) (raw : JsonObject)
    (key : String) (default : Option α) : Except PyException α :=
  match raw.get? key, default with
  | none, some a => .ok a
  | some value, _ =>
    match read value with
    | some a => .ok a
    | none => .error (.validationError model)
  | none, none => .error (.validationError model)

/-- A value for a `str | None` field. -/
def optionalStr : Json → Option (Option String)
  | .null => some none
  | .str s => some (some s)
  | _ => none

def str? : Json → Option String
  | .str s => some s
  | _ => none

/-- A required list of models. -/
def modelsField {α : Type} (validate : JsonObject → Except PyException α) (model : String)
    (raw : JsonObject) (key : String) : Except PyException (List α) :=
  match raw.get? key with
  | some (.arr items) =>
    items.mapM fun value =>
      match value with
      | .obj fields => validate fields
      | _ => .error (.validationError model)
  | _ => .error (.validationError model)

/-! ## Models -/

structure FindingFields where
  findingId : String
  findingType : String := "RESEARCH"
  domain : Option String := none
  title : Option String := none
  statement : String
  severity : Option String := none
  confidence : ℚ
  evidenceIds : List String
  limitations : List String := []

abbrev FindingFields.WellFormed (item : FindingFields) : Prop :=
  3 ≤ item.findingId.length ∧ 1 ≤ item.statement.length ∧
    (0 ≤ item.confidence ∧ item.confidence ≤ 1) ∧ item.evidenceIds ≠ []

/-- `_FindingDraft`. -/
structure FindingDraft extends FindingFields where
  wellFormed : toFindingFields.WellFormed

structure RecommendationFields where
  recommendationId : String
  summary : String
  recommendedAction : String
  confidence : ℚ
  findingIds : List String := []
  evidenceIds : List String := []
  limitations : List String := []
  backlogCandidate : Bool := true

abbrev RecommendationFields.WellFormed (item : RecommendationFields) : Prop :=
  3 ≤ item.recommendationId.length ∧ 1 ≤ item.summary.length ∧
    1 ≤ item.recommendedAction.length ∧ (0 ≤ item.confidence ∧ item.confidence ≤ 1)

/-- `_RecommendationDraft`. -/
structure RecommendationDraft extends RecommendationFields where
  wellFormed : toRecommendationFields.WellFormed

/-- `_ResearchDraft`. -/
structure ResearchDraft where
  findings : List FindingDraft
  recommendations : List RecommendationDraft
  limitations : List String := []

/-! ## Validation -/

def FindingDraft.modelValidate (platform : Platform) (raw : JsonObject) :
    Except PyException FindingDraft := do
  let model := "_FindingDraft"
  forbidExtra model ["finding_id", "finding_type", "domain", "title", "statement", "severity",
    "confidence", "evidence_ids", "limitations"] raw
  let findingId ← strField model raw "finding_id"
  let findingType ← readField str? model raw "finding_type" (some "RESEARCH")
  let domain ← readField optionalStr model raw "domain" (some none)
  let title ← readField optionalStr model raw "title" (some none)
  let statement ← strField model raw "statement"
  let severity ← readField optionalStr model raw "severity" (some none)
  let confidence ← readField (ExecutionBudget.laxFloat platform) model raw "confidence" none
  let evidenceIds ← strTupleField model raw "evidence_ids" none
  let limitations ← strTupleField model raw "limitations" (some [])
  let fields : FindingFields :=
    { findingId, findingType, domain, title, statement, severity, confidence, evidenceIds,
      limitations }
  construct model fun wellFormed : fields.WellFormed => ⟨fields, wellFormed⟩

def RecommendationDraft.modelValidate (platform : Platform) (raw : JsonObject) :
    Except PyException RecommendationDraft := do
  let model := "_RecommendationDraft"
  forbidExtra model ["recommendation_id", "summary", "recommended_action", "confidence",
    "finding_ids", "evidence_ids", "limitations", "backlog_candidate"] raw
  let recommendationId ← strField model raw "recommendation_id"
  let summary ← strField model raw "summary"
  let recommendedAction ← strField model raw "recommended_action"
  let confidence ← readField (ExecutionBudget.laxFloat platform) model raw "confidence" none
  let findingIds ← strTupleField model raw "finding_ids" (some [])
  let evidenceIds ← strTupleField model raw "evidence_ids" (some [])
  let limitations ← strTupleField model raw "limitations" (some [])
  let backlogCandidate ← readField laxBool model raw "backlog_candidate" (some true)
  let fields : RecommendationFields :=
    { recommendationId, summary, recommendedAction, confidence, findingIds, evidenceIds,
      limitations, backlogCandidate }
  construct model fun wellFormed : fields.WellFormed => ⟨fields, wellFormed⟩

/-- `_ResearchDraft.model_validate_json`. -/
def ResearchDraft.modelValidateJson (platform : Platform) (content : String) :
    Except PyException ResearchDraft :=
  match platform.validateJson content with
  | some (.obj raw) => do
    let model := "_ResearchDraft"
    forbidExtra model ["findings", "recommendations", "limitations"] raw
    let findings ← modelsField (FindingDraft.modelValidate platform) model raw "findings"
    let recommendations ←
      modelsField (RecommendationDraft.modelValidate platform) model raw "recommendations"
    let limitations ← strTupleField model raw "limitations" (some [])
    pure { findings, recommendations, limitations }
  | _ => .error (.validationError "_ResearchDraft")

end Genesis

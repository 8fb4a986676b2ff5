import Genesis.ModelGateway

/-!
# Models and ports of the agent runtime

The planner, the tool client and the model gateway are the ports of the engine:
each call is a question of a dialogue.  `plans`, `sent`, `received` and
`completions` read the plans, the tool requests, the tool results and the model
requests off a trace.
-/

namespace Genesis

open Py

/-! ## Models -/

/-- `SEMVER_PATTERN`. -/
def IsSemver (s : String) : Prop :=
  let parts := s.toList.span fun c => c ≠ '-'
  let numerals := parts.1.splitOn '.'
  numerals.length = 3 ∧ numerals.all isNumeral ∧
    (parts.2 = [] ∨ 2 ≤ parts.2.length ∧
      parts.2.tail.all fun c => c.isAlphanum || c = '.' || c = '-')

instance (s : String) : Decidable (IsSemver s) := inferInstanceAs (Decidable (_ ∧ _))

/-- The fields of an `AgentDefinition` the runtime reads. -/
structure AgentDefinition where
  agentId : String
  agentVersion : String
  purpose : String
  capabilityIds : List String
  allowedToolIds : List String := []
  modelPolicyRef : String
  inputSchema : JsonObject := [("type", .str "object")]
  outputSchema : JsonObject := [("type", .str "object")]
  wellFormed : IdLength agentId ∧ IsSemver agentVersion ∧ 1 ≤ purpose.length ∧
    capabilityIds ≠ [] ∧ 1 ≤ modelPolicyRef.length := by decide

structure ToolCallIntent where
  toolId : String
  arguments : JsonObject
  toolId_length : IdLength toolId := by decide
  deriving DecidableEq

structure ExecutionPlan where
  messages : List JsonObject
  toolCalls : List ToolCallIntent := []
  messages_nonempty : messages ≠ [] := by decide
  deriving DecidableEq

inductive LifecycleState : Type
  | active
  | testAuthorized
  deriving DecidableEq

/-- The Backend-issued execution snapshot. -/
structure RuntimeAuthorization where
  runId : String
  lifecycleState : LifecycleState
  allowedToolIds : List String := []
  runId_length : IdLength runId := by decide

/-! ## Ports -/

/-- The calls an `AgentRuntimeEngine` awaits. -/
inductive AgentCall : Type
  | plan (definition : AgentDefinition) (request : JsonObject)
  | execute (payload : JsonObject) (correlationId : String)
  | complete (request : ModelRequest)

/-- What a call returns when it does not raise. -/
abbrev AgentCall.Reply : AgentCall → Type
  | .plan _ _ => ExecutionPlan
  | .execute _ _ => JsonObject
  | .complete _ => ModelResponse

/-- A program over the ports whose state is the list `tool_results`. -/
abbrev EngineM (α : Type) : Type :=
  Session (List JsonObject) PyException AgentCall AgentCall.Reply α

abbrev AgentEvent : Type :=
  Dialogue.Event AgentCall fun call => Except PyException call.Reply

abbrev AgentTrace : Type := List AgentEvent

/-- The plan of an event. -/
def AgentEvent.plan? : AgentEvent → Option ExecutionPlan
  | ⟨.plan _ _, .ok plan⟩ => some plan
  | _ => none

/-- The ToolRequest of an event. -/
def AgentEvent.sent? : AgentEvent → Option JsonObject
  | ⟨.execute payload _, _⟩ => some payload
  | _ => none

/-- The ToolResult of an event. -/
def AgentEvent.received? : AgentEvent → Option JsonObject
  | ⟨.execute _ _, .ok result⟩ => some result
  | _ => none

/-- The ModelRequest of an event. -/
def AgentEvent.completion? : AgentEvent → Option ModelRequest
  | ⟨.complete request, _⟩ => some request
  | _ => none

namespace AgentTrace

def plans (t : AgentTrace) : List ExecutionPlan := t.filterMap AgentEvent.plan?

def sent (t : AgentTrace) : List JsonObject := t.filterMap AgentEvent.sent?

def received (t : AgentTrace) : List JsonObject := t.filterMap AgentEvent.received?

def completions (t : AgentTrace) : List ModelRequest := t.filterMap AgentEvent.completion?

variable {t u : AgentTrace}

@[simp] theorem plans_append : plans (t ++ u) = plans t ++ plans u := List.filterMap_append

@[simp] theorem sent_append : sent (t ++ u) = sent t ++ sent u := List.filterMap_append

@[simp] theorem received_append : received (t ++ u) = received t ++ received u :=
  List.filterMap_append

end AgentTrace

end Genesis

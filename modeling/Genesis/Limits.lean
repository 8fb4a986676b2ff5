import Genesis.Lib.Bounds
import Genesis.Platform
import Mathlib.Algebra.Order.Archimedean.Basic

/-!
# Execution budgets

`ExecutionBudget` with its eight optional limits, its validation from an
untyped document, and `contains`, the comparison a child budget has to pass.
The cost limit is an exact rational.

`ExecutionBudget.ceilings` is what a budget means: the greatest amount it
allows of each resource.  `contains_iff` connects `contains` to the pointwise
order of these functions, so containment is reflexive and transitive there.
`contains_iff_admits` says the same of the usage a budget admits.
-/

namespace Genesis

open Py

/-- The fields of an `ExecutionBudget`, before its constraints are checked. -/
structure ExecutionBudgetFields where
  maxTokens : Option ℕ := none
  maxCost : Option ℚ := none
  maxSteps : Option ℕ := none
  maxToolCalls : Option ℕ := none
  maxChildren : Option ℕ := none
  maxDepth : Option ℕ := none
  timeoutSeconds : Option ℕ := none
  concurrencyLimit : Option ℕ := none
  deriving DecidableEq

/-- The limits `contains` loops over, in field order. -/
inductive BudgetField : Type
  | maxTokens
  | maxCost
  | maxSteps
  | maxToolCalls
  | maxChildren
  | maxDepth
  | timeoutSeconds
  | concurrencyLimit
  deriving DecidableEq

namespace BudgetField

def all : List BudgetField :=
  [.maxTokens, .maxCost, .maxSteps, .maxToolCalls, .maxChildren, .maxDepth, .timeoutSeconds,
    .concurrencyLimit]

theorem mem_all (field : BudgetField) : field ∈ all := by
  cases field <;> decide

def name : BudgetField → String
  | .maxTokens => "max_tokens"
  | .maxCost => "max_cost"
  | .maxSteps => "max_steps"
  | .maxToolCalls => "max_tool_calls"
  | .maxChildren => "max_children"
  | .maxDepth => "max_depth"
  | .timeoutSeconds => "timeout_seconds"
  | .concurrencyLimit => "concurrency_limit"

/-- The `ge` constraint of the field. -/
def minimum : BudgetField → ℚ
  | .maxTokens | .maxSteps | .timeoutSeconds | .concurrencyLimit => 1
  | .maxCost | .maxToolCalls | .maxChildren | .maxDepth => 0

end BudgetField

/-- `getattr(budget, field_name)`. -/
def ExecutionBudgetFields.value (budget : ExecutionBudgetFields) : BudgetField → Option ℚ
  | .maxTokens => budget.maxTokens.map (↑)
  | .maxCost => budget.maxCost
  | .maxSteps => budget.maxSteps.map (↑)
  | .maxToolCalls => budget.maxToolCalls.map (↑)
  | .maxChildren => budget.maxChildren.map (↑)
  | .maxDepth => budget.maxDepth.map (↑)
  | .timeoutSeconds => budget.timeoutSeconds.map (↑)
  | .concurrencyLimit => budget.concurrencyLimit.map (↑)

/-- Every limit that is set is at least its minimum, and one is set
(`require_at_least_one_limit`). -/
def ExecutionBudgetFields.WellFormed (budget : ExecutionBudgetFields) : Prop :=
  (∀ field ∈ BudgetField.all, ∀ limit ∈ budget.value field, field.minimum ≤ limit) ∧
    ∃ field ∈ BudgetField.all, (budget.value field).isSome

instance (budget : ExecutionBudgetFields) : Decidable budget.WellFormed :=
  inferInstanceAs (Decidable (_ ∧ _))

structure ExecutionBudget extends ExecutionBudgetFields where
  wellFormed : toExecutionBudgetFields.WellFormed
  deriving DecidableEq

namespace ExecutionBudget

/-- `ExecutionBudget(...)`. -/
def ofFields (fields : ExecutionBudgetFields) : Except PyException ExecutionBudget :=
  construct "ExecutionBudget" fun wellFormed : fields.WellFormed => ⟨fields, wellFormed⟩

theorem ofFields_eq_ok_iff {fields : ExecutionBudgetFields} {budget : ExecutionBudget} :
    ofFields fields = .ok budget ↔ budget.toExecutionBudgetFields = fields := by
  rw [ofFields, construct_eq_ok_iff]
  refine ⟨?_, ?_⟩
  · intro h
    rcases h with ⟨_, rfl⟩
    rfl
  · intro h
    subst h
    exact ⟨budget.wellFormed, rfl⟩

/-- A budget that limits steps allows one. -/
theorem one_le_of_mem_maxSteps {budget : ExecutionBudget} {maximum : ℕ}
    (set : maximum ∈ budget.maxSteps) : 1 ≤ maximum := by
  have value : (maximum : ℚ) ∈ budget.value .maxSteps := Option.mem_map_of_mem _ set
  have least : (1 : ℚ) ≤ maximum := budget.wellFormed.1 .maxSteps (BudgetField.mem_all _) _ value
  exact_mod_cast least

/-- The limits are all there is to a budget. -/
theorem value_injective {budget other : ExecutionBudget} (same : budget.value = other.value) :
    budget = other := by
  have cast : Function.Injective ((↑) : ℕ → ℚ) := Nat.cast_injective
  have maxTokens := Option.map_injective cast (congrFun same .maxTokens)
  have maxCost : budget.maxCost = other.maxCost := congrFun same .maxCost
  have maxSteps := Option.map_injective cast (congrFun same .maxSteps)
  have maxToolCalls := Option.map_injective cast (congrFun same .maxToolCalls)
  have maxChildren := Option.map_injective cast (congrFun same .maxChildren)
  have maxDepth := Option.map_injective cast (congrFun same .maxDepth)
  have timeoutSeconds := Option.map_injective cast (congrFun same .timeoutSeconds)
  have concurrencyLimit := Option.map_injective cast (congrFun same .concurrencyLimit)
  obtain ⟨⟨⟩, _⟩ := budget
  obtain ⟨⟨⟩, _⟩ := other
  subst maxTokens maxCost maxSteps maxToolCalls maxChildren maxDepth timeoutSeconds
    concurrencyLimit
  rfl

/-! ## Validation of an untyped budget -/

/-- A value for an `int` field: booleans count, and so do integral floats that a machine
integer can hold; numeric text is read by the platform. -/
def laxInt (platform : Platform) : Json → Option Int
  | .int n => some n
  | .bool b => some (if b then 1 else 0)
  | .float q => if q.den = 1 ∧ -2 ^ 63 < q ∧ q < 2 ^ 63 then some q.num else none
  | .str s => platform.intOfStr s
  | _ => none

/-- A value for a `float` field. -/
def laxFloat (platform : Platform) : Json → Option ℚ
  | .int n => floatOfInt? n
  | .bool b => some (if b then 1 else 0)
  | .float q => some q
  | .str s => platform.floatOfStr s
  | _ => none

/-- An optional field: absent and `null` are `None`. -/
def optionalField {α : Type} (read : Json → Option α) (raw : JsonObject) (key : String) :
    Except PyException (Option α) :=
  match raw.get? key with
  | none | some .null => .ok none
  | some value =>
    match read value with
    | some a => .ok (some a)
    | none => .error (.validationError "ExecutionBudget")

/-- An optional `int` field whose constraint excludes negative numbers. -/
def natField (platform : Platform) (raw : JsonObject) (key : String) :
    Except PyException (Option ℕ) :=
  optionalField (fun value => (laxInt platform value).bind Int.toNat?) raw key

/-- `ExecutionBudget.model_validate`: unknown keys are forbidden. -/
def modelValidate (platform : Platform) (raw : JsonObject) : Except PyException ExecutionBudget :=
  if raw.all fun kv => kv.1 ∈ BudgetField.all.map BudgetField.name then do
    let maxTokens ← natField platform raw "max_tokens"
    let maxCost ← optionalField (laxFloat platform) raw "max_cost"
    let maxSteps ← natField platform raw "max_steps"
    let maxToolCalls ← natField platform raw "max_tool_calls"
    let maxChildren ← natField platform raw "max_children"
    let maxDepth ← natField platform raw "max_depth"
    let timeoutSeconds ← natField platform raw "timeout_seconds"
    let concurrencyLimit ← natField platform raw "concurrency_limit"
    ofFields { maxTokens, maxCost, maxSteps, maxToolCalls, maxChildren, maxDepth,
               timeoutSeconds, concurrencyLimit }
  else .error (.validationError "ExecutionBudget")

/-- A limit that is set is read off a value of the document. -/
theorem exists_of_natField {platform : Platform} {raw : JsonObject} {key : String} {limit : ℕ}
    (read : natField platform raw key = .ok (some limit)) :
    ∃ value, raw.get? key = some value ∧ laxInt platform value = some (limit : ℤ) := by
  unfold natField optionalField at read
  split at read
  · cases read
  · cases read
  next value _ present =>
  split at read
  next n converted =>
    cases read
    obtain ⟨i, lax, nat⟩ := Option.bind_eq_some_iff.mp converted
    refine ⟨value, present, ?_⟩
    rw [lax, Int.mem_toNat?.mp nat]
  · cases read

/-- The token limit of a budget is the one in its document. -/
theorem maxTokens_of_modelValidate {platform : Platform} {raw : JsonObject}
    {budget : ExecutionBudget} (valid : modelValidate platform raw = .ok budget) :
    natField platform raw "max_tokens" = .ok budget.maxTokens := by
  unfold modelValidate at valid
  split at valid
  · simp only [except_bind_eq_ok, ofFields_eq_ok_iff] at valid
    obtain ⟨maxTokens, read, _, -, _, -, _, -, _, -, _, -, _, -, _, -, fields⟩ := valid
    have same : budget.maxTokens = maxTokens := by rw [fields]
    rw [same]
    exact read
  · cases valid

section

variable {P : PyException → Prop} {platform : Platform} {raw : JsonObject}

theorem optionalField_raisesOnly {α : Type} {read : Json → Option α} {key : String}
    (kind : P (.validationError "ExecutionBudget")) :
    RaisesOnly P (optionalField read raw key) := by
  unfold optionalField
  split
  · exact .ok _
  · exact .ok _
  · split
    · exact .ok _
    · exact RaisesOnly.error_iff.mpr kind

/-- The validation of a budget raises nothing but its validation error. -/
theorem modelValidate_raisesOnly (kind : P (.validationError "ExecutionBudget")) :
    RaisesOnly P (modelValidate platform raw) := by
  unfold modelValidate
  split
  · iterate 8 refine (optionalField_raisesOnly kind).bind fun _ _ => ?_
    exact construct_raisesOnly kind
  · exact RaisesOnly.error_iff.mpr kind

end

/-- `model_dump(exclude_none=True)`. -/
def modelDump (budget : ExecutionBudget) : JsonObject :=
  let int (key : String) (limit : Option ℕ) : JsonObject :=
    limit.toList.map fun n => (key, .int n)
  int "max_tokens" budget.maxTokens ++
    budget.maxCost.toList.map (fun q => ("max_cost", .float q)) ++
    int "max_steps" budget.maxSteps ++ int "max_tool_calls" budget.maxToolCalls ++
    int "max_children" budget.maxChildren ++ int "max_depth" budget.maxDepth ++
    int "timeout_seconds" budget.timeoutSeconds ++
    int "concurrency_limit" budget.concurrencyLimit

theorem get?_limit {α : Type} (key k : String) (limit : Option α) (dump : α → Json) :
    Dict.get? (limit.toList.map fun n => (key, dump n)) k =
      if k = key then limit.map dump else none := by
  cases limit with
  | none => simp [Dict.get?]
  | some n =>
    by_cases same : k = key
    · simp [Dict.get?, same]
    · simp [Dict.get?, same]

/-- The dump of a budget has every limit that is set, so it tells budgets apart. -/
theorem modelDump_injective : Function.Injective modelDump := by
  intro budget other same
  have reads : ∀ key, budget.modelDump.get? key = other.modelDump.get? key :=
    fun key => by rw [same]
  have int : Function.Injective fun n : ℕ => Json.int n :=
    fun _ _ equal => Int.ofNat_inj.mp (Json.int.inj equal)
  have float : Function.Injective Json.float := fun _ _ equal => Json.float.inj equal
  simp only [modelDump, List.bind_eq_flatMap, List.pure_def, ← List.map_eq_flatMap, List.map_map,
    Function.comp_def, Dict.get?_append, get?_limit] at reads
  have maxTokens := Option.map_injective int (by simpa using reads "max_tokens")
  have maxCost := Option.map_injective float (by simpa using reads "max_cost")
  have maxSteps := Option.map_injective int (by simpa using reads "max_steps")
  have maxToolCalls := Option.map_injective int (by simpa using reads "max_tool_calls")
  have maxChildren := Option.map_injective int (by simpa using reads "max_children")
  have maxDepth := Option.map_injective int (by simpa using reads "max_depth")
  have timeoutSeconds := Option.map_injective int (by simpa using reads "timeout_seconds")
  have concurrencyLimit := Option.map_injective int (by simpa using reads "concurrency_limit")
  refine value_injective (funext fun field => ?_)
  cases field <;> simp only [ExecutionBudgetFields.value, maxTokens, maxCost, maxSteps,
    maxToolCalls, maxChildren, maxDepth, timeoutSeconds, concurrencyLimit]

/-! ## Containment -/

/-- `parent.contains(child)`. -/
def contains (parent child : ExecutionBudget) : Bool :=
  BudgetField.all.all fun field => Bounds.within (parent.value field) (child.value field)

/-- The greatest amount the budget allows of each resource. -/
def ceilings (budget : ExecutionBudget) (field : BudgetField) : WithTop ℚ :=
  Bounds.ceiling (budget.value field)

theorem contains_iff {parent child : ExecutionBudget} :
    parent.contains child = true ↔ child.ceilings ≤ parent.ceilings := by
  simp only [contains, List.all_eq_true, Bounds.within_iff]
  exact ⟨fun within field => within field field.mem_all, fun le field _ => le field⟩

/-! ## Usage -/

/-- The amount used of each resource. -/
structure Usage where
  amount : BudgetField → ℚ
  nonnegative : ∀ field, 0 ≤ amount field

/-- Only costs come in fractions. -/
def Usage.Whole (usage : Usage) : Prop :=
  ∀ field ≠ .maxCost, ∃ n : ℕ, usage.amount field = n

/-- Every limit that is set is at least the amount used. -/
def Admits (budget : ExecutionBudget) (usage : Usage) : Prop :=
  Bounds.Admits budget.value usage.amount

theorem limit_nonneg (budget : ExecutionBudget) {field : BudgetField} {limit : ℚ}
    (set : limit ∈ budget.value field) : 0 ≤ limit := by
  have least : 0 ≤ field.minimum := by cases field <;> simp [BudgetField.minimum]
  exact least.trans (budget.wellFormed.1 field field.mem_all limit set)

/-- Every limit but the one on cost is an integer. -/
theorem limit_whole (budget : ExecutionBudget) {field : BudgetField} (integral : field ≠ .maxCost)
    {limit : ℚ} (set : limit ∈ budget.value field) : ∃ n : ℕ, limit = n := by
  cases field with
  | maxCost => exact absurd rfl integral
  | _ =>
    obtain ⟨n, -, rfl⟩ := Option.mem_map.mp set
    exact ⟨n, rfl⟩

theorem contains_antisymm {budget other : ExecutionBudget} (within : budget.contains other = true)
    (around : other.contains budget = true) : budget = other := by
  rw [contains_iff] at within around
  refine value_injective (funext fun field => ?_)
  exact Bounds.ceiling_injective (le_antisymm (around field) (within field))

/-- Containment read off the usage with amounts from `counted`. -/
theorem contains_iff_admits_counted {parent child : ExecutionBudget}
    {counted : BudgetField → Set ℚ} (nonnegative : ∀ field, ∀ a ∈ counted field, 0 ≤ a)
    (attained : ∀ field, ∀ limit ∈ child.value field, limit ∈ counted field)
    (unbounded : ∀ field a, ∃ b ∈ counted field, a < b) :
    parent.contains child = true ↔
      ∀ usage : Usage, (∀ field, usage.amount field ∈ counted field) →
        child.Admits usage → parent.Admits usage := by
  rw [contains_iff]
  refine (Bounds.ceiling_le_iff_admits attained unbounded).trans ⟨?_, ?_⟩
  · intro includes usage counts
    exact includes usage.amount counts
  · intro includes amount counts
    exact includes ⟨amount, fun field => nonnegative field _ (counts field)⟩ counts

/-- Containment is inclusion of the usage admitted. -/
theorem contains_iff_admits {parent child : ExecutionBudget} :
    parent.contains child = true ↔ ∀ usage, child.Admits usage → parent.Admits usage := by
  have nonnegative : ∀ field : BudgetField, ∀ a ∈ Set.Ici (0 : ℚ), 0 ≤ a := fun _ _ least => least
  refine (contains_iff_admits_counted nonnegative (fun _ _ set => child.limit_nonneg set) ?_).trans
    ⟨fun includes usage => includes usage usage.nonnegative, fun includes usage _ => includes usage⟩
  intro _ a
  have least : 0 ≤ max 0 a + 1 := (le_max_left 0 a).trans (le_add_of_nonneg_right zero_le_one)
  exact ⟨max 0 a + 1, least, (le_max_right 0 a).trans_lt (lt_add_one _)⟩

/-- Whole amounts of everything but cost decide it already. -/
theorem contains_iff_admits_whole {parent child : ExecutionBudget} :
    parent.contains child = true ↔
      ∀ usage : Usage, usage.Whole → child.Admits usage → parent.Admits usage := by
  let counted (field : BudgetField) : Set ℚ :=
    {a | 0 ≤ a ∧ (field ≠ .maxCost → ∃ n : ℕ, a = n)}
  have nonnegative : ∀ field, ∀ a ∈ counted field, 0 ≤ a := fun _ _ counts => counts.1
  refine (contains_iff_admits_counted nonnegative ?_ ?_).trans
    ⟨fun includes usage whole => includes usage fun field => ⟨usage.nonnegative field, whole field⟩,
      fun includes usage counts => includes usage fun field => (counts field).2⟩
  · exact fun _ _ set => ⟨child.limit_nonneg set, fun integral => child.limit_whole integral set⟩
  · intro _ a
    obtain ⟨n, greater⟩ := exists_nat_gt a
    exact ⟨n, ⟨n.cast_nonneg, fun _ => ⟨n, rfl⟩⟩, greater⟩

/-- What `contains` decides, for every two budgets: whether the child admits no
usage the parent does not.  It is a partial order of budgets. -/
theorem contains_characterized (parent child : ExecutionBudget) :
    (parent.contains child = true ↔ ∀ usage, child.Admits usage → parent.Admits usage) ∧
      (parent.contains child = true ↔
        ∀ usage : Usage, usage.Whole → child.Admits usage → parent.Admits usage) ∧
      child.contains child = true ∧
      (∀ grandchild, parent.contains child = true → child.contains grandchild = true →
        parent.contains grandchild = true) ∧
      (parent.contains child = true → child.contains parent = true → parent = child) := by
  refine ⟨contains_iff_admits, contains_iff_admits_whole, ?_, ?_, ?_⟩
  · exact contains_iff_admits.mpr fun _ admits => admits
  · intro grandchild within inside
    rw [contains_iff_admits] at within inside ⊢
    exact fun usage admits => within usage (inside usage admits)
  · exact fun within around => (contains_antisymm around within).symm

example :
    let parent : ExecutionBudget := ⟨{ maxTokens := some 1000, maxSteps := some 10 }, by decide⟩
    parent.contains ⟨{ maxTokens := some 500, maxSteps := some 5 }, by decide⟩ = true ∧
      parent.contains ⟨{ maxTokens := some 1001, maxSteps := some 5 }, by decide⟩ = false := by
  decide +kernel

end ExecutionBudget

end Genesis

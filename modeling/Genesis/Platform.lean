import Genesis.Lib.Python
import Genesis.Lib.Raises
import Genesis.Lib.Traversal

/-!
# Exceptions and collaborators

The exceptions the modelled code raises or handles, the dictionary accesses
that raise them, and the collaborators that live outside the repository: the
canonical JSON schemas, the schema engine, and the parts of Python's library
whose value the code never looks into.
-/

namespace Genesis

open Py

/-! ## Exceptions -/

/-- `ContractValidationError`. -/
structure ContractValidationError where
  schemaId : String
  path : String
  reason : String
  deriving DecidableEq

/-- `ToolContractError`. -/
structure ToolContractError where
  contract : String
  path : String
  reason : String
  deriving DecidableEq

/-- `BackendToolClientError`. -/
structure BackendToolClientError where
  code : String
  message : String
  correlationId : String
  retryable : Bool
  statusCode : Option ℕ := none
  deriving DecidableEq

/-- `ContextRetrievalError`. -/
structure ContextRetrievalError where
  code : String
  message : String
  correlationId : String
  deriving DecidableEq

/-- `ContextFailure`, the structured fail-closed result of context building. -/
structure ContextFailure where
  code : String
  message : String
  correlationId : String
  details : JsonObject := []
  deriving DecidableEq

/-- The `output_state` a `RuntimeFailure` may carry. -/
inductive FailureState : Type
  | blocked
  | needsReview
  deriving DecidableEq

def FailureState.text : FailureState → String
  | .blocked => "BLOCKED"
  | .needsReview => "NEEDS_REVIEW"

/-- `RuntimeFailure`. -/
structure RuntimeFailure where
  code : String
  message : String
  retryable : Bool := false
  outputState : FailureState := .blocked
  deriving DecidableEq

/-- The exceptions the code tells apart, and any `other` subclass of `Exception`. -/
inductive PyException : Type
  | cancelledError
  | keyError (key : String)
  | typeError
  | attributeError
  | assertionError
  | timeoutError
  | valueError (message : String)
  | jsonDecodeError
  | validationError (model : String)
  | contractValidationError (error : ContractValidationError)
  | toolContractError (error : ToolContractError)
  | backendToolClientError (error : BackendToolClientError)
  | contextRetrievalError (error : ContextRetrievalError)
  | contextFailure (failure : ContextFailure)
  | runtimeFailure (failure : RuntimeFailure)
  | runtimeRequestRejected (message : String)
  | researchOutputInvalid (message : String)
  | delegationDenied (message : String)
  | modelAccessDenied (message : String)
  | budgetExceeded (message : String)
  | modelRouteUnavailable (message : String)
  | other (name : String)
  deriving DecidableEq

/-- `isinstance(exc, ValueError)`. -/
def PyException.isValueError : PyException → Bool
  | .valueError _ | .jsonDecodeError | .validationError _ | .contractValidationError _
  | .runtimeRequestRejected _ | .researchOutputInvalid _ => true
  | .other name =>
    name ∈ ["UnicodeError", "UnicodeDecodeError", "UnicodeEncodeError", "UnicodeTranslateError"]
  | _ => false

/-- `isinstance(exc, Exception)`: a cancellation is not one. -/
def PyException.isException : PyException → Bool
  | .cancelledError => false
  | _ => true

/-- A check that raises unless its condition holds. -/
def raiseUnless (condition : Prop) [Decidable condition] (exc : PyException) :
    Except PyException Unit :=
  if condition then .ok () else .error exc

@[simp] theorem raiseUnless_eq_ok_iff {condition : Prop} [Decidable condition]
    {exc : PyException} : raiseUnless condition exc = .ok () ↔ condition := by
  unfold raiseUnless
  split <;> simp_all

/-! ## Dictionary access -/

/-- `d[key]`. -/
def item (d : JsonObject) (key : String) : Except PyException Json :=
  match d.get? key with
  | some value => .ok value
  | none => .error (.keyError key)

@[simp] theorem item_eq_ok_iff {d : JsonObject} {key : String} {value : Json} :
    item d key = .ok value ↔ d.get? key = some value := by
  unfold item
  split <;> simp_all

/-- `value[key]` for a value that need not be a dictionary. -/
def subscript (value : Json) (key : String) : Except PyException Json :=
  match value.dict? with
  | some d => item d key
  | none => .error .typeError

theorem subscript_eq_ok_iff {value v : Json} {key : String} :
    subscript value key = .ok v ↔ ∃ d : JsonObject, value = .obj d ∧ d.get? key = some v := by
  simp only [← Json.dict?_eq_some_iff]
  unfold subscript
  cases value.dict? <;> simp

/-- The receiver of a `.get(…)` call. -/
def asDict (value : Json) : Except PyException JsonObject :=
  match value.dict? with
  | some d => .ok d
  | none => .error .attributeError

@[simp] theorem asDict_eq_ok_iff {value : Json} {d : JsonObject} :
    asDict value = .ok d ↔ value = .obj d := by
  rw [← Json.dict?_eq_some_iff, asDict]
  split <;> simp_all

/-- `frozenset(iterable)`, as the list of its members. -/
def frozenset (value : Json) : Except PyException (List Json) :=
  match value.iterate? with
  | none => .error .typeError
  | some members => if members.all Json.hashable then .ok members else .error .typeError

theorem iterate?_of_frozenset {value : Json} {members : List Json}
    (built : frozenset value = .ok members) : value.iterate? = some members := by
  unfold frozenset at built
  split at built
  · cases built
  · next found =>
    split at built
    · cases built
      exact found
    · cases built

/-! ## Sequencing computations that may raise -/

theorem except_bind_eq_ok {ε α β : Type} {x : Except ε α} {f : α → Except ε β} {b : β} :
    (x >>= f) = .ok b ↔ ∃ a, x = .ok a ∧ f a = .ok b := by
  cases x with
  | error e => exact ⟨nofun, fun ⟨_, h, _⟩ => nomatch h⟩
  | ok a => exact ⟨fun h => ⟨a, rfl, h⟩, fun ⟨_, h, h'⟩ => by cases h; exact h'⟩

/-- A check followed by the rest: both succeed. -/
theorem check_bind_eq_ok {ε β : Type} {x : Except ε Unit} {f : Unit → Except ε β} {b : β} :
    (x >>= f) = .ok b ↔ x = .ok () ∧ f () = .ok b := by
  rw [except_bind_eq_ok]
  exact ⟨fun ⟨_, check, rest⟩ => ⟨check, rest⟩, fun ⟨check, rest⟩ => ⟨(), check, rest⟩⟩

/-- A loop of checks passes exactly when every element passes. -/
theorem forM_eq_ok_iff {ε α : Type} {f : α → Except ε Unit} {xs : List α} :
    forM xs f = .ok () ↔ ∀ x ∈ xs, f x = .ok () := by
  induction xs with
  | nil => simp [pure, Except.pure]
  | cons x xs ih =>
    rw [List.forM_cons, check_bind_eq_ok, List.forall_mem_cons, ih]

/-- A comprehension of fallible constructors. -/
theorem mapM_eq_ok_iff {ε α β : Type} {f : α → Except ε β} {xs : List α} {ys : List β} :
    xs.mapM f = .ok ys ↔ List.Forall₂ (fun x y => f x = .ok y) xs ys := by
  induction xs generalizing ys with
  | nil => cases ys <;> simp [pure, Except.pure]
  | cons x xs ih =>
    simp only [List.mapM_cons, except_bind_eq_ok, List.forall₂_cons_left_iff, ih]
    refine ⟨?_, ?_⟩
    · intro h
      rcases h with ⟨y, head, rest, tail, all⟩
      cases all
      exact ⟨y, rest, head, tail, rfl⟩
    · intro h
      rcases h with ⟨y, rest, head, tail, all⟩
      exact ⟨y, head, rest, tail, by rw [all]; rfl⟩

/-- A comprehension returns if each of its elements does. -/
theorem exists_mapM_eq_ok {ε α β : Type} {f : α → Except ε β} {xs : List α}
    (each : ∀ x ∈ xs, ∃ y, f x = .ok y) :
    ∃ ys, xs.mapM f = .ok ys ∧ List.Forall₂ (fun x y => f x = .ok y) xs ys := by
  induction xs with
  | nil => exact ⟨[], rfl, .nil⟩
  | cons x xs ih =>
    obtain ⟨⟨y, first⟩, others⟩ := List.forall_mem_cons.mp each
    obtain ⟨ys, rest, paired⟩ := ih others
    refine ⟨y :: ys, ?_, .cons first paired⟩
    rw [List.mapM_cons, first, rest]
    rfl

section

variable {α β : Type} {R : α → β → Prop} {xs : List α} {ys : List β}

/-- Every element of one of two related lists has a partner in the other. -/
theorem exists_left_of_forall₂ (related : List.Forall₂ R xs ys) {y : β} (member : y ∈ ys) :
    ∃ x ∈ xs, R x y := by
  induction related with
  | nil => cases member
  | @cons x _ _ _ first _ ih =>
    rcases List.mem_cons.mp member with rfl | later
    · exact ⟨x, List.mem_cons_self, first⟩
    · obtain ⟨x, inRest, partner⟩ := ih later
      exact ⟨x, List.mem_cons_of_mem _ inRest, partner⟩

theorem exists_right_of_forall₂ (related : List.Forall₂ R xs ys) {x : α} (member : x ∈ xs) :
    ∃ y ∈ ys, R x y :=
  exists_left_of_forall₂ (R := fun y x => R x y) related.flip member

theorem exists_of_mem_mapM {ε : Type} {f : α → Except ε β} (built : xs.mapM f = .ok ys) {y : β}
    (member : y ∈ ys) : ∃ x ∈ xs, f x = .ok y :=
  exists_left_of_forall₂ (mapM_eq_ok_iff.mp built) member

theorem exists_of_mapM {ε : Type} {f : α → Except ε β} (built : xs.mapM f = .ok ys) {x : α}
    (member : x ∈ xs) : ∃ y ∈ ys, f x = .ok y :=
  exists_right_of_forall₂ (mapM_eq_ok_iff.mp built) member

end

/-- A model constructor, which checks the constraints of the model. -/
def construct {α : Type} (model : String) {constraints : Prop} [Decidable constraints]
    (build : constraints → α) : Except PyException α :=
  if holds : constraints then .ok (build holds) else .error (.validationError model)

theorem construct_eq_ok_iff {α : Type} {model : String} {constraints : Prop}
    [Decidable constraints] {build : constraints → α} {a : α} :
    construct model build = .ok a ↔ ∃ holds, build holds = a := by
  unfold construct
  split
  · next holds => exact ⟨fun built => ⟨holds, Except.ok.inj built⟩, fun ⟨_, same⟩ => by rw [same]⟩
  · next fails => exact ⟨nofun, fun ⟨holds, _⟩ => absurd holds fails⟩

/-! ## Exceptions by kind -/

section

variable {P : PyException → Prop}

theorem raiseUnless_raisesOnly {condition : Prop} [Decidable condition] {exc : PyException}
    (kind : P exc) : RaisesOnly P (raiseUnless condition exc) := by
  unfold raiseUnless
  split
  · exact .ok ()
  · exact RaisesOnly.error_iff.mpr kind

theorem construct_raisesOnly {α : Type} {model : String} {constraints : Prop}
    [Decidable constraints] {build : constraints → α} (kind : P (.validationError model)) :
    RaisesOnly P (construct model build) := by
  unfold construct
  split
  · exact .ok _
  · exact RaisesOnly.error_iff.mpr kind

theorem item_raisesOnly {d : JsonObject} {key : String} (kind : P (.keyError key)) :
    RaisesOnly P (item d key) := by
  unfold item
  split
  · exact .ok _
  · exact RaisesOnly.error_iff.mpr kind

theorem subscript_raisesOnly {value : Json} {key : String} (absent : P (.keyError key))
    (untyped : P .typeError) : RaisesOnly P (subscript value key) := by
  unfold subscript
  split
  · exact item_raisesOnly absent
  · exact RaisesOnly.error_iff.mpr untyped

theorem asDict_raisesOnly {value : Json} (kind : P .attributeError) :
    RaisesOnly P (asDict value) := by
  unfold asDict
  split
  · exact .ok _
  · exact RaisesOnly.error_iff.mpr kind

theorem frozenset_raisesOnly {value : Json} (kind : P .typeError) :
    RaisesOnly P (frozenset value) := by
  unfold frozenset
  split
  · exact RaisesOnly.error_iff.mpr kind
  · split
    · exact .ok _
    · exact RaisesOnly.error_iff.mpr kind

end

/-! ## Collaborators outside the repository -/

/-- What the modelled code calls and the repository does not contain. -/
structure Platform where
  /-- `repr` of a float. -/
  floatRepr : ℚ → String
  /-- `str` of a JSON value that is not a string. -/
  reprOf : Json → String
  /-- `str` of an exception whose text the repository does not define. -/
  excText : PyException → String
  /-- `hashlib.sha256(text.encode()).hexdigest()`. -/
  sha256Hex : String → String
  /-- `json.loads`. -/
  jsonLoads : String → Except PyException Json
  /-- The JSON parser of the validation library. -/
  validateJson : String → Option Json
  /-- The lax conversions of numeric text of the validation library. -/
  intOfStr : String → Option Int
  floatOfStr : String → Option ℚ
  /-- `Draft202012Validator(schema)` finds no error in the payload. -/
  schemaAccepts : Json → Json → Except PyException Bool
  /-- How `Path.glob` walks directories. -/
  traversal : FileTree.Traversal

/-- A platform that parses nothing and accepts every document: the model can be
evaluated on it. -/
def Platform.sample : Platform where
  floatRepr q := s!"{q.num}/{q.den}"
  reprOf _ := ""
  excText _ := ""
  sha256Hex _ := String.ofList (List.replicate 64 'a')
  jsonLoads _ := .error .jsonDecodeError
  validateJson _ := none
  intOfStr _ := none
  floatOfStr _ := none
  schemaAccepts _ _ := .ok true
  traversal := { grouped := true, backwards := false }

/-- The sample, with the digests of these texts. -/
def Platform.hashing (digests : Dict String) : Platform :=
  { Platform.sample with
    sha256Hex := fun text => (digests.get? text).getD (Platform.sample.sha256Hex text) }

/-- `json.dumps(value, sort_keys=True)`. -/
def Platform.dumps (platform : Platform) (value : Json) : String :=
  value.dumps platform.floatRepr

/-- `str(value)`. -/
def Platform.str (platform : Platform) : Json → String
  | .str s => s
  | value => platform.reprOf value

/-- `str(exc)`. -/
def Platform.strOfException (platform : Platform) : PyException → String
  | .contractValidationError e => s!"{e.schemaId} at {e.path}: {e.reason}"
  | .valueError message => message
  | exc => platform.excText exc

/-- `CanonicalContractCatalog`: for each schema that was loaded, the path and
reason of the first error in a payload, if there is one. -/
structure CanonicalContractCatalog where
  documents : String → Option (JsonObject → Option (String × String))

/-- `CanonicalContractCatalog.validate`. -/
def CanonicalContractCatalog.validate (catalog : CanonicalContractCatalog) (schemaId : String)
    (payload : JsonObject) : Except PyException JsonObject :=
  match catalog.documents schemaId with
  | none => .error (.valueError s!"Canonical schema is not available: {schemaId}")
  | some firstError =>
    match firstError payload with
    | some (path, reason) => .error (.contractValidationError ⟨schemaId, path, reason⟩)
    | none => .ok payload

/-- Validation never alters a document. -/
theorem CanonicalContractCatalog.eq_of_validate {catalog : CanonicalContractCatalog}
    {schemaId : String} {payload result : JsonObject}
    (accepted : catalog.validate schemaId payload = .ok result) : result = payload := by
  unfold CanonicalContractCatalog.validate at accepted
  split at accepted
  · cases accepted
  · split at accepted
    · cases accepted
    · cases accepted
      rfl

/-- Validation raises `ValueError` or its subclass for contract violations. -/
theorem CanonicalContractCatalog.validate_raisesOnly {catalog : CanonicalContractCatalog}
    {schemaId : String} {payload : JsonObject} :
    RaisesOnly (fun e => e.isValueError = true) (catalog.validate schemaId payload) := by
  unfold CanonicalContractCatalog.validate
  split
  · exact RaisesOnly.error_iff.mpr rfl
  · split
    · exact RaisesOnly.error_iff.mpr rfl
    · exact .ok _

/-- `ToolBoundaryContracts`: the first error of a ToolRequest or ToolResult. -/
structure ToolBoundaryContracts where
  requestError : JsonObject → Option (String × String)
  resultError : JsonObject → Option (String × String)

/-- `ToolBoundaryContracts._validate`. -/
def ToolBoundaryContracts.check (firstError : JsonObject → Option (String × String))
    (contract : String) (payload : JsonObject) : Except PyException Unit :=
  match firstError payload with
  | some (path, reason) => .error (.toolContractError ⟨contract, path, reason⟩)
  | none => .ok ()

/-- `ToolBoundaryContracts.validate_request`. -/
def ToolBoundaryContracts.validateRequest (contracts : ToolBoundaryContracts) :
    JsonObject → Except PyException Unit :=
  check contracts.requestError "ToolRequest"

/-- `ToolBoundaryContracts.validate_result`. -/
def ToolBoundaryContracts.validateResult (contracts : ToolBoundaryContracts) :
    JsonObject → Except PyException Unit :=
  check contracts.resultError "ToolResult"

end Genesis

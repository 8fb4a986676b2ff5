import Genesis.Contracts.Errors
import Genesis.Lib.Layers
import Genesis.Skills.Loader

/-!
# Loading the contracts

`CanonicalContractCatalog` and `ToolBoundaryContracts` each read the schemas below
`schemas` and `events` of one directory, in the order in which `glob` finds them, and
keep one document for each `$id`, the last.

* `loadDocuments_listing_iff` says for which ids it does not matter how the directories
  list their entries.
* `ToolBoundaryContracts.init_agrees`: the two take different `$id`s for keys, and
  where those coincide they check tool requests and results alike.
* `CanonicalContractCatalog.reported_least`: which error a rejected payload is
  reported with.
-/

namespace Genesis

open Py FileTree

def TOOL_REQUEST_SCHEMA_ID : String := "https://schemas.alos.dev/v1/tool/tool-request.schema.json"

def TOOL_RESULT_SCHEMA_ID : String := "https://schemas.alos.dev/v1/tool/tool-result.schema.json"

/-! ## The library that checks schemas -/

structure SchemaLibrary where
  /-- `Resource.from_contents`. -/
  fromContents : JsonObject → Except PyException Unit
  /-- `Draft202012Validator(schema, registry=…).iter_errors(payload)`. -/
  iterErrors : (String → Option JsonObject) → JsonObject → JsonObject → List SchemaError
  /-- The path of an error leads to the part of the payload it is about. -/
  located : ∀ resources schema payload, ∀ error ∈ iterErrors resources schema payload,
    Located (.obj payload) error.path

/-! ## Reading the files -/

section

variable (platform : Platform) (keyOf : JsonObject → Option String) (tree : Tree)

/-- The name matches `*.schema.json`. -/
def isSchemaPath (path : Path) : Bool := ".schema.json".toList <:+ (fileName path).toList

/-- `contracts_root.glob(f"{directory}/**/*.schema.json")`. -/
def schemaPaths (directory : String) : List Path :=
  if tree.isDir [directory] then tree.globBelow platform.traversal [directory] isSchemaPath
  else []

/-- `json.loads(path.read_text(encoding="utf-8"))`, of which `.get` is called. -/
def readDocument (path : Path) : Except PyException JsonObject := do
  let text ← readText tree path
  let document ← platform.jsonLoads text
  asDict document

def keyed (document : JsonObject) : Option (String × JsonObject) :=
  (keyOf document).map fun id => (id, document)

/-- The documents of one pattern, under their keys. -/
def loadPattern (directory : String) : Except PyException (List (String × JsonObject)) := do
  let documents ← (schemaPaths platform tree directory).mapM (readDocument platform tree)
  pure (documents.filterMap (keyed keyOf))

/-- The loop over both patterns. -/
def loadDocuments : Except PyException (Dict JsonObject) := do
  let schemas ← loadPattern platform keyOf tree "schemas"
  let events ← loadPattern platform keyOf tree "events"
  pure (.ofPairs (schemas ++ events))

/-- What a file is kept as, if it is. -/
def entry (path : Path) : Option (String × JsonObject) :=
  (readDocument platform tree path).toOption.bind (keyed keyOf)

def entries (directory : String) : List (String × JsonObject) :=
  (schemaPaths platform tree directory).filterMap (entry platform keyOf tree)

end

/-- `schema_id = document.get("$id")`, if it is a string. -/
def stringId (document : JsonObject) : Option String :=
  match document.get? "$id" with
  | some (.str id) => some id
  | _ => none

/-- `str(document.get("$id"))`, if it is true. -/
def textId (platform : Platform) (document : JsonObject) : Option String :=
  ((document.get? "$id").filter Json.truthy).map platform.str

/-! ## The two contract checks -/

section

variable (platform : Platform) (library : SchemaLibrary) (tree : Tree)

/-- `CanonicalContractCatalog.__init__`, of the documents it has read. -/
def CanonicalContractCatalog.ofDocuments (documents : Dict JsonObject) :
    CanonicalContractCatalog where
  documents id := (documents.get? id).map fun schema payload =>
    firstError (library.iterErrors documents.get? schema payload)

/-- `CanonicalContractCatalog.__init__`. -/
def CanonicalContractCatalog.init : Except PyException CanonicalContractCatalog := do
  let documents ← loadDocuments platform stringId tree
  raiseUnless (documents ≠ [])
    (.valueError "No canonical schemas were found in ALOS_CONTRACTS_PATH")
  forM documents.values library.fromContents
  pure (.ofDocuments library documents)

/-- `ToolBoundaryContracts.__init__`. -/
def ToolBoundaryContracts.init : Except PyException ToolBoundaryContracts := do
  let documents ← loadDocuments platform (textId platform) tree
  match documents.get? TOOL_REQUEST_SCHEMA_ID, documents.get? TOOL_RESULT_SCHEMA_ID with
  | some request, some result =>
    forM documents.values library.fromContents
    pure
      { requestError := fun payload =>
          firstError (library.iterErrors documents.get? request payload)
        resultError := fun payload =>
          firstError (library.iterErrors documents.get? result payload) }
  | _, _ => .error (.valueError "Canonical ToolRequest/ToolResult schemas were not found")

end

/-! ## What is loaded -/

section

variable {platform : Platform} {keyOf : JsonObject → Option String} {tree other : Tree}
  {directory id : String} {document : JsonObject} {documents : Dict JsonObject}
  {pairs : List (String × JsonObject)}

theorem loadPattern_eq_ok_iff :
    loadPattern platform keyOf tree directory = .ok pairs ↔
      (∀ path ∈ schemaPaths platform tree directory, ∃ document,
        readDocument platform tree path = .ok document) ∧
        pairs = entries platform keyOf tree directory := by
  have kept {paths : List Path} {documents : List JsonObject}
      (read : List.Forall₂ (fun path document => readDocument platform tree path = .ok document)
        paths documents) :
      documents.filterMap (keyed keyOf) = paths.filterMap (entry platform keyOf tree) := by
    induction read with
    | nil => rfl
    | cons first _ ih =>
      rw [List.filterMap_cons, List.filterMap_cons, ih, entry, first]
      rfl
  unfold loadPattern
  simp only [except_bind_eq_ok, mapM_eq_ok_iff]
  refine ⟨?_, ?_⟩
  · rintro ⟨documents, read, built⟩
    cases built
    exact ⟨fun path member => (exists_right_of_forall₂ read member).imp fun _ => And.right,
      kept read⟩
  · rintro ⟨readable, rfl⟩
    obtain ⟨documents, -, read⟩ := exists_mapM_eq_ok readable
    exact ⟨documents, read, congrArg Except.ok (kept read)⟩

/-- Every file of both patterns is read, or nothing is loaded. -/
theorem loadDocuments_eq_ok_iff :
    loadDocuments platform keyOf tree = .ok documents ↔
      (∀ path ∈ schemaPaths platform tree "schemas" ++ schemaPaths platform tree "events",
        ∃ document, readDocument platform tree path = .ok document) ∧
        documents = .ofPairs (entries platform keyOf tree "schemas" ++
          entries platform keyOf tree "events") := by
  unfold loadDocuments
  simp only [except_bind_eq_ok, loadPattern_eq_ok_iff, List.forall_mem_append]
  refine ⟨?_, ?_⟩
  · rintro ⟨_, ⟨schemas, rfl⟩, _, ⟨events, rfl⟩, built⟩
    cases built
    exact ⟨⟨schemas, events⟩, rfl⟩
  · rintro ⟨⟨schemas, events⟩, rfl⟩
    exact ⟨_, ⟨schemas, rfl⟩, _, ⟨events, rfl⟩, rfl⟩

/-! ## Listings -/

/-- The files of a pattern are those of the tree that match. -/
theorem mem_schemaPaths {path : Path} :
    path ∈ schemaPaths platform tree directory ↔ path ∈ tree.paths ∧ [directory] <+: path ∧
      path ≠ [directory] ∧ isSchemaPath path = true := by
  unfold schemaPaths
  split
  next isDirectory => exact Tree.mem_globBelow isDirectory
  next absent =>
    refine ⟨fun member => absurd member List.not_mem_nil, ?_⟩
    rintro ⟨present, above, proper, -⟩
    exact absurd (Tree.isDir_of_below present above proper) absent

theorem pairwise_schemaPaths : (schemaPaths platform tree directory).Pairwise fun early late =>
    ¬ platform.traversal.Trails late.dropLast early.dropLast := by
  unfold schemaPaths
  split
  · exact Tree.pairwise_globBelow
  · exact List.Pairwise.nil

/-- A file comes last of those that do not trail it, in some listing. -/
theorem exists_listed_last {path : Path} (member : path ∈ schemaPaths platform tree directory) :
    ∃ other before after, Tree.Relisted tree other ∧
      schemaPaths platform other directory = before ++ path :: after ∧
      ∀ later ∈ after, platform.traversal.Trails path.dropLast later.dropLast := by
  unfold schemaPaths at member
  split at member
  next isDirectory =>
    have relisted : Tree.Relisted tree (tree.listedLast platform.traversal path) :=
      Tree.relisted_relist _
    obtain ⟨before, after, split, trails⟩ := Tree.listedLast_globBelow isDirectory member
    refine ⟨_, before, after, relisted, ?_, trails⟩
    unfold schemaPaths
    rw [relisted.isDir_eq, if_pos isDirectory, split]
  · cases member

theorem readDocument_relisted (relisted : Tree.Relisted tree other) :
    readDocument platform other = readDocument platform tree := by
  funext path
  unfold readDocument readText
  rw [relisted.node]

theorem mem_schemaPaths_relisted (relisted : Tree.Relisted tree other) {path : Path} :
    path ∈ schemaPaths platform other directory ↔ path ∈ schemaPaths platform tree directory := by
  rw [mem_schemaPaths, mem_schemaPaths, relisted.paths.mem_iff]

theorem entry_relisted (relisted : Tree.Relisted tree other) :
    entry platform keyOf other = entry platform keyOf tree := by
  funext path
  rw [entry, entry, readDocument_relisted relisted]

theorem mem_entries :
    (id, document) ∈ entries platform keyOf tree directory ↔
      ∃ path ∈ schemaPaths platform tree directory,
        entry platform keyOf tree path = some (id, document) :=
  List.mem_filterMap

theorem mem_entries_relisted (relisted : Tree.Relisted tree other) :
    (id, document) ∈ entries platform keyOf other directory ↔
      (id, document) ∈ entries platform keyOf tree directory := by
  simp only [mem_entries, mem_schemaPaths_relisted relisted, entry_relisted relisted]

/-- Every listing is read, or none is. -/
theorem loadDocuments_relisted (relisted : Tree.Relisted tree other)
    (loaded : loadDocuments platform keyOf tree = .ok documents) :
    loadDocuments platform keyOf other = .ok (.ofPairs (entries platform keyOf other "schemas" ++
      entries platform keyOf other "events")) := by
  refine loadDocuments_eq_ok_iff.mpr ⟨?_, rfl⟩
  intro path member
  rw [readDocument_relisted relisted]
  refine (loadDocuments_eq_ok_iff.mp loaded).1 path ?_
  rw [List.mem_append, mem_schemaPaths_relisted relisted, mem_schemaPaths_relisted relisted]
    at member
  exact List.mem_append.mpr member

/-- The file holds this document under the id, and no file that trails it holds one. -/
structure Final (platform : Platform) (keyOf : JsonObject → Option String) (tree : Tree)
    (directory id : String) (path : Path) (document : JsonObject) : Prop where
  listed : path ∈ schemaPaths platform tree directory
  holds : entry platform keyOf tree path = some (id, document)
  last : ∀ later ∈ schemaPaths platform tree directory, ∀ v,
    entry platform keyOf tree later = some (id, v) →
      ¬ platform.traversal.Trails path.dropLast later.dropLast

theorem Final.relisted {path : Path} (relisted : Tree.Relisted tree other)
    (final : Final platform keyOf other directory id path document) :
    Final platform keyOf tree directory id path document := by
  obtain ⟨listed, holds, last⟩ := final
  rw [entry_relisted relisted] at holds
  refine ⟨(mem_schemaPaths_relisted relisted).mp listed, holds, fun later inTree v found => ?_⟩
  rw [← entry_relisted relisted] at found
  exact last later ((mem_schemaPaths_relisted relisted).mpr inTree) v found

/-- What a pattern leaves under an id is the document of a final file. -/
theorem exists_final (found : (Dict.ofPairs (entries platform keyOf tree directory)).get? id =
    some document) : ∃ path, Final platform keyOf tree directory id path document := by
  obtain ⟨before, path, after, split, holds, alone⟩ :=
    Dict.get?_ofPairs_filterMap_eq_some_iff.mp found
  have ordered : (schemaPaths platform tree directory).Pairwise fun early late =>
      ¬ platform.traversal.Trails late.dropLast early.dropLast := pairwise_schemaPaths
  refine ⟨path, ?_, holds, ?_⟩
  · rw [split]
    exact List.mem_append_right _ List.mem_cons_self
  · rw [split] at ordered ⊢
    intro later member v written
    rcases List.mem_append.mp member with inBefore | inRest
    · exact (List.pairwise_append.mp ordered).2.2 later inBefore path List.mem_cons_self
    rcases List.mem_cons.mp inRest with rfl | inAfter
    · exact platform.traversal.not_trails_self _
    · exact absurd written (alone later inAfter v)

/-- The document of a final file is what its pattern leaves, in some listing. -/
theorem Final.exists_listing {path : Path}
    (final : Final platform keyOf tree directory id path document) :
    ∃ other, Tree.Relisted tree other ∧
      (Dict.ofPairs (entries platform keyOf other directory)).get? id = some document := by
  obtain ⟨other, before, after, relisted, split, trails⟩ := exists_listed_last final.listed
  refine ⟨other, relisted, Dict.get?_ofPairs_filterMap_eq_some_iff.mpr
    ⟨before, path, after, split, ?_, fun later inAfter v written => ?_⟩⟩
  · rw [entry_relisted relisted]
    exact final.holds
  · rw [entry_relisted relisted] at written
    have listed : later ∈ schemaPaths platform other directory := by
      rw [split]
      exact List.mem_append_right _ (List.mem_cons_of_mem _ inAfter)
    exact final.last later ((mem_schemaPaths_relisted relisted).mp listed) v written
      (trails later inAfter)

/-- All final files of the pattern hold one document under the id. -/
def OneFinal (platform : Platform) (keyOf : JsonObject → Option String) (tree : Tree)
    (directory id : String) : Prop :=
  ∀ path path' document document', Final platform keyOf tree directory id path document →
    Final platform keyOf tree directory id path' document' → document = document'

/-- The id has one final document among the events or, if it has none there, among the
schemas. -/
structure Settled (platform : Platform) (keyOf : JsonObject → Option String) (tree : Tree)
    (id : String) : Prop where
  later : OneFinal platform keyOf tree "events" id
  earlier : (∀ v, (id, v) ∉ entries platform keyOf tree "events") →
    OneFinal platform keyOf tree "schemas" id

/-- A pattern with one final document leaves it in every listing. -/
theorem OneFinal.get?_eq (one : OneFinal platform keyOf tree directory id)
    (relisted : Tree.Relisted tree other) :
    (Dict.ofPairs (entries platform keyOf other directory)).get? id =
      (Dict.ofPairs (entries platform keyOf tree directory)).get? id := by
  cases found : (Dict.ofPairs (entries platform keyOf tree directory)).get? id with
  | none =>
    rw [Dict.get?_ofPairs_eq_none_iff_forall] at found ⊢
    exact fun v member => found v ((mem_entries_relisted relisted).mp member)
  | some document =>
    obtain ⟨document', found'⟩ := Dict.exists_get?_ofPairs
      ((mem_entries_relisted relisted).mpr (Dict.mem_of_get?_ofPairs found))
    obtain ⟨path, final⟩ := exists_final found
    obtain ⟨path', final'⟩ := exists_final found'
    rw [found', one _ _ _ _ (final'.relisted relisted) final]

theorem Settled.get?_eq (settled : Settled platform keyOf tree id)
    (relisted : Tree.Relisted tree other) :
    (Dict.ofPairs (entries platform keyOf other "schemas" ++
        entries platform keyOf other "events")).get? id =
      (Dict.ofPairs (entries platform keyOf tree "schemas" ++
        entries platform keyOf tree "events")).get? id := by
  rw [Dict.get?_ofPairs_append, Dict.get?_ofPairs_append, settled.later.get?_eq relisted]
  cases found : (Dict.ofPairs (entries platform keyOf tree "events")).get? id with
  | some document => rw [Option.some_or, Option.some_or]
  | none =>
    have absent := Dict.get?_ofPairs_eq_none_iff_forall.mp found
    rw [(settled.earlier absent).get?_eq relisted]

/-- How the directories list their entries does not show in the document loaded for an id
exactly when the event files with that id that no other trails hold one document and, if
there is no such file, the schema files do. -/
theorem loadDocuments_listing_iff (platform : Platform) (keyOf : JsonObject → Option String)
    (tree : Tree) (documents : Dict JsonObject) (id : String)
    (loaded : loadDocuments platform keyOf tree = .ok documents) :
    (∀ other, Tree.Relisted tree other → ∀ documents',
      loadDocuments platform keyOf other = .ok documents' →
        documents'.get? id = documents.get? id) ↔
      Settled platform keyOf tree id := by
  obtain ⟨-, same⟩ := loadDocuments_eq_ok_iff.mp loaded
  refine ⟨?_, ?_⟩
  · intro unseen
    -- the document of a final file is the one loaded
    have later : ∀ path document, Final platform keyOf tree "events" id path document →
        documents.get? id = some document := by
      intro path document final
      obtain ⟨other, relisted, found⟩ := final.exists_listing
      rw [← unseen other relisted _ (loadDocuments_relisted relisted loaded),
        Dict.get?_append_of_mem (Dict.mem_of_get?_ofPairs found), found]
    have earlier (absent : ∀ v, (id, v) ∉ entries platform keyOf tree "events") :
        ∀ path document, Final platform keyOf tree "schemas" id path document →
          documents.get? id = some document := by
      intro path document final
      obtain ⟨other, relisted, found⟩ := final.exists_listing
      have absent' : ∀ v, (id, v) ∉ entries platform keyOf other "events" :=
        fun v inOther => absent v ((mem_entries_relisted relisted).mp inOther)
      rw [← unseen other relisted _ (loadDocuments_relisted relisted loaded),
        Dict.get?_append_of_not_mem absent', found]
    refine ⟨?_, ?_⟩
    · intro path path' document document' final final'
      exact Option.some.inj ((later _ _ final).symm.trans (later _ _ final'))
    · intro absent path path' document document' final final'
      exact Option.some.inj ((earlier absent _ _ final).symm.trans (earlier absent _ _ final'))
  · intro settled other relisted documents' loaded'
    obtain ⟨-, same'⟩ := loadDocuments_eq_ok_iff.mp loaded'
    rw [same, same', settled.get?_eq relisted]

end

/-! ## The two checks on one directory -/

section

variable {platform : Platform} {library : SchemaLibrary} {tree other : Tree}
  {catalog : CanonicalContractCatalog} {boundary : ToolBoundaryContracts}
  {documents : Dict JsonObject} {schema payload : JsonObject} {id : String}

theorem CanonicalContractCatalog.init_eq_ok_iff :
    init platform library tree = .ok catalog ↔
      ∃ documents, loadDocuments platform stringId tree = .ok documents ∧ documents ≠ [] ∧
        (∀ document ∈ documents.values, library.fromContents document = .ok ()) ∧
        catalog = ofDocuments library documents := by
  unfold init
  simp only [except_bind_eq_ok, ↓check_bind_eq_ok, raiseUnless_eq_ok_iff, forM_eq_ok_iff]
  refine ⟨?_, ?_⟩
  · rintro ⟨documents, loaded, nonempty, registered, built⟩
    cases built
    exact ⟨documents, loaded, nonempty, registered, rfl⟩
  · rintro ⟨documents, loaded, nonempty, registered, rfl⟩
    exact ⟨documents, loaded, nonempty, registered, rfl⟩

theorem ToolBoundaryContracts.init_eq_ok (built : init platform library tree = .ok boundary) :
    ∃ documents request result, loadDocuments platform (textId platform) tree = .ok documents ∧
      documents.get? TOOL_REQUEST_SCHEMA_ID = some request ∧
      documents.get? TOOL_RESULT_SCHEMA_ID = some result ∧
      (∀ document ∈ documents.values, library.fromContents document = .ok ()) ∧
      boundary =
        { requestError := fun payload =>
            firstError (library.iterErrors documents.get? request payload)
          resultError := fun payload =>
            firstError (library.iterErrors documents.get? result payload) } := by
  unfold init at built
  rw [except_bind_eq_ok] at built
  obtain ⟨documents, loaded, built⟩ := built
  split at built
  next request result required expected =>
    rw [check_bind_eq_ok, forM_eq_ok_iff] at built
    obtain ⟨registered, same⟩ := built
    cases same
    exact ⟨documents, request, result, loaded, required, expected, registered, rfl⟩
  · cases built

/-- How the boundary puts what the catalog finds. -/
def boundaryResult (contract : String) : Except PyException JsonObject → Except PyException Unit
  | .ok _ => .ok ()
  | .error (.contractValidationError error) =>
    .error (.toolContractError ⟨contract, error.path, error.reason⟩)
  | .error exc => .error exc

/-- A rejection reports the first of the errors of the document under the id. -/
theorem CanonicalContractCatalog.validate_eq_error_iff {error : ContractValidationError} :
    (ofDocuments library documents).validate id payload =
        .error (.contractValidationError error) ↔
      ∃ schema first, documents.get? id = some schema ∧
        (sortedErrors (library.iterErrors documents.get? schema payload)).head? = some first ∧
        error = ⟨id, pathText first.path, first.message⟩ := by
  unfold validate ofDocuments
  cases found : documents.get? id with
  | none => simp [found]
  | some schema =>
    simp only [found, Option.map_some, Option.some.injEq, exists_and_left, exists_eq_left']
    unfold firstError
    cases (sortedErrors (library.iterErrors documents.get? schema payload)).head? with
    | none => simp
    | some first => simp [eq_comm]

/-- The boundary checks tool requests and tool results as the catalog does. -/
structure Agrees (boundary : ToolBoundaryContracts) (catalog : CanonicalContractCatalog) :
    Prop where
  request : ∀ payload, boundary.validateRequest payload =
    boundaryResult "ToolRequest" (catalog.validate TOOL_REQUEST_SCHEMA_ID payload)
  result : ∀ payload, boundary.validateResult payload =
    boundaryResult "ToolResult" (catalog.validate TOOL_RESULT_SCHEMA_ID payload)

/-- A check by a document is the catalog's check under its id. -/
theorem check_eq_boundaryResult {contract : String} (found : documents.get? id = some schema) :
    ToolBoundaryContracts.check
        (fun payload => firstError (library.iterErrors documents.get? schema payload)) contract
        payload =
      boundaryResult contract
        ((CanonicalContractCatalog.ofDocuments library documents).validate id payload) := by
  unfold ToolBoundaryContracts.check CanonicalContractCatalog.validate
    CanonicalContractCatalog.ofDocuments
  dsimp only
  rw [found, Option.map_some]
  dsimp only
  cases firstError (library.iterErrors documents.get? schema payload) <;> rfl

/-- In every schema file `$id` is a string that is not empty, or not true. -/
def Identified (platform : Platform) (tree : Tree) : Prop :=
  ∀ path ∈ schemaPaths platform tree "schemas" ++ schemaPaths platform tree "events",
    ∀ document, readDocument platform tree path = .ok document →
      textId platform document = stringId document

theorem Identified.relisted (identified : Identified platform tree)
    (relisted : Tree.Relisted tree other) : Identified platform other := by
  intro path member document read
  rw [List.mem_append, mem_schemaPaths_relisted relisted, mem_schemaPaths_relisted relisted]
    at member
  rw [readDocument_relisted relisted] at read
  exact identified path (List.mem_append.mpr member) document read

theorem Identified.entries_eq (identified : Identified platform tree) {directory : String}
    (known : ∀ path ∈ schemaPaths platform tree directory,
      path ∈ schemaPaths platform tree "schemas" ++ schemaPaths platform tree "events") :
    entries platform (textId platform) tree directory =
      entries platform stringId tree directory := by
  refine List.filterMap_congr fun path member => ?_
  unfold entry
  cases read : readDocument platform tree path with
  | error exc => rfl
  | ok document =>
    have same := identified path (known path member) document read
    exact congrArg (Option.map fun id => (id, document)) same

/-- Where the ids are the same, so is what is loaded. -/
theorem Identified.loadDocuments_eq (identified : Identified platform tree)
    (loaded : loadDocuments platform (textId platform) tree = .ok documents) :
    loadDocuments platform stringId tree = .ok documents := by
  obtain ⟨readable, rfl⟩ := loadDocuments_eq_ok_iff.mp loaded
  refine loadDocuments_eq_ok_iff.mpr ⟨readable, ?_⟩
  rw [identified.entries_eq fun path => List.mem_append_left _,
    identified.entries_eq fun path => List.mem_append_right _]

/-- The two load the same, each from a listing of its own. -/
theorem Identified.get?_eq (identified : Identified platform tree)
    (settled : ∀ id, Settled platform stringId tree id) (relisted : Tree.Relisted tree other)
    (loaded : loadDocuments platform (textId platform) other = .ok documents) :
    ∃ documents', loadDocuments platform stringId tree = .ok documents' ∧
      documents'.get? = documents.get? ∧ (documents'.map Prod.fst).Nodup ∧
      (documents.map Prod.fst).Nodup := by
  have loaded' := (identified.relisted relisted).loadDocuments_eq loaded
  have listed := loadDocuments_relisted relisted.symm loaded'
  obtain ⟨-, rfl⟩ := loadDocuments_eq_ok_iff.mp loaded'
  exact ⟨_, listed, funext fun id => ((settled id).get?_eq relisted).symm,
    Dict.nodup_keys_ofPairs _, Dict.nodup_keys_ofPairs _⟩

/-- What the boundary loads, a catalog loads too. -/
theorem ToolBoundaryContracts.exists_agrees (relisted : Tree.Relisted tree other)
    (identified : Identified platform tree) (settled : ∀ id, Settled platform stringId tree id)
    (built : init platform library other = .ok boundary) :
    ∃ catalog, CanonicalContractCatalog.init platform library tree = .ok catalog ∧
      Agrees boundary catalog := by
  obtain ⟨documents, request, result, loaded, required, expected, registered, rfl⟩ :=
    init_eq_ok built
  obtain ⟨documents', loaded', same, nodup, nodup'⟩ :=
    identified.get?_eq settled relisted loaded
  rw [← same] at required expected ⊢
  refine ⟨_, CanonicalContractCatalog.init_eq_ok_iff.mpr ⟨documents', loaded', ?_, ?_, rfl⟩, ?_⟩
  · rintro rfl
    cases required
  · intro document member
    obtain ⟨id, found⟩ := (Dict.mem_values_iff nodup).mp member
    rw [same] at found
    exact registered document ((Dict.mem_values_iff nodup').mpr ⟨id, found⟩)
  · exact ⟨fun _ => check_eq_boundaryResult required, fun _ => check_eq_boundaryResult expected⟩

end

/-- Where the boundary loads a directory in which `$id`s are non-empty strings and each
has one document, the catalog loads it too, in whatever order either lists it, and the
two find the same first error in every tool request and in every tool result. -/
theorem ToolBoundaryContracts.init_agrees (platform : Platform) (library : SchemaLibrary)
    (tree other : Tree) (boundary : ToolBoundaryContracts) (relisted : Tree.Relisted tree other)
    (identified : Identified platform tree) (settled : ∀ id, Settled platform stringId tree id)
    (built : init platform library other = .ok boundary) :
    ∃ catalog, CanonicalContractCatalog.init platform library tree = .ok catalog ∧ ∀ payload,
      boundary.validateRequest payload =
          boundaryResult "ToolRequest" (catalog.validate TOOL_REQUEST_SCHEMA_ID payload) ∧
        boundary.validateResult payload =
          boundaryResult "ToolResult" (catalog.validate TOOL_RESULT_SCHEMA_ID payload) := by
  obtain ⟨catalog, loads, agrees⟩ := exists_agrees relisted identified settled built
  exact ⟨catalog, loads, fun payload => ⟨agrees.request payload, agrees.result payload⟩⟩

/-- The errors of two libraries are the same, but for their order. -/
def SchemaLibrary.Reorders (library other : SchemaLibrary) : Prop :=
  ∀ resources schema payload,
    (other.iterErrors resources schema payload).Perm (library.iterErrors resources schema payload)

/-- A rejected payload is reported with an error of the document under the id, at a path
that no other error's path is smaller than; Python compares each pair of them.  The
order in which the library finds the errors does not show in the path. -/
theorem CanonicalContractCatalog.reported_least (platform : Platform) (library : SchemaLibrary)
    (tree : Tree) (catalog : CanonicalContractCatalog) (id : String) (payload : JsonObject)
    (error : ContractValidationError) (built : init platform library tree = .ok catalog)
    (rejected : catalog.validate id payload = .error (.contractValidationError error)) :
    (∃ documents schema, loadDocuments platform stringId tree = .ok documents ∧
      documents.get? id = some schema ∧
      ∃ first ∈ library.iterErrors documents.get? schema payload,
        error = ⟨id, pathText first.path, first.message⟩ ∧
        ∀ found ∈ library.iterErrors documents.get? schema payload,
          pathLt found.path first.path = .ok false) ∧
    ∀ other : SchemaLibrary, library.Reorders other → ∀ catalog',
      init platform other tree = .ok catalog' → ∃ reason,
        catalog'.validate id payload =
          .error (.contractValidationError ⟨id, error.path, reason⟩) := by
  obtain ⟨documents, loaded, -, -, rfl⟩ := init_eq_ok_iff.mp built
  obtain ⟨schema, first, found, head, rfl⟩ := validate_eq_error_iff.mp rejected
  obtain ⟨member, least⟩ := least_of_head head
  refine ⟨⟨documents, schema, loaded, found, first, member, rfl, ?_⟩, ?_⟩
  · intro later inErrors
    have located := library.located documents.get? schema payload
    rw [pathLt_of_located (located later inErrors) (located first member),
      decide_eq_false (not_lt.mpr (least later inErrors))]
  · intro other reorders catalog' built'
    obtain ⟨documents', loaded', -, -, rfl⟩ := init_eq_ok_iff.mp built'
    cases loaded.symm.trans loaded'
    have perm := reorders documents.get? schema payload
    obtain ⟨second, head'⟩ := exists_head_of_mem (perm.mem_iff.mpr member)
    refine ⟨second.message, validate_eq_error_iff.mpr ⟨schema, second, found, head', ?_⟩⟩
    rw [path_eq_of_perm perm.symm head head']

/-! ## A directory of two schemas -/

def DRAFT_2020_12 : String := "https://json-schema.org/draft/2020-12/schema"

/-- The schema of objects with these fields, all of them strings. -/
def fieldsSchema (id : String) (fields : List String) : JsonObject :=
  [("$schema", .str DRAFT_2020_12), ("$id", .str id), ("type", .str "object"),
    ("required", strTuple fields),
    ("properties", .obj (fields.map fun field => (field, .obj [("type", .str "string")])))]

/-- The text of that schema. -/
def fieldsText (id : String) (fields : List String) : String :=
  "\x7b\"$schema\": \"" ++ DRAFT_2020_12 ++ "\", \"$id\": \"" ++ id ++
    "\", \"type\": \"object\", \"required\": [" ++
    join ", " (fields.map fun field => "\"" ++ field ++ "\"") ++ "], \"properties\": \x7b" ++
    join ", " (fields.map fun field => "\"" ++ field ++ "\": \x7b\"type\": \"string\"\x7d") ++
    "\x7d\x7d"

def requestFields : List String := ["tool_call_id", "run_id", "tool_id"]

def revisedFields : List String := ["tool_call_id", "run_id", "tool_id", "requested_at"]

def resultFields : List String := ["correlation_id", "status"]

def requestSchema : JsonObject := fieldsSchema TOOL_REQUEST_SCHEMA_ID requestFields

def revisedSchema : JsonObject := fieldsSchema TOOL_REQUEST_SCHEMA_ID revisedFields

def resultSchema : JsonObject := fieldsSchema TOOL_RESULT_SCHEMA_ID resultFields

/-- The three schemas by their texts. -/
def schemaTexts : Dict JsonObject :=
  [(fieldsText TOOL_REQUEST_SCHEMA_ID requestFields, requestSchema),
    (fieldsText TOOL_REQUEST_SCHEMA_ID revisedFields, revisedSchema),
    (fieldsText TOOL_RESULT_SCHEMA_ID resultFields, resultSchema)]

/-- A platform that parses these texts. -/
def schemaPlatform : Platform :=
  { Platform.sample with
    jsonLoads := fun text => match schemaTexts.get? text with
      | some schema => .ok (.obj schema)
      | none => .error .jsonDecodeError }

theorem schemaTexts_nodup : (schemaTexts.map Prod.fst).Nodup := by decide +kernel

theorem jsonLoads_eq_ok {text : String} {schema : JsonObject}
    (known : (text, schema) ∈ schemaTexts) :
    schemaPlatform.jsonLoads text = .ok (.obj schema) := by
  have found := Dict.get?_eq_some_of_mem schemaTexts_nodup known
  unfold schemaPlatform
  dsimp only
  rw [found]

theorem readDocument_eq_ok {tree : Tree} {path : Path} {text : String} {schema : JsonObject}
    (holds : tree.node path = .file (some text)) (known : (text, schema) ∈ schemaTexts) :
    readDocument schemaPlatform tree path = .ok schema := by
  unfold readDocument
  rw [readText_eq_ok_iff.mpr holds]
  dsimp only [bind, Except.bind]
  rw [jsonLoads_eq_ok known]
  rfl

theorem entry_eq_some {keyOf : JsonObject → Option String} {tree : Tree} {path : Path}
    {schema : JsonObject} {id : String}
    (read : readDocument schemaPlatform tree path = .ok schema) (named : keyOf schema = some id) :
    entry schemaPlatform keyOf tree path = some (id, schema) := by
  unfold entry keyed
  rw [read]
  dsimp only [Except.toOption, Option.bind_some]
  rw [named]
  rfl

/-! ### A library for such schemas -/

/-- `repr` of a value that stands where a string should. -/
def shownText : Json → String
  | .null => "None"
  | .bool true => "True"
  | .bool false => "False"
  | .int n => toString n
  | _ => "..."

/-- What is wrong with the value of a field. -/
def propertyError (payload : JsonObject) (field : String × Json) : Option SchemaError :=
  match payload.get? field.1, field.2 with
  | some (.str _), _ => none
  | some value, .obj schema =>
    if Dict.get? schema "type" = some (.str "string") then
      some { path := [.key field.1], message := shownText value ++ " is not of type 'string'" }
    else none
  | _, _ => none

/-- What is missing. -/
def requiredError (payload : JsonObject) (name : Json) : Option SchemaError :=
  match name with
  | .str name =>
    if (payload.get? name).isSome then none
    else some { path := [], message := "'" ++ name ++ "' is a required property" }
  | _ => none

/-- What a keyword of the schema finds. -/
def keywordErrors (payload : JsonObject) (keyword : String × Json) : List SchemaError :=
  match keyword.2 with
  | .arr names => if keyword.1 = "required" then names.filterMap (requiredError payload) else []
  | .obj fields => if keyword.1 = "properties" then fields.filterMap (propertyError payload) else []
  | _ => []

theorem located_keywordErrors {payload : JsonObject} {keyword : String × Json}
    {error : SchemaError} (member : error ∈ keywordErrors payload keyword) :
    Located (.obj payload) error.path := by
  unfold keywordErrors at member
  split at member
  · split at member
    · obtain ⟨name, -, found⟩ := List.mem_filterMap.mp member
      unfold requiredError at found
      split at found
      · split at found
        · cases found
        · cases found
          rfl
      · cases found
    · cases member
  · split at member
    · obtain ⟨field, -, found⟩ := List.mem_filterMap.mp member
      unfold propertyError at found
      split at found
      · cases found
      next value schema present _ =>
        split at found
        · cases found
          show ((payload.get? field.1).bind fun value => valueAt? value []).isSome = true
          rw [present]
          rfl
        · cases found
      · cases found
    · cases member
  · cases member

/-- A library that knows the draft, required properties and properties that are strings. -/
def fieldsLibrary : SchemaLibrary where
  fromContents contents :=
    if contents.get? "$schema" = some (.str DRAFT_2020_12) then .ok ()
    else .error (.other "CannotDetermineSpecification")
  iterErrors _ schema payload := schema.flatMap (keywordErrors payload)
  located _ _ _ _ member := by
    obtain ⟨keyword, -, found⟩ := List.mem_flatMap.mp member
    exact located_keywordErrors found

/-! ### Listings of two files -/

def firstPath : Path := ["schemas", "first.schema.json"]

def secondPath : Path := ["schemas", "second.schema.json"]

def nestedPath : Path := ["schemas", "v2", "second.schema.json"]

/-- The first file holds the schema of requests, the second this one. -/
def twoFiles (second : String) (path : Path) : Node :=
  if path = firstPath then .file (some (fieldsText TOOL_REQUEST_SCHEMA_ID requestFields))
  else if path = secondPath ∨ path = nestedPath then .file (some second)
  else .dir

theorem twoFiles_firstPath {second : String} : twoFiles second firstPath =
    .file (some (fieldsText TOOL_REQUEST_SCHEMA_ID requestFields)) := if_pos rfl

theorem twoFiles_later {second : String} {path : Path}
    (later : path = secondPath ∨ path = nestedPath) :
    twoFiles second path = .file (some second) := by
  have apart : path ≠ firstPath := by
    rcases later with rfl | rfl
    · decide
    · decide
  rw [twoFiles, if_neg apart, if_pos later]

/-- What is loaded from a directory of two schemas. -/
theorem loadDocuments_two {keyOf : JsonObject → Option String} {tree : Tree} {path path' : Path}
    {schema schema' : JsonObject} {id id' : String}
    (schemas : schemaPaths schemaPlatform tree "schemas" = [path, path'])
    (events : schemaPaths schemaPlatform tree "events" = [])
    (read : readDocument schemaPlatform tree path = .ok schema)
    (read' : readDocument schemaPlatform tree path' = .ok schema')
    (named : keyOf schema = some id) (named' : keyOf schema' = some id') :
    loadDocuments schemaPlatform keyOf tree = .ok (.ofPairs [(id, schema), (id', schema')]) := by
  rw [loadDocuments_eq_ok_iff, entries, entries, schemas, events]
  refine ⟨?_, ?_⟩
  · intro found member
    rcases List.mem_cons.mp member with rfl | last
    · exact ⟨schema, read⟩
    · cases List.mem_singleton.mp last
      exact ⟨schema', read'⟩
  · rw [List.filterMap_cons_some (entry_eq_some read named),
      List.filterMap_cons_some (entry_eq_some read' named')]
    rfl

/-- A directory with a schema of requests and one of results. -/
def schemaTree : Tree where
  paths := [[], ["schemas"], firstPath, secondPath]
  node := twoFiles (fieldsText TOOL_RESULT_SCHEMA_ID resultFields)

/-- The same directory, listed backwards. -/
def schemaTreeBackwards : Tree := schemaTree.relist (List.reverse_perm schemaTree.paths)

/-- A directory with two schemas of requests. -/
def twinTree : Tree where
  paths := [[], ["schemas"], firstPath, secondPath]
  node := twoFiles (fieldsText TOOL_REQUEST_SCHEMA_ID revisedFields)

/-- A directory in which the second of them is further down. -/
def nestedTree : Tree where
  paths := [[], ["schemas"], ["schemas", "v2"], nestedPath, firstPath]
  node := twoFiles (fieldsText TOOL_REQUEST_SCHEMA_ID revisedFields)

section

variable {tree : Tree} {second : String} {path : Path}

theorem readDocument_firstPath (files : tree.node = twoFiles second) :
    readDocument schemaPlatform tree firstPath = .ok requestSchema :=
  readDocument_eq_ok (files ▸ twoFiles_firstPath) List.mem_cons_self

theorem readDocument_revised
    (files : tree.node = twoFiles (fieldsText TOOL_REQUEST_SCHEMA_ID revisedFields))
    (later : path = secondPath ∨ path = nestedPath) :
    readDocument schemaPlatform tree path = .ok revisedSchema :=
  readDocument_eq_ok (files ▸ twoFiles_later later) (List.mem_cons_of_mem _ List.mem_cons_self)

theorem readDocument_secondPath
    (files : tree.node = twoFiles (fieldsText TOOL_RESULT_SCHEMA_ID resultFields)) :
    readDocument schemaPlatform tree secondPath = .ok resultSchema :=
  readDocument_eq_ok (files ▸ twoFiles_later (.inl rfl))
    (List.mem_cons_of_mem _ (List.mem_cons_of_mem _ List.mem_cons_self))

end

theorem ofPairs_twins (id : String) (schema schema' : JsonObject) :
    Dict.ofPairs [(id, schema), (id, schema')] = [(id, schema')] := by
  simp [Dict.ofPairs, Dict.set]

theorem twinTree_schemas :
    schemaPaths schemaPlatform twinTree "schemas" = [firstPath, secondPath] := by
  rfl

theorem twinTree_events : schemaPaths schemaPlatform twinTree "events" = [] := rfl

theorem nestedTree_schemas :
    schemaPaths schemaPlatform nestedTree "schemas" = [firstPath, nestedPath] := by
  rfl

theorem nestedTree_events : schemaPaths schemaPlatform nestedTree "events" = [] := rfl

theorem twinTree_loaded : loadDocuments schemaPlatform stringId twinTree =
    .ok [(TOOL_REQUEST_SCHEMA_ID, revisedSchema)] := by
  rw [← ofPairs_twins _ requestSchema]
  exact loadDocuments_two twinTree_schemas twinTree_events (readDocument_firstPath rfl)
    (readDocument_revised rfl (.inl rfl)) rfl rfl

theorem nestedTree_loaded : loadDocuments schemaPlatform stringId nestedTree =
    .ok [(TOOL_REQUEST_SCHEMA_ID, revisedSchema)] := by
  rw [← ofPairs_twins _ requestSchema]
  exact loadDocuments_two nestedTree_schemas nestedTree_events (readDocument_firstPath rfl)
    (readDocument_revised rfl (.inr rfl)) rfl rfl

/-- Two schemas of one directory are both final. -/
theorem twinTree_not_settled :
    ¬ Settled schemaPlatform stringId twinTree TOOL_REQUEST_SCHEMA_ID := by
  intro settled
  have absent : ∀ document, (TOOL_REQUEST_SCHEMA_ID, document) ∉
      entries schemaPlatform stringId twinTree "events" := by
    intro document
    rw [entries, twinTree_events]
    exact List.not_mem_nil
  have final : ∀ path ∈ [firstPath, secondPath], ∀ document,
      entry schemaPlatform stringId twinTree path = some (TOOL_REQUEST_SCHEMA_ID, document) →
        Final schemaPlatform stringId twinTree "schemas" TOOL_REQUEST_SCHEMA_ID path document := by
    intro path member document holds
    have beside : ∀ path ∈ [firstPath, secondPath], ∀ later ∈ [firstPath, secondPath],
        ¬ schemaPlatform.traversal.Trails path.dropLast later.dropLast := by
      decide
    refine ⟨by rw [twinTree_schemas]; exact member, holds, fun later inPattern _ _ => ?_⟩
    rw [twinTree_schemas] at inPattern
    exact beside path member later inPattern
  have same := settled.earlier absent firstPath secondPath requestSchema revisedSchema
    (final _ List.mem_cons_self _ (entry_eq_some (readDocument_firstPath rfl) rfl))
    (final _ (List.mem_cons_of_mem _ List.mem_cons_self) _
      (entry_eq_some (readDocument_revised rfl (.inl rfl)) rfl))
  exact absurd same (by decide +kernel)

/-- Of two schemas the one further down is final. -/
theorem nestedTree_settled :
    Settled schemaPlatform stringId nestedTree TOOL_REQUEST_SCHEMA_ID := by
  have revised : entry schemaPlatform stringId nestedTree nestedPath =
      some (TOOL_REQUEST_SCHEMA_ID, revisedSchema) :=
    entry_eq_some (readDocument_revised rfl (.inr rfl)) rfl
  have only : ∀ path document, Final schemaPlatform stringId nestedTree "schemas"
      TOOL_REQUEST_SCHEMA_ID path document → document = revisedSchema := by
    rintro path document ⟨listed, holds, last⟩
    rw [nestedTree_schemas] at listed last
    rcases List.mem_cons.mp listed with rfl | inRest
    · exact absurd (by decide) (last nestedPath (by decide) _ revised)
    · cases List.mem_singleton.mp inRest
      cases revised.symm.trans holds
      rfl
  refine ⟨?_, ?_⟩
  · rintro path path' document document' ⟨listed, -, -⟩
    rw [nestedTree_events] at listed
    cases listed
  · intro _ path path' document document' final final'
    rw [only path document final, only path' document' final']

/-- The schema further down is loaded from every listing, either of two side by side from
some. -/
theorem loadDocuments_listing_nested :
    (∀ other, Tree.Relisted nestedTree other → ∀ documents,
      loadDocuments schemaPlatform stringId other = .ok documents →
        documents.get? TOOL_REQUEST_SCHEMA_ID = some revisedSchema) ∧
    ¬ ∀ other, Tree.Relisted twinTree other → ∀ documents,
      loadDocuments schemaPlatform stringId other = .ok documents →
        documents.get? TOOL_REQUEST_SCHEMA_ID = some revisedSchema := by
  refine ⟨?_, fun unseen => twinTree_not_settled ?_⟩
  · exact (loadDocuments_listing_iff schemaPlatform stringId nestedTree _
      TOOL_REQUEST_SCHEMA_ID nestedTree_loaded).mpr nestedTree_settled
  · exact (loadDocuments_listing_iff schemaPlatform stringId twinTree _
      TOOL_REQUEST_SCHEMA_ID twinTree_loaded).mp unseen

/-! ### The checks on a request and a result -/

theorem schemaTree_paths : schemaPaths schemaPlatform schemaTree "schemas" =
    [firstPath, secondPath] := by
  rfl

theorem schemaTree_events : schemaPaths schemaPlatform schemaTree "events" = [] := rfl

theorem schemaTree_entry : entry schemaPlatform stringId schemaTree firstPath =
      some (TOOL_REQUEST_SCHEMA_ID, requestSchema) ∧
    entry schemaPlatform stringId schemaTree secondPath =
      some (TOOL_RESULT_SCHEMA_ID, resultSchema) :=
  ⟨entry_eq_some (readDocument_firstPath rfl) rfl, entry_eq_some (readDocument_secondPath rfl) rfl⟩

theorem schemaTree_settled (id : String) : Settled schemaPlatform stringId schemaTree id := by
  refine ⟨?_, ?_⟩
  · rintro path path' document document' ⟨listed, -, -⟩
    rw [schemaTree_events] at listed
    cases listed
  rintro - path path' document document' ⟨listed, holds, -⟩ ⟨listed', holds', -⟩
  rw [schemaTree_paths] at listed listed'
  obtain ⟨first, second⟩ := schemaTree_entry
  have apart : TOOL_REQUEST_SCHEMA_ID ≠ TOOL_RESULT_SCHEMA_ID := by decide
  simp only [List.mem_cons, List.not_mem_nil, or_false] at listed listed'
  rcases listed with rfl | rfl <;> rcases listed' with rfl | rfl
  · cases holds.symm.trans holds'
    rfl
  · have own := congrArg Prod.fst (Option.some.inj (first.symm.trans holds))
    have own' := congrArg Prod.fst (Option.some.inj (second.symm.trans holds'))
    exact absurd (own.trans own'.symm) apart
  · have own := congrArg Prod.fst (Option.some.inj (second.symm.trans holds))
    have own' := congrArg Prod.fst (Option.some.inj (first.symm.trans holds'))
    exact absurd (own'.trans own.symm) apart
  · cases holds.symm.trans holds'
    rfl

theorem schemaTree_identified : Identified schemaPlatform schemaTree := by
  intro path member document read
  rw [schemaTree_paths, schemaTree_events, List.append_nil] at member
  have first : readDocument schemaPlatform schemaTree firstPath = .ok requestSchema :=
    readDocument_firstPath rfl
  have second : readDocument schemaPlatform schemaTree secondPath = .ok resultSchema :=
    readDocument_secondPath rfl
  rcases List.mem_cons.mp member with rfl | last
  · cases first.symm.trans read
    rfl
  · cases List.mem_singleton.mp last
    cases second.symm.trans read
    rfl

/-- The schemas that are loaded, in the order of the listing. -/
def schemaDocuments : Dict JsonObject :=
  [(TOOL_REQUEST_SCHEMA_ID, requestSchema), (TOOL_RESULT_SCHEMA_ID, resultSchema)]

def backwardsDocuments : Dict JsonObject :=
  [(TOOL_RESULT_SCHEMA_ID, resultSchema), (TOOL_REQUEST_SCHEMA_ID, requestSchema)]

/-- What the boundary makes of the directory that is listed backwards. -/
def schemaBoundary : ToolBoundaryContracts where
  requestError payload :=
    firstError (fieldsLibrary.iterErrors backwardsDocuments.get? requestSchema payload)
  resultError payload :=
    firstError (fieldsLibrary.iterErrors backwardsDocuments.get? resultSchema payload)

theorem schemaBoundary_init :
    ToolBoundaryContracts.init schemaPlatform fieldsLibrary schemaTreeBackwards =
      .ok schemaBoundary := by
  have loaded : loadDocuments schemaPlatform (textId schemaPlatform) schemaTreeBackwards =
      .ok (.ofPairs backwardsDocuments) :=
    loadDocuments_two (by rfl) rfl (readDocument_secondPath rfl)
      (readDocument_firstPath rfl) rfl rfl
  unfold ToolBoundaryContracts.init
  rw [loaded]
  rfl

/-- Read from a directory and from the same directory listed backwards, the two find the
same error in a request whose run has no id. -/
theorem init_agrees_backwards :
    ToolBoundaryContracts.init schemaPlatform fieldsLibrary schemaTreeBackwards =
        .ok schemaBoundary ∧
      ∃ catalog, CanonicalContractCatalog.init schemaPlatform fieldsLibrary schemaTree =
          .ok catalog ∧
        schemaBoundary.validateRequest [("tool_call_id", .str "toolcall_1"), ("run_id", .null)] =
          boundaryResult "ToolRequest" (catalog.validate TOOL_REQUEST_SCHEMA_ID
            [("tool_call_id", .str "toolcall_1"), ("run_id", .null)]) := by
  obtain ⟨catalog, loads, agrees⟩ := ToolBoundaryContracts.init_agrees schemaPlatform
    fieldsLibrary schemaTree schemaTreeBackwards schemaBoundary (Tree.relisted_relist _)
    schemaTree_identified schemaTree_settled schemaBoundary_init
  exact ⟨schemaBoundary_init, catalog, loads, (agrees _).1⟩

/-- The library finds the missing call id first, and the id of the run is reported. -/
theorem reported_least_schemaTree :
    ∃ catalog, CanonicalContractCatalog.init schemaPlatform fieldsLibrary schemaTree =
        .ok catalog ∧
      ∀ other : SchemaLibrary, fieldsLibrary.Reorders other → ∀ catalog',
        CanonicalContractCatalog.init schemaPlatform other schemaTree = .ok catalog' →
          ∃ reason, catalog'.validate TOOL_REQUEST_SCHEMA_ID
              [("tool_call_id", .null), ("run_id", .null), ("tool_id", .str "diagnostic.echo")] =
            .error (.contractValidationError ⟨TOOL_REQUEST_SCHEMA_ID, "run_id", reason⟩) := by
  have loaded : loadDocuments schemaPlatform stringId schemaTree =
      .ok (.ofPairs schemaDocuments) :=
    loadDocuments_two schemaTree_paths schemaTree_events (readDocument_firstPath rfl)
      (readDocument_secondPath rfl) rfl rfl
  have built : CanonicalContractCatalog.init schemaPlatform fieldsLibrary schemaTree =
      .ok (.ofDocuments fieldsLibrary schemaDocuments) := by
    unfold CanonicalContractCatalog.init
    rw [loaded]
    rfl
  exact ⟨_, built, (CanonicalContractCatalog.reported_least schemaPlatform fieldsLibrary schemaTree
    _ TOOL_REQUEST_SCHEMA_ID
    [("tool_call_id", .null), ("run_id", .null), ("tool_id", .str "diagnostic.echo")]
    ⟨TOOL_REQUEST_SCHEMA_ID, "run_id", "None is not of type 'string'"⟩ built
    (by decide +kernel)).2⟩

end Genesis

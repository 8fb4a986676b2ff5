import Genesis.Skills.Models

/-!
# The file system skill loader

`discover` reads and validates every `skill.yaml` below a root; `load` reads the
instructions of one package and every other file below it.  `load_eq_ok` says
what a returned package contains, and `exists_load_iff` when there is one.
-/

namespace Genesis

open Py FileTree

def SKILL_DEFINITION_SCHEMA : String :=
  "https://schemas.alos.dev/v1/skill/skill-definition.schema.json"

def ALLOWED_DATA_SUFFIXES : List String := [".md", ".yaml", ".yml", ".json"]

structure FileSystemSkillLoader where
  contracts : CanonicalContractCatalog
  unicode : Unicode
  /-- `yaml.safe_load`, unless it raises `YAMLError`. -/
  safeLoad : String → Option Json

/-- `path.read_text(encoding="utf-8")`. -/
def readText (tree : Tree) (path : Path) : Except PyException String :=
  match tree.node path with
  | .file (some text) => .ok text
  | .file none => .error (.other "UnicodeDecodeError")
  | .dir => .error (.other "IsADirectoryError")

theorem readText_eq_ok_iff {tree : Tree} {path : Path} {text : String} :
    readText tree path = .ok text ↔ tree.node path = .file (some text) := by
  unfold readText
  split <;> simp_all

/-- `path.name`. -/
def fileName (path : Path) : String := path.getLast?.getD ""

namespace FileSystemSkillLoader

/-! ## Discovery -/

/-- The fields of the canonical definition that `discover` drops. -/
def governanceKeys : List String := ["tool_ids", "owner_actor_id", "risk_level"]

/-- The body of the `try` of `discover`. -/
def readManifest (loader : FileSystemSkillLoader) (tree : Tree) (manifestPath : Path) :
    Except PyException SkillDefinition := do
  let text ← readText tree manifestPath
  match loader.safeLoad text with
  | none => .error (.other "YAMLError")
  | some (.obj document) =>
    let canonical ← loader.contracts.validate SKILL_DEFINITION_SCHEMA document
    SkillDefinition.modelValidate (canonical.filter fun kv => kv.1 ∉ governanceKeys)
  | some _ => .error (.valueError "manifest must be a mapping")

/-- The exception handler of `discover`. -/
def invalidManifest (manifestPath : Path) (exc : PyException) : SkillException :=
  if exc.isValueError ∨
      exc ∈ [PyException.other "UnicodeDecodeError", .other "IsADirectoryError",
        .other "YAMLError"] then
    .package
      { code := .invalidManifest
        message := s!"Invalid canonical skill manifest: {fileName manifestPath}." }
  else .python exc

/-- The loop of `discover`, with the references seen so far. -/
def discoverFrom (loader : FileSystemSkillLoader) (tree : Tree) (references : List SkillReference) :
    List Path → Except SkillException (List SkillDescriptor)
  | [] => .ok []
  | manifestPath :: rest => do
    let specification ←
      (loader.readManifest tree manifestPath).mapError (invalidManifest manifestPath)
    if specification.reference ∈ references then
      .error (.package
        { code := .invalidManifest
          message := "Duplicate skill identity and version discovered."
          skillId := some specification.skillId })
    else do
      let descriptors ← loader.discoverFrom tree (references ++ [specification.reference]) rest
      .ok ({ specification, packagePath := manifestPath.dropLast } :: descriptors)

/-- `discover`. -/
def discover (loader : FileSystemSkillLoader) (tree : Tree) :
    Except SkillException (List SkillDescriptor) :=
  if tree.isDir [] then loader.discoverFrom tree [] (tree.glob "skill.yaml")
  else
    .error (.package
      { code := .missingPackage, message := "Skill package root is unavailable." })

/-! ## Loading -/

/-- The two files of a package that are not data. -/
def isReserved (path : Path) : Bool := fileName path ∈ ["skill.yaml", "SKILL.md"]

/-- The loop of `load` does not skip this path. -/
def isData (tree : Tree) (path : Path) : Bool := tree.isFile path && !isReserved path

/-- `path.suffix.lower() in ALLOWED_DATA_SUFFIXES`. -/
def allowed (loader : FileSystemSkillLoader) (path : Path) : Bool :=
  loader.unicode.lower (suffix (fileName path)) ∈ ALLOWED_DATA_SUFFIXES

/-- One turn of the loop of `load`. -/
def dataFile (loader : FileSystemSkillLoader) (tree : Tree) (descriptor : SkillDescriptor)
    (path : Path) : Except SkillException SkillDataFile :=
  if loader.allowed path then do
    let content ← (readText tree path).mapError .python
    pure { relativePath := posix (path.drop descriptor.packagePath.length), content }
  else
    .error (.package
      { code := .invalidManifest
        message := "Skill package contains a forbidden executable or binary file."
        skillId := some descriptor.specification.skillId })

/-- `load`. -/
def load (loader : FileSystemSkillLoader) (tree : Tree) (descriptor : SkillDescriptor) :
    Except SkillException LoadedSkill :=
  let instructionsPath := descriptor.packagePath ++ ["SKILL.md"]
  if tree.isFile instructionsPath then do
    let text ← (readText tree instructionsPath).mapError .python
    let instructions := strip text
    if nonempty : 1 ≤ instructions.length then do
      let dataFiles ← ((tree.rglob descriptor.packagePath).filter (isData tree)).mapM
        (loader.dataFile tree descriptor)
      pure
        { specification := descriptor.specification
          instructions
          packagePath := descriptor.packagePath
          dataFiles
          instructions_nonempty := nonempty }
    else
      .error (.package
        { code := .missingInstructions
          message := "Selected skill package has an empty SKILL.md."
          skillId := some descriptor.specification.skillId })
  else
    .error (.package
      { code := .missingInstructions
        message := "Selected skill package is missing SKILL.md."
        skillId := some descriptor.specification.skillId })

section

variable {loader : FileSystemSkillLoader} {tree : Tree} {descriptor : SkillDescriptor}
  {descriptors : List SkillDescriptor} {skill : LoadedSkill} {path : Path}

/-! ## What discovery finds -/

@[simp] theorem mapError_eq_ok_iff {ε ε' α : Type} {f : ε → ε'} {x : Except ε α} {a : α} :
    x.mapError f = .ok a ↔ x = .ok a := by
  cases x <;> simp [Except.mapError]

/-- One round of the loop: the manifest yields a package with a reference not seen before. -/
theorem discoverFrom_cons_eq_ok {references : List SkillReference} {manifestPath : Path}
    {rest : List Path}
    (found : loader.discoverFrom tree references (manifestPath :: rest) = .ok descriptors) :
    ∃ descriptor later, descriptor.packagePath = manifestPath.dropLast ∧
      descriptor.reference ∉ references ∧
      loader.discoverFrom tree (references ++ [descriptor.reference]) rest = .ok later ∧
      descriptors = descriptor :: later := by
  simp only [discoverFrom, except_bind_eq_ok, mapError_eq_ok_iff] at found
  rcases found with ⟨specification, -, found⟩
  split at found
  · cases found
  next unseen =>
  rw [except_bind_eq_ok] at found
  rcases found with ⟨later, others, built⟩
  cases built
  exact ⟨⟨specification, manifestPath.dropLast⟩, later, rfl, unseen, others, rfl⟩

/-- The loop finds one package for each manifest, in order. -/
theorem packages_of_discoverFrom {references : List SkillReference} {manifests : List Path}
    (found : loader.discoverFrom tree references manifests = .ok descriptors) :
    descriptors.map SkillDescriptor.packagePath = manifests.map List.dropLast := by
  induction manifests generalizing references descriptors with
  | nil =>
    cases found
    rfl
  | cons manifestPath rest ih =>
    obtain ⟨descriptor, later, package, -, others, rfl⟩ := discoverFrom_cons_eq_ok found
    rw [List.map_cons, List.map_cons, package, ih others]

/-- The discovered packages are the directories that contain a manifest. -/
theorem mem_packages_iff (found : loader.discover tree = .ok descriptors) {package : Path} :
    package ∈ descriptors.map SkillDescriptor.packagePath ↔
      package ++ ["skill.yaml"] ∈ tree.paths := by
  unfold discover at found
  split at found
  · rw [packages_of_discoverFrom found, ← Tree.append_mem_glob_iff, List.mem_map]
    refine ⟨?_, ?_⟩
    · intro h
      rcases h with ⟨manifestPath, listed, rfl⟩
      have last := (Tree.mem_glob.mp listed).2
      rw [Tree.dropLast_append_of_getLast? last]
      exact listed
    · intro listed
      exact ⟨_, listed, List.dropLast_concat⟩
  · cases found

/-! ## What loading returns -/

/-- `load` returns a package: its instructions are there, decode and are not
blank, and each of its data files has an allowed suffix and decodes. -/
structure Loadable (loader : FileSystemSkillLoader) (tree : Tree) (package : Path) : Prop where
  instructions : tree.isFile (package ++ ["SKILL.md"]) = true ∧
    ∃ text, tree.node (package ++ ["SKILL.md"]) = .file (some text) ∧ 1 ≤ (strip text).length
  dataFiles : ∀ path ∈ tree.rglob package, isData tree path = true →
    loader.allowed path = true ∧ ∃ content, tree.node path = .file (some content)

theorem dataFile_eq_ok_iff {file : SkillDataFile} :
    loader.dataFile tree descriptor path = .ok file ↔
      loader.allowed path = true ∧ tree.node path = .file (some file.content) ∧
        file.relativePath = posix (path.drop descriptor.packagePath.length) := by
  unfold dataFile
  split
  · next suffix =>
    simp only [except_bind_eq_ok, mapError_eq_ok_iff, readText_eq_ok_iff]
    refine ⟨?_, ?_⟩
    · intro h
      rcases h with ⟨content, text, built⟩
      cases built
      exact ⟨suffix, text, rfl⟩
    · intro h
      rcases h with ⟨-, text, relative⟩
      refine ⟨file.content, text, ?_⟩
      rw [← relative]
      rfl
  · next forbidden => exact ⟨nofun, fun accepted => absurd accepted.1 forbidden⟩

/-- A returned package is the described one, with one file for each data file below it. -/
structure Loads (tree : Tree) (descriptor : SkillDescriptor) (skill : LoadedSkill) : Prop where
  specification : skill.specification = descriptor.specification
  packagePath : skill.packagePath = descriptor.packagePath
  dataFiles : List.Forall₂ (fun path file => tree.node path = .file (some file.content) ∧
      file.relativePath = posix (path.drop descriptor.packagePath.length))
    ((tree.rglob descriptor.packagePath).filter (isData tree)) skill.dataFiles

theorem load_eq_ok (returned : loader.load tree descriptor = .ok skill) :
    Loads tree descriptor skill ∧ loader.Loadable tree descriptor.packagePath := by
  unfold load at returned
  dsimp only at returned
  split at returned
  · next present =>
    simp only [except_bind_eq_ok, mapError_eq_ok_iff, readText_eq_ok_iff] at returned
    obtain ⟨text, decoded, returned⟩ := returned
    split at returned
    · next nonempty =>
      rw [except_bind_eq_ok] at returned
      obtain ⟨dataFiles, read, built⟩ := returned
      cases built
      have each := mapM_eq_ok_iff.mp read
      refine ⟨⟨rfl, rfl, ?_⟩, ⟨present, text, decoded, nonempty⟩, ?_⟩
      · apply each.imp
        intro path file loaded
        exact (dataFile_eq_ok_iff.mp loaded).2
      · intro path below data
        obtain ⟨file, -, loaded⟩ :=
          exists_of_mapM read (List.mem_filter.mpr ⟨below, data⟩)
        obtain ⟨suffix, content, -⟩ := dataFile_eq_ok_iff.mp loaded
        exact ⟨suffix, _, content⟩
    · cases returned
  · cases returned

theorem exists_load_iff :
    (∃ skill, loader.load tree descriptor = .ok skill) ↔
      loader.Loadable tree descriptor.packagePath := by
  refine ⟨?_, ?_⟩
  · intro h
    rcases h with ⟨skill, returned⟩
    exact (load_eq_ok returned).2
  · intro loadable
    obtain ⟨present, text, decoded, nonempty⟩ := loadable.instructions
    have each : ∀ path ∈ (tree.rglob descriptor.packagePath).filter (isData tree),
        ∃ file, loader.dataFile tree descriptor path = .ok file := by
      intro path member
      obtain ⟨below, data⟩ := List.mem_filter.mp member
      obtain ⟨suffix, content, decodes⟩ := loadable.dataFiles path below data
      exact ⟨⟨posix (path.drop descriptor.packagePath.length), content⟩,
        dataFile_eq_ok_iff.mpr ⟨suffix, decodes, rfl⟩⟩
    obtain ⟨dataFiles, read, -⟩ := exists_mapM_eq_ok each
    have instructions : readText tree (descriptor.packagePath ++ ["SKILL.md"]) = .ok text :=
      readText_eq_ok_iff.mpr decoded
    refine ⟨⟨descriptor.specification, strip text, descriptor.packagePath, dataFiles, nonempty⟩, ?_⟩
    unfold load
    dsimp only
    rw [if_pos present, except_bind_eq_ok]
    refine ⟨text, mapError_eq_ok_iff.mpr instructions, ?_⟩
    rw [dif_pos nonempty, except_bind_eq_ok]
    exact ⟨dataFiles, read, rfl⟩

end

end FileSystemSkillLoader

end Genesis

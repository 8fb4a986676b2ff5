import Genesis.Skills.Runtime

/-!
# Disclosure between packages

Discovery finds a package in every directory with a manifest, nested ones too,
and loading a package reads everything below it.  So a loaded package discloses
the data files of the packages nested in it, and only those:
`SkillRuntime.disclosure_iff` says for which trees there are none.
-/

namespace Genesis

open Py FileTree

/-- The nearest package around the entry is this one. -/
abbrev Owns (tree : Tree) (package path : Path) : Prop := tree.Nearest "skill.yaml" package path

/-- The entry a data file of a loaded skill was read from. -/
structure ReadFrom (tree : Tree) (skill : LoadedSkill) (file : SkillDataFile) (path : Path) :
    Prop where
  present : path ∈ tree.paths
  below : skill.packagePath <+: path ∧ path ≠ skill.packagePath
  content : tree.node path = .file (some file.content)
  relativePath : file.relativePath = posix (path.drop skill.packagePath.length)

/-- The instructions and the data files of the skill belong to these packages. -/
structure DisclosesOnly (tree : Tree) (packages : List Path) (skill : LoadedSkill) : Prop where
  instructions : ∃ package ∈ packages, Owns tree package (skill.packagePath ++ ["SKILL.md"])
  dataFiles : ∀ file ∈ skill.dataFiles, ∃ path, ReadFrom tree skill file path ∧
    ∃ package ∈ packages, Owns tree package path

/-- No package nested in this one has a data file at or below it. -/
def Isolated (tree : Tree) (package : Path) : Prop :=
  ∀ nested, nested ++ ["skill.yaml"] ∈ tree.paths → package <+: nested → nested ≠ package →
    ∀ path ∈ tree.rglob nested, FileSystemSkillLoader.isData tree path = false

section

variable {tree : Tree} {descriptor : SkillDescriptor} {skill : LoadedSkill}
  {file : SkillDataFile} {path other : Path} {packages more : List Path}

theorem DisclosesOnly.mono (only : DisclosesOnly tree packages skill) (within : packages ⊆ more) :
    DisclosesOnly tree more skill := by
  obtain ⟨package, listed, owns⟩ := only.instructions
  refine ⟨⟨package, within listed, owns⟩, fun file member => ?_⟩
  obtain ⟨path, read, package, listed, owns⟩ := only.dataFiles file member
  exact ⟨path, read, package, within listed, owns⟩

/-- A data file names its entry. -/
theorem ReadFrom.unique (one : ReadFrom tree skill file path)
    (two : ReadFrom tree skill file other) : path = other := by
  obtain ⟨parts, rfl⟩ := one.below.1
  obtain ⟨parts', rfl⟩ := two.below.1
  have same := one.relativePath.symm.trans two.relativePath
  rw [List.drop_left, List.drop_left] at same
  have nonempty {p : Path} (proper : skill.packagePath ++ p ≠ skill.packagePath) : p ≠ [] := by
    intro none
    rw [none, List.append_nil] at proper
    exact proper rfl
  have names {p : Path} (present : skill.packagePath ++ p ∈ tree.paths) :
      ∀ name ∈ p, IsName name :=
    fun name member => tree.names _ present name (List.mem_append_right _ member)
  rw [posix_injective (nonempty one.below.2) (nonempty two.below.2) (names one.present)
    (names two.present) same]

/-- A package that contains `SKILL.md` owns it. -/
theorem owns_instructions {package : Path} (marked : package ++ ["skill.yaml"] ∈ tree.paths) :
    Owns tree package (package ++ ["SKILL.md"]) := by
  have parent : (package ++ ["SKILL.md"]).dropLast = package := List.dropLast_concat
  refine ⟨marked, ?_, fun other _ above => ?_⟩
  · exact parent.symm ▸ List.prefix_rfl
  · exact parent ▸ above

/-- Each data file below the package is read into one file of the loaded skill. -/
theorem FileSystemSkillLoader.Loads.exists_file
    (loads : FileSystemSkillLoader.Loads tree descriptor skill)
    (below : path ∈ tree.rglob skill.packagePath)
    (data : FileSystemSkillLoader.isData tree path = true) :
    ∃ file ∈ skill.dataFiles, ReadFrom tree skill file path := by
  have listed : path ∈ (tree.rglob descriptor.packagePath).filter
      (FileSystemSkillLoader.isData tree) := by
    rw [← loads.packagePath]
    exact List.mem_filter.mpr ⟨below, data⟩
  obtain ⟨file, member, content, relative⟩ := exists_right_of_forall₂ loads.dataFiles listed
  rw [← loads.packagePath] at relative
  obtain ⟨present, within⟩ := Tree.mem_rglob.mp below
  exact ⟨file, member, present, within, content, relative⟩

/-- Each file of the loaded skill is read from a data file below the package. -/
theorem FileSystemSkillLoader.Loads.exists_path
    (loads : FileSystemSkillLoader.Loads tree descriptor skill)
    (member : file ∈ skill.dataFiles) :
    ∃ path, FileSystemSkillLoader.isData tree path = true ∧ ReadFrom tree skill file path := by
  obtain ⟨path, listed, content, relative⟩ := exists_left_of_forall₂ loads.dataFiles member
  rw [← loads.packagePath] at listed relative
  obtain ⟨below, data⟩ := List.mem_filter.mp listed
  obtain ⟨present, within⟩ := Tree.mem_rglob.mp below
  exact ⟨path, data, present, within, content, relative⟩

/-- A loaded package discloses its own content only exactly when it is isolated. -/
theorem disclosesOnly_iff (loads : FileSystemSkillLoader.Loads tree descriptor skill)
    (marked : skill.packagePath ++ ["skill.yaml"] ∈ tree.paths) :
    DisclosesOnly tree [skill.packagePath] skill ↔ Isolated tree skill.packagePath := by
  refine ⟨?_, ?_⟩
  · intro only nested present within proper path below
    by_contra data
    rw [Bool.not_eq_false] at data
    obtain ⟨inTree, enclosed, strict⟩ := Tree.mem_rglob.mp below
    have inPackage : path ∈ tree.rglob skill.packagePath := by
      refine Tree.mem_rglob.mpr ⟨inTree, within.trans enclosed, ?_⟩
      intro same
      rw [same] at enclosed
      exact proper (enclosed.eq_of_length (le_antisymm enclosed.length_le within.length_le))
    obtain ⟨file, member, read⟩ := loads.exists_file inPackage data
    obtain ⟨path', read', package, listed, owns⟩ := only.dataFiles file member
    rw [List.mem_singleton.mp listed, read'.unique read] at owns
    have above := owns.nearest nested present (Tree.prefix_dropLast enclosed strict)
    exact proper (above.eq_of_length (le_antisymm above.length_le within.length_le))
  · intro isolated
    refine ⟨⟨_, List.mem_singleton_self _, owns_instructions marked⟩, fun file member => ?_⟩
    obtain ⟨path, data, read⟩ := loads.exists_path member
    refine ⟨path, read, _, List.mem_singleton_self _, ?_⟩
    rw [Owns, Tree.nearest_iff marked read.below.1 read.below.2]
    intro other present within enclosing
    by_contra proper
    have nonempty : path ≠ [] := by
      intro none
      have within := read.below
      rw [none, List.prefix_nil] at within
      exact within.2 within.1.symm
    have below : path ∈ tree.rglob other :=
      Tree.mem_rglob.mpr ⟨read.present, enclosing.trans (List.dropLast_prefix path),
        Tree.ne_of_prefix_dropLast enclosing nonempty⟩
    rw [isolated other present within proper path below] at data
    cases data

end

namespace SkillRuntime

/-- The packages of the selected outcomes. -/
def selectedPackages (selection : SkillSelection) : List Path :=
  (selection.selected.filterMap SkillCandidateOutcome.descriptor).map SkillDescriptor.packagePath

/-- On every tree whose packages can be discovered, each package that loads
discloses its own content only, and each prepared context that of its selected
packages only, exactly when no package that loads has a package nested in it that
has data files. -/
theorem disclosure_iff {runtime : SkillRuntime} {packagesRoot : Tree}
    {descriptors : List SkillDescriptor}
    (discovered : runtime.progressive.loader.discover packagesRoot = .ok descriptors) :
    ((∀ descriptor ∈ descriptors, ∀ skill,
        runtime.progressive.loader.load packagesRoot descriptor = .ok skill →
          DisclosesOnly packagesRoot [descriptor.packagePath] skill) ∧
      ∀ (authorization : SkillAuthorizationSnapshot) (goal : String)
        (capabilityContext : List String) (maximumSelected : ℤ) (prepared : SkillRuntimeContext),
        runtime.prepare packagesRoot authorization goal capabilityContext maximumSelected =
          .ok prepared →
        ∀ skill ∈ prepared.loadedSkills,
          DisclosesOnly packagesRoot (selectedPackages prepared.selection) skill) ↔
      ∀ package, package ++ ["skill.yaml"] ∈ packagesRoot.paths →
        runtime.progressive.loader.Loadable packagesRoot package →
          Isolated packagesRoot package := by
  refine ⟨?_, ?_⟩
  · intro discloses package marked loadable
    have found := (FileSystemSkillLoader.mem_packages_iff discovered).mpr marked
    obtain ⟨descriptor, member, rfl⟩ := List.mem_map.mp found
    obtain ⟨skill, loaded⟩ := FileSystemSkillLoader.exists_load_iff.mpr loadable
    have loads := (FileSystemSkillLoader.load_eq_ok loaded).1
    have only := discloses.1 descriptor member skill loaded
    rw [← loads.packagePath] at only marked ⊢
    exact (disclosesOnly_iff loads marked).mp only
  · intro isolated
    have own : ∀ descriptor ∈ descriptors, ∀ skill,
        runtime.progressive.loader.load packagesRoot descriptor = .ok skill →
          DisclosesOnly packagesRoot [descriptor.packagePath] skill := by
      intro descriptor member skill loaded
      obtain ⟨loads, loadable⟩ := FileSystemSkillLoader.load_eq_ok loaded
      have marked := (FileSystemSkillLoader.mem_packages_iff discovered).mp
        (List.mem_map_of_mem member)
      have alone := isolated _ marked loadable
      rw [← loads.packagePath] at marked alone ⊢
      exact (disclosesOnly_iff loads marked).mpr alone
    refine ⟨own, ?_⟩
    intro authorization goal capabilityContext maximumSelected prepared returned skill member
    obtain ⟨descriptors', steps⟩ := prepare_eq_ok returned
    cases discovered.symm.trans steps.discovered
    obtain ⟨outcome, selected, descriptor, found, selects, loaded, -⟩ :=
      steps.of_mem_loadedSkills member
    apply (own descriptor found skill loaded).mono
    intro package listed
    rw [List.mem_singleton.mp listed]
    exact List.mem_map_of_mem (List.mem_filterMap.mpr ⟨outcome, selected, selects.descriptor⟩)

/-! ## Nested packages -/

/-- A package with notes of its own, and a package without any nested in it. -/
def isolatedTree : Tree where
  paths := [[], ["technology"], ["technology", "skill.yaml"], ["technology", "SKILL.md"],
    ["technology", "references"], ["technology", "references", "notes.md"],
    ["technology", "management"], ["technology", "management", "skill.yaml"],
    ["technology", "management", "SKILL.md"]]
  node := packageNode
    [(["technology", "skill.yaml"], "technology"),
      (["technology", "SKILL.md"], "Analyze the architecture."),
      (["technology", "references", "notes.md"], "Name the decisions."),
      (["technology", "management", "skill.yaml"], "management"),
      (["technology", "management", "SKILL.md"], "Review the indicators.")]

def ownNotes : SkillDataFile where
  relativePath := "references/notes.md"
  content := "Name the decisions."

theorem isolatedTree_isolated {package : Path}
    (marked : package ++ ["skill.yaml"] ∈ isolatedTree.paths) : Isolated isolatedTree package := by
  have listed {p : Path} (present : p ++ ["skill.yaml"] ∈ isolatedTree.paths) :
      p ∈ (isolatedTree.glob "skill.yaml").map List.dropLast :=
    List.mem_map.mpr ⟨_, Tree.append_mem_glob_iff.mpr present, List.dropLast_concat⟩
  have isolated : ∀ p ∈ (isolatedTree.glob "skill.yaml").map List.dropLast,
      ∀ q ∈ (isolatedTree.glob "skill.yaml").map List.dropLast, p <+: q → q ≠ p →
        ∀ path ∈ isolatedTree.rglob q, FileSystemSkillLoader.isData isolatedTree path = false := by
    decide +kernel
  intro nested present
  exact isolated package (listed marked) nested (listed present)

theorem loads_isolatedTree :
    (packageRuntime.prepare isolatedTree (.fromBackend packageContext packageAuthority)
      "technology architecture" [] 1).toOption.map
        (fun prepared => prepared.loadedSkills.map fun skill => (skill.packagePath,
          skill.dataFiles)) = some [(["technology"], [ownNotes])] := by
  decide +kernel

theorem disclosure_iff_packages :
    ∃ prepared, packageRuntime.prepare isolatedTree
      (.fromBackend packageContext packageAuthority) "technology architecture" [] 1 =
        .ok prepared ∧
      (prepared.loadedSkills.map fun skill => (skill.packagePath, skill.dataFiles)) =
        [(["technology"], [ownNotes])] ∧
      ∀ skill ∈ prepared.loadedSkills,
        DisclosesOnly isolatedTree (selectedPackages prepared.selection) skill := by
  obtain ⟨prepared, returned, loaded⟩ := exists_ok_of_map loads_isolatedTree
  obtain ⟨descriptors, steps⟩ := prepare_eq_ok returned
  have discloses := (disclosure_iff steps.discovered).mpr
    fun package marked _ => isolatedTree_isolated marked
  exact ⟨prepared, returned, loaded, discloses.2 _ _ _ _ prepared returned⟩

/-- A package with another one, and its notes, in a directory of its own. -/
def nestedTree : Tree where
  paths := [[], ["technology"], ["technology", "skill.yaml"], ["technology", "SKILL.md"],
    ["technology", "management"], ["technology", "management", "skill.yaml"],
    ["technology", "management", "notes.md"]]
  node := packageNode
    [(["technology", "skill.yaml"], "technology"),
      (["technology", "SKILL.md"], "Analyze the architecture."),
      (["technology", "management", "skill.yaml"], "management"),
      (["technology", "management", "notes.md"], "Draft indicators.")]

def nestedNotes : SkillDataFile where
  relativePath := "management/notes.md"
  content := "Draft indicators."

/-- The notes of the nested package are loaded with the package that was selected. -/
theorem nestedPackage_counterexample :
    ¬ ∀ (runtime : SkillRuntime) (packagesRoot : Tree) (descriptors : List SkillDescriptor),
      runtime.progressive.loader.discover packagesRoot = .ok descriptors →
        (∀ descriptor ∈ descriptors, ∀ skill,
          runtime.progressive.loader.load packagesRoot descriptor = .ok skill →
            DisclosesOnly packagesRoot [descriptor.packagePath] skill) ∧
        ∀ (authorization : SkillAuthorizationSnapshot) (goal : String)
          (capabilityContext : List String) (maximumSelected : ℤ)
          (prepared : SkillRuntimeContext),
          runtime.prepare packagesRoot authorization goal capabilityContext maximumSelected =
            .ok prepared →
          ∀ skill ∈ prepared.loadedSkills,
            DisclosesOnly packagesRoot (selectedPackages prepared.selection) skill := by
  intro safe
  have loaded : (packageRuntime.prepare nestedTree
      (.fromBackend packageContext packageAuthority) "technology architecture" [] 1).toOption.map
        (fun prepared => (prepared.loadedSkills.map fun skill => (skill.packagePath,
          skill.dataFiles), selectedPackages prepared.selection)) =
            some ([(["technology"], [nestedNotes])], [["technology"]]) := by
    decide +kernel
  obtain ⟨prepared, returned, shown⟩ := exists_ok_of_map loaded
  obtain ⟨skills, selected⟩ := Prod.mk.inj shown
  obtain ⟨descriptors, steps⟩ := prepare_eq_ok returned
  have only := (safe packageRuntime nestedTree descriptors steps.discovered).2 _ _ _ _ prepared
    returned
  obtain ⟨skill, member, same⟩ : ∃ skill ∈ prepared.loadedSkills,
      (skill.packagePath, skill.dataFiles) = (["technology"], [nestedNotes]) := by
    rw [← List.mem_map, skills]
    exact List.mem_singleton_self _
  obtain ⟨package, files⟩ := Prod.mk.inj same
  have notes : nestedNotes ∈ skill.dataFiles := by
    rw [files]
    exact List.mem_singleton_self _
  have here : ReadFrom nestedTree skill nestedNotes ["technology", "management", "notes.md"] := by
    constructor <;> (try rw [package]) <;> decide +kernel
  obtain ⟨path, read, owner, listed, owns⟩ := (only skill member).dataFiles _ notes
  rw [read.unique here] at owns
  rw [selected, List.mem_singleton] at listed
  have above := owns.nearest ["technology", "management"] (by decide) (by decide)
  rw [listed] at above
  exact absurd above (by decide)

end SkillRuntime

end Genesis

import Genesis.Skills.Disclosure

/-!
# What a preparation reads

Discovery reads every manifest, selection decides by the manifests, and loading
reads what stands below the selected packages.  `prepare_reads` concludes that
nothing else in the tree of packages has an influence: on trees that agree on these
entries `SkillRuntime.prepare` returns the same context or raises the same error.
-/

namespace Genesis

open Py FileTree

/-- Elements that two computations map alike are mapped alike as a list. -/
theorem mapM_congr {ε α β : Type} {f g : α → Except ε β} {xs : List α}
    (each : ∀ a ∈ xs, f a = g a) : xs.mapM f = xs.mapM g := by
  induction xs with
  | nil => rfl
  | cons a xs ih =>
    obtain ⟨first, later⟩ := List.forall_mem_cons.mp each
    rw [List.mapM_cons, List.mapM_cons, first, ih later]

section

variable {P : Path → Prop} {one two : Tree} {path : Path} {descriptor : SkillDescriptor}

/-- An entry of both trees is read alike. -/
theorem readText_eq (agree : Tree.Agree P one two) (holds : P path)
    (present : path ∈ one.paths) : readText one path = readText two path := by
  unfold readText
  rw [(agree path holds).2 present]

namespace FileSystemSkillLoader

variable {loader : FileSystemSkillLoader}

/-! ## Discovery -/

/-- The root, or a manifest. -/
def IsListed (path : Path) : Prop := path = [] ∨ path.getLast? = some "skill.yaml"

theorem discoverFrom_eq {references : List SkillReference} {manifests : List Path}
    (each : ∀ path ∈ manifests, readText one path = readText two path) :
    loader.discoverFrom one references manifests =
      loader.discoverFrom two references manifests := by
  induction manifests generalizing references with
  | nil => rfl
  | cons manifestPath rest ih =>
    obtain ⟨first, later⟩ := List.forall_mem_cons.mp each
    have manifest :
        loader.readManifest one manifestPath = loader.readManifest two manifestPath := by
      unfold readManifest
      rw [first]
    unfold discoverFrom
    simp only [manifest, ih later]

/-- Discovery depends on the root and the manifests only. -/
theorem discover_eq (agree : Tree.Agree IsListed one two) :
    loader.discover one = loader.discover two := by
  have manifests : one.glob "skill.yaml" = two.glob "skill.yaml" :=
    agree.glob_eq fun _ last => .inr last
  unfold discover
  rw [agree.isDir_eq (.inl rfl), ← manifests]
  have each : ∀ path ∈ one.glob "skill.yaml", readText one path = readText two path := by
    intro path listed
    obtain ⟨present, last⟩ := Tree.mem_glob.mp listed
    exact readText_eq agree (.inr last) present
  rw [discoverFrom_eq each]

/-! ## Loading -/

/-- The entry stands below the package. -/
def IsBelow (package path : Path) : Prop := package <+: path ∧ path ≠ package

theorem dataFile_eq (agree : Tree.Agree P one two) (holds : P path)
    (present : path ∈ one.paths) :
    loader.dataFile one descriptor path = loader.dataFile two descriptor path := by
  unfold dataFile
  rw [readText_eq agree holds present]

/-- Loading a package depends on what stands below it only. -/
theorem load_eq (agree : Tree.Agree (IsBelow descriptor.packagePath) one two) :
    loader.load one descriptor = loader.load two descriptor := by
  have instructions : IsBelow descriptor.packagePath (descriptor.packagePath ++ ["SKILL.md"]) :=
    ⟨List.prefix_append _ _, by simp⟩
  have listed : (one.rglob descriptor.packagePath).filter (isData one) =
      (two.rglob descriptor.packagePath).filter (isData two) := by
    rw [← agree.rglob_eq fun _ within proper => ⟨within, proper⟩]
    refine List.filter_congr fun path below => ?_
    unfold isData
    rw [agree.isFile_eq (Tree.mem_rglob.mp below).2]
  have files : ((one.rglob descriptor.packagePath).filter (isData one)).mapM
      (loader.dataFile one descriptor) =
        ((two.rglob descriptor.packagePath).filter (isData two)).mapM
          (loader.dataFile two descriptor) := by
    rw [← listed]
    refine mapM_congr fun path member => ?_
    obtain ⟨present, below⟩ := Tree.mem_rglob.mp (List.mem_filter.mp member).1
    exact dataFile_eq agree below present
  unfold load
  dsimp only
  rw [files, agree.isFile_eq instructions]
  by_cases present : two.isFile (descriptor.packagePath ++ ["SKILL.md"]) = true
  · have inTree : descriptor.packagePath ++ ["SKILL.md"] ∈ one.paths :=
      (of_decide_eq_true ((agree.isFile_eq instructions).trans present)).1
    rw [readText_eq agree instructions inTree]
  · rw [if_neg present, if_neg present]

end FileSystemSkillLoader

end

namespace SkillRuntime

/-- The selection that a preparation makes. -/
def selection (runtime : SkillRuntime) (packagesRoot : Tree)
    (authorization : SkillAuthorizationSnapshot) (goal : String) (capabilityContext : List String)
    (maximumSelected : ℤ) : Except SkillException SkillSelection :=
  runtime.progressive.loader.discover packagesRoot >>= fun descriptors =>
    runtime.selector.select descriptors
      (selectionArguments authorization goal capabilityContext maximumSelected)

/-- The packages that a preparation loads, or would load if its bound allowed it. -/
def packagesFor (runtime : SkillRuntime) (packagesRoot : Tree)
    (authorization : SkillAuthorizationSnapshot) (goal : String) (capabilityContext : List String)
    (maximumSelected : ℤ) : List Path :=
  match runtime.selection packagesRoot authorization goal capabilityContext maximumSelected with
  | .ok selection => selectedPackages selection
  | .error _ => []

/-- A preparation that selects these packages reads the root, the manifests and what
stands below the packages. -/
def Reads (packages : List Path) (path : Path) : Prop :=
  FileSystemSkillLoader.IsListed path ∨
    ∃ package ∈ packages, FileSystemSkillLoader.IsBelow package path

section

variable {runtime : SkillRuntime} {one two : Tree} {authorization : SkillAuthorizationSnapshot}
  {goal : String} {capabilityContext : List String} {maximumSelected : ℤ}

theorem selection_eq (agree : Tree.Agree FileSystemSkillLoader.IsListed one two) :
    runtime.selection one authorization goal capabilityContext maximumSelected =
      runtime.selection two authorization goal capabilityContext maximumSelected := by
  unfold selection
  rw [FileSystemSkillLoader.discover_eq agree]

theorem loadSelected_eq {selection : SkillSelection}
    (agree : Tree.Agree (Reads (selectedPackages selection)) one two) :
    runtime.progressive.loadSelected one selection.selected =
      runtime.progressive.loadSelected two selection.selected := by
  unfold ProgressiveSkillLoader.loadSelected
  split
  · rfl
  · refine mapM_congr fun outcome listed => ?_
    unfold ProgressiveSkillLoader.loadOutcome
    split
    · next descriptor _ found =>
      have package : descriptor.packagePath ∈ selectedPackages selection :=
        List.mem_map_of_mem (List.mem_filterMap.mpr ⟨outcome, listed, found⟩)
      exact FileSystemSkillLoader.load_eq (agree.mono fun _ below => .inr ⟨_, package, below⟩)
    · rfl

theorem prepare_eq_selection_bind {packagesRoot : Tree} :
    runtime.prepare packagesRoot authorization goal capabilityContext maximumSelected =
      runtime.selection packagesRoot authorization goal capabilityContext maximumSelected >>=
        fun selection =>
          runtime.progressive.loadSelected packagesRoot selection.selected >>= fun loaded =>
            pure { status := if loaded = [] then .blocked else .ready
                   selection
                   loadedSkills := loaded } := by
  unfold prepare selection
  rw [bind_assoc]

/-- Each package that is selected was discovered with a reference that both authorize. -/
theorem authorized_of_mem_packagesFor {packagesRoot : Tree} {context : ExecutionContextView}
    {authority : AgentAuthority} {package : Path}
    (selects : package ∈ runtime.packagesFor packagesRoot (.fromBackend context authority) goal
      capabilityContext maximumSelected) :
    ∃ descriptors, runtime.progressive.loader.discover packagesRoot = .ok descriptors ∧
      ∃ descriptor ∈ descriptors, descriptor.packagePath = package ∧
        descriptor.reference ∈ authority.authorizedSkillRefs ∧
        descriptor.reference ∈ authority.agentSkillRefs := by
  unfold packagesFor at selects
  split at selects
  · next selection selected =>
    rw [SkillRuntime.selection, except_bind_eq_ok] at selected
    obtain ⟨descriptors, discovered, selected⟩ := selected
    obtain ⟨carried, held, rfl⟩ := List.mem_map.mp selects
    obtain ⟨outcome, listed, found⟩ := List.mem_filterMap.mp held
    obtain ⟨descriptor, member, selects, eligible⟩ :=
      SkillSelector.of_mem_selected selected listed
    cases found.symm.trans selects.descriptor
    have authorized : carried.reference ∈
        (SkillAuthorizationSnapshot.fromBackend context authority).authorizedSkillRefs :=
      eligible.authorized
    exact ⟨descriptors, discovered, carried, member, rfl,
      SkillAuthorizationSnapshot.mem_authorizedSkillRefs.mp authorized⟩
  · cases selects

end

/-- On every two trees that agree on the root, the manifests and what stands below the
packages that are selected, a preparation returns the same context or raises the same
exception; and the packages that are selected are authorized by Backend and Agent. -/
theorem prepare_reads (runtime : SkillRuntime) (one two : Tree) (context : ExecutionContextView)
    (authority : AgentAuthority) (goal : String) (capabilityContext : List String)
    (maximumSelected : ℤ)
    (agree : Tree.Agree (Reads (runtime.packagesFor one (.fromBackend context authority) goal
      capabilityContext maximumSelected)) one two) :
    runtime.prepare one (.fromBackend context authority) goal capabilityContext maximumSelected =
        runtime.prepare two (.fromBackend context authority) goal capabilityContext
          maximumSelected ∧
      ∀ package ∈ runtime.packagesFor one (.fromBackend context authority) goal capabilityContext
          maximumSelected,
        ∃ descriptors, runtime.progressive.loader.discover one = .ok descriptors ∧
          ∃ descriptor ∈ descriptors, descriptor.packagePath = package ∧
            descriptor.reference ∈ authority.authorizedSkillRefs ∧
            descriptor.reference ∈ authority.agentSkillRefs := by
  refine ⟨?_, fun _ => authorized_of_mem_packagesFor⟩
  have listed : Tree.Agree FileSystemSkillLoader.IsListed one two :=
    agree.mono fun _ => .inl
  rw [prepare_eq_selection_bind, prepare_eq_selection_bind, ← selection_eq listed]
  unfold packagesFor at agree
  cases selected : runtime.selection one (.fromBackend context authority) goal capabilityContext
      maximumSelected with
  | error exc => rfl
  | ok selection =>
    rw [selected] at agree
    change (runtime.progressive.loadSelected one selection.selected >>= _) =
      (runtime.progressive.loadSelected two selection.selected >>= _)
    rw [loadSelected_eq agree]

/-! ## A package that changes beside the selected one -/

/-- The packages of the tests; the one that the goal does not match has lost its
instructions and has an executable. -/
def changedTree : Tree where
  paths := [["management", "run.sh"], ["management", "skill.yaml"], ["management"],
    ["technology", "SKILL.md"], ["technology", "skill.yaml"], ["technology"], []]
  node := packageNode
    [(["technology", "skill.yaml"], "technology"),
      (["technology", "SKILL.md"], "Analyze the architecture."),
      (["management", "skill.yaml"], "management"),
      (["management", "run.sh"], "exit 1")]

theorem prepare_reads_changed :
    packageRuntime.prepare packagesTree (.fromBackend packageContext packageAuthority)
        "technology architecture" [] 1 =
      packageRuntime.prepare changedTree (.fromBackend packageContext packageAuthority)
        "technology architecture" [] 1 := by
  have packages : packageRuntime.packagesFor packagesTree
      (.fromBackend packageContext packageAuthority) "technology architecture" [] 1 =
        [["technology"]] := by
    decide +kernel
  have agree : Tree.Agree (Reads [["technology"]]) packagesTree changedTree := by
    unfold Reads FileSystemSkillLoader.IsListed FileSystemSkillLoader.IsBelow
    exact Tree.agree_of_forall (by decide +kernel) (by decide +kernel)
  exact (prepare_reads packageRuntime packagesTree changedTree packageContext packageAuthority
    "technology architecture" [] 1 (packages ▸ agree)).1

end SkillRuntime

end Genesis

import Mathlib.Data.List.Lex
import Mathlib.Data.String.Basic
import Genesis.Lib.Priority
import Genesis.Lib.Python

/-!
# Directory trees

A tree of directories and text files, as a program that lists and reads it sees
it: the paths of its entries below a root, without symbolic links, and what
stands at each.  `Nearest` is the directory that encloses an entry most closely
among those that contain a marker file, and `nearest_iff` says what stands between
an entry and a marked directory above it otherwise.
-/

namespace FileTree

/-- The components of a path below the root. -/
abbrev Path : Type := List String

/-- A directory, or a file with the text it decodes to, if it decodes. -/
inductive Node : Type
  | dir
  | file (text : Option String)
  deriving DecidableEq

/-- A name that an entry of a directory can have. -/
def IsName (name : String) : Prop :=
  name ≠ "" ∧ name ≠ "." ∧ name ≠ ".." ∧ '/' ∉ name.toList

instance decidableIsName (name : String) : Decidable (IsName name) :=
  inferInstanceAs (Decidable (_ ∧ _ ∧ _ ∧ _))

/-- The root has the empty path; it need not exist, and need not be a directory. -/
structure Tree where
  paths : List Path
  node : Path → Node
  nodup : paths.Nodup := by decide
  names : ∀ path ∈ paths, ∀ name ∈ path, IsName name := by decide
  parents : ∀ path ∈ paths, path ≠ [] → path.dropLast ∈ paths ∧ node path.dropLast = .dir := by
    decide

namespace Tree

variable {tree : Tree} {path base other : Path} {name marker : String}

/-- `path.is_dir()`. -/
def isDir (tree : Tree) (path : Path) : Bool := path ∈ tree.paths ∧ tree.node path = .dir

/-- `path.is_file()`. -/
def isFile (tree : Tree) (path : Path) : Bool := path ∈ tree.paths ∧ tree.node path ≠ .dir

/-- `sorted(root.glob("**/name"))`, for a name without wildcards. -/
def glob (tree : Tree) (name : String) : List Path :=
  Priority.sortBy (fun path => path) (tree.paths.filter fun path => path.getLast? = some name)

theorem mem_glob : path ∈ tree.glob name ↔ path ∈ tree.paths ∧ path.getLast? = some name := by
  unfold glob
  rw [(Priority.sortBy_perm _ _).mem_iff, List.mem_filter, decide_eq_true_eq]

theorem append_mem_glob_iff : base ++ [name] ∈ tree.glob name ↔ base ++ [name] ∈ tree.paths := by
  rw [mem_glob, List.getLast?_concat]
  exact ⟨fun found => found.1, fun present => ⟨present, rfl⟩⟩

/-- A path with a last component is its parent followed by it. -/
theorem dropLast_append_of_getLast? (last : path.getLast? = some name) :
    path.dropLast ++ [name] = path := by
  apply List.dropLast_append_getLast?
  rw [last]
  rfl

/-- `sorted(base.rglob("*"))`: everything strictly below. -/
def rglob (tree : Tree) (base : Path) : List Path :=
  Priority.sortBy (fun path => path) (tree.paths.filter fun path => base <+: path ∧ path ≠ base)

theorem mem_rglob :
    path ∈ tree.rglob base ↔ path ∈ tree.paths ∧ base <+: path ∧ path ≠ base := by
  unfold rglob
  rw [(Priority.sortBy_perm _ _).mem_iff, List.mem_filter, decide_eq_true_eq]

/-! ## Trees that agree -/

/-- Among these paths, the two trees have the same entries. -/
def Agree (P : Path → Prop) (one two : Tree) : Prop :=
  ∀ path, P path → (path ∈ one.paths ↔ path ∈ two.paths) ∧
    (path ∈ one.paths → one.node path = two.node path)

variable {P Q : Path → Prop} {one two : Tree}

theorem Agree.mono (agree : Agree P one two) (within : ∀ path, Q path → P path) :
    Agree Q one two :=
  fun path holds => agree path (within path holds)

/-- The entries of the trees decide whether they agree. -/
theorem agree_of_forall
    (forth : ∀ path ∈ one.paths, P path → path ∈ two.paths ∧ one.node path = two.node path)
    (back : ∀ path ∈ two.paths, P path → path ∈ one.paths) : Agree P one two :=
  fun path holds =>
    ⟨⟨fun present => (forth path present holds).1, fun present => back path present holds⟩,
      fun present => (forth path present holds).2⟩

theorem Agree.isDir_eq (agree : Agree P one two) (holds : P path) :
    one.isDir path = two.isDir path := by
  obtain ⟨present, same⟩ := agree path holds
  unfold isDir
  rw [decide_eq_decide, ← present]
  exact and_congr_right fun member => by rw [same member]

theorem Agree.isFile_eq (agree : Agree P one two) (holds : P path) :
    one.isFile path = two.isFile path := by
  obtain ⟨present, same⟩ := agree path holds
  unfold isFile
  rw [decide_eq_decide, ← present]
  exact and_congr_right fun member => by rw [same member]

/-- The entries with a property are listed in the same order, if they are the same. -/
theorem Agree.sorted_eq {p : Path → Bool} (agree : Agree P one two)
    (holds : ∀ path, p path = true → P path) :
    Priority.sortBy (fun path => path) (one.paths.filter p) =
      Priority.sortBy (fun path => path) (two.paths.filter p) := by
  refine Priority.sortBy_eq_of_perm ?_ fun _ _ _ _ same => same
  rw [List.perm_ext_iff_of_nodup (one.nodup.filter p) (two.nodup.filter p)]
  intro path
  rw [List.mem_filter, List.mem_filter]
  exact and_congr_left fun listed => (agree path (holds path listed)).1

theorem Agree.glob_eq (agree : Agree P one two)
    (holds : ∀ path, path.getLast? = some name → P path) : one.glob name = two.glob name :=
  agree.sorted_eq fun path listed => holds path (of_decide_eq_true listed)

theorem Agree.rglob_eq (agree : Agree P one two)
    (holds : ∀ path, base <+: path → path ≠ base → P path) : one.rglob base = two.rglob base := by
  refine agree.sorted_eq fun path listed => ?_
  obtain ⟨within, proper⟩ := of_decide_eq_true listed
  exact holds path within proper

/-! ## Marked directories -/

/-- Of the directories that enclose the path and contain an entry `marker`, `base`
is the nearest. -/
structure Nearest (tree : Tree) (marker : String) (base path : Path) : Prop where
  marked : base ++ [marker] ∈ tree.paths
  above : base <+: path.dropLast
  nearest : ∀ other, other ++ [marker] ∈ tree.paths → other <+: path.dropLast → other <+: base

/-- A proper prefix of a path encloses it. -/
theorem prefix_dropLast (above : base <+: path) (proper : path ≠ base) :
    base <+: path.dropLast := by
  obtain ⟨rest, rfl⟩ := above
  have nonempty : rest ≠ [] := by
    intro none
    rw [none, List.append_nil] at proper
    exact proper rfl
  rw [List.dropLast_append_of_ne_nil nonempty]
  exact List.prefix_append base _

/-- What encloses a path is not the path. -/
theorem ne_of_prefix_dropLast (enclosing : other <+: path.dropLast) (nonempty : path ≠ []) :
    path ≠ other := by
  intro same
  have short := enclosing.length_le
  have positive : 0 < path.length := List.length_pos_iff.mpr nonempty
  rw [← same, List.length_dropLast] at short
  omega

/-- A marked directory above an entry is the nearest one exactly when no other
marked directory stands between them. -/
theorem nearest_iff (marked : base ++ [marker] ∈ tree.paths) (above : base <+: path)
    (proper : path ≠ base) :
    Nearest tree marker base path ↔
      ∀ other, other ++ [marker] ∈ tree.paths → base <+: other → other <+: path.dropLast →
        other = base := by
  have encloses := prefix_dropLast above proper
  refine ⟨?_, ?_⟩
  · intro nearest other present below enclosing
    have within := nearest.nearest other present enclosing
    exact within.eq_of_length (le_antisymm within.length_le below.length_le)
  · intro alone
    refine ⟨marked, encloses, fun other present enclosing => ?_⟩
    rcases List.prefix_or_prefix_of_prefix encloses enclosing with below | within
    · exact (alone other present below enclosing) ▸ List.prefix_rfl
    · exact within

end Tree

/-! ## Names -/

/-- `PurePath.suffix`: from the last dot on, unless the name starts or ends there. -/
def suffix (name : String) : String :=
  let split := name.toList.reverse.span fun c => c ≠ '.'
  if split.1 ≠ [] ∧ 2 ≤ split.2.length then String.ofList ('.' :: split.1.reverse) else ""

example : suffix "notes.tar.md" = ".md" ∧ suffix ".md" = "" ∧ suffix "notes." = "" := by
  decide +kernel

/-- `PurePath.as_posix` of a relative path. -/
def posix (path : Path) : String := Py.join "/" path

/-- The text of a path determines it. -/
theorem posix_injective {path other : Path} (nonempty : path ≠ []) (nonempty' : other ≠ [])
    (names : ∀ name ∈ path, IsName name) (names' : ∀ name ∈ other, IsName name)
    (same : posix path = posix other) : path = other := by
  have slashless {p : Path} (legal : ∀ name ∈ p, IsName name) :
      ∀ word ∈ p.map String.toList, '/' ∉ word := by
    intro word member
    obtain ⟨name, inPath, rfl⟩ := List.mem_map.mp member
    exact (legal name inPath).2.2.2
  have joined : ['/'].intercalate (path.map String.toList) =
      ['/'].intercalate (other.map String.toList) := String.ofList_injective same
  have words : path.map String.toList = other.map String.toList := by
    have split := congrArg (List.splitOn '/') joined
    rw [List.splitOn_intercalate '/' (slashless names) (by simpa using nonempty),
      List.splitOn_intercalate '/' (slashless names') (by simpa using nonempty')] at split
    exact split
  have injective : Function.Injective String.toList := fun _ _ => String.toList_injective
  exact List.map_injective_iff.mpr injective words

end FileTree

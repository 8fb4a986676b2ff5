import Mathlib.Algebra.Order.BigOperators.Group.List
import Genesis.Lib.Tree

/-!
# Walking a directory tree

`base/**/pattern` walks the directories below `base` and lists, in each, the entries
that match.  A directory lists its entries in an order that nobody fixes; the walk
fixes something of the order between directories, and not the same in every version
of the library that does it (`Traversal`).

* `pairwise_globBelow`: what `Trails` an entry is never listed before it.
* `listedLast_globBelow`: nothing else is fixed, as every entry is listed after all that
  does not trail it, in some listing of the directories.
-/

namespace FileTree

/-- How `**` walks the directories below a base: whether the subdirectories of a
directory are listed together, when it is visited, or each as it is visited; and whether
of these the one listed last is visited first.  Python 3.12 lists them together and
visits them in the order of the listing, earlier versions list each as it is visited. -/
structure Traversal where
  grouped : Bool
  backwards : Bool
  deriving DecidableEq

namespace Traversal

/-- The order in which listed subdirectories are visited. -/
def visits (traversal : Traversal) (listed : List Path) : List Path :=
  if traversal.backwards then listed.reverse else listed

/-- The directory whose visit lists this one. -/
def lister (traversal : Traversal) (directory : Path) : Path :=
  if traversal.grouped then directory.dropLast else directory

theorem mem_visits {traversal : Traversal} {listed : List Path} {path : Path} :
    path ∈ traversal.visits listed ↔ path ∈ listed := by
  unfold visits
  split
  · exact List.mem_reverse
  · exact Iff.rfl

theorem nodup_visits {traversal : Traversal} {listed : List Path} (nodup : listed.Nodup) :
    (traversal.visits listed).Nodup := by
  unfold visits
  split
  · exact List.nodup_reverse.mpr nodup
  · exact nodup

/-- The entries of `late` are listed after those of `early`, however either directory and
those above them list their entries. -/
def Trails (traversal : Traversal) (early late : Path) : Prop :=
  if traversal.grouped then early.length < late.length ∧ early.dropLast <+: late
  else early <+: late ∧ early ≠ late

instance decidableTrails (traversal : Traversal) (early late : Path) :
    Decidable (traversal.Trails early late) :=
  inferInstanceAs (Decidable (if traversal.grouped = true
    then early.length < late.length ∧ early.dropLast <+: late else early <+: late ∧ early ≠ late))

theorem not_trails_self (traversal : Traversal) (path : Path) : ¬ traversal.Trails path path := by
  unfold Trails
  split
  · exact fun trails => Nat.lt_irrefl _ trails.1
  · exact fun trails => trails.2 rfl

end Traversal

namespace Tree

/-! ## The walk -/

section

variable (tree : Tree) (traversal : Traversal)

/-- The entries of a directory, as it lists them. -/
def children (base : Path) : List Path :=
  tree.paths.filter fun path => path ≠ [] ∧ path.dropLast = base

def subdirectories (base : Path) : List Path :=
  (tree.children base).filter fun path => tree.node path = .dir

/-- The directories below `base`, down to this depth, as they are visited. -/
def descend : ℕ → Path → List Path
  | 0, base => [base]
  | depth + 1, base =>
    base :: (traversal.visits (tree.subdirectories base)).flatMap (descend depth)

/-- No path is longer. -/
def depth : ℕ := (tree.paths.map List.length).sum

/-- The directories that `base/**` yields. -/
def walk (base : Path) : List Path :=
  let visited := tree.descend traversal tree.depth base
  if traversal.grouped then base :: visited.flatMap tree.subdirectories else visited

/-- What `base/**/pattern` yields of a directory `base`. -/
def globBelow (base : Path) (isMatch : Path → Bool) : List Path :=
  (tree.walk traversal base).flatMap fun directory => (tree.children directory).filter isMatch

end

section

variable {tree : Tree} {traversal : Traversal} {base path : Path} {isMatch : Path → Bool}
  {depth : ℕ}

/-! ## What is visited -/

theorem mem_children :
    path ∈ tree.children base ↔ path ∈ tree.paths ∧ path ≠ [] ∧ path.dropLast = base := by
  rw [children, List.mem_filter, decide_eq_true_eq]

theorem isDir_iff : tree.isDir path = true ↔ path ∈ tree.paths ∧ tree.node path = .dir := by
  rw [isDir, decide_eq_true_eq]

theorem mem_subdirectories :
    path ∈ tree.subdirectories base ↔
      tree.isDir path = true ∧ path ≠ [] ∧ path.dropLast = base := by
  rw [subdirectories, List.mem_filter, mem_children, decide_eq_true_eq, isDir_iff, and_right_comm,
    and_assoc]

theorem length_of_mem_children (member : path ∈ tree.children base) :
    path.length = base.length + 1 := by
  obtain ⟨-, nonempty, rfl⟩ := mem_children.mp member
  have positive := List.length_pos_iff.mpr nonempty
  rw [List.length_dropLast]
  omega

theorem prefix_of_mem_children (member : path ∈ tree.children base) : base <+: path := by
  obtain ⟨-, -, rfl⟩ := mem_children.mp member
  exact List.dropLast_prefix path

theorem mem_children_of_mem_subdirectories (member : path ∈ tree.subdirectories base) :
    path ∈ tree.children base :=
  List.mem_of_mem_filter member

/-- What stands above an entry is a directory. -/
theorem isDir_of_below (present : path ∈ tree.paths) (above : base <+: path)
    (proper : path ≠ base) : tree.isDir base = true := by
  induction path using List.reverseRecOn with
  | nil => exact absurd (List.prefix_nil.mp above).symm proper
  | append_singleton parent name ih =>
    obtain ⟨inTree, isDirectory⟩ := tree.parents _ present (List.concat_ne_nil _ _)
    rw [List.dropLast_concat] at inTree isDirectory
    have within := prefix_dropLast above proper
    rw [List.dropLast_concat] at within
    by_cases same : parent = base
    · rw [← same]
      exact isDir_iff.mpr ⟨inTree, isDirectory⟩
    · exact ih inTree within same

/-- A directory above an entry has a child that is the entry or above it. -/
theorem exists_child_towards (present : path ∈ tree.paths) (above : base <+: path)
    (proper : path ≠ base) : ∃ child ∈ tree.children base, child <+: path := by
  obtain ⟨rest, rfl⟩ := above
  cases rest with
  | nil => exact absurd (List.append_nil base) proper
  | cons name rest =>
    have within : base ++ [name] <+: base ++ name :: rest := ⟨rest, by simp⟩
    have listed : base ++ [name] ∈ tree.paths := by
      by_cases same : base ++ name :: rest = base ++ [name]
      · rw [← same]
        exact present
      · exact (isDir_iff.mp (isDir_of_below present within same)).1
    exact ⟨base ++ [name],
      mem_children.mpr ⟨listed, List.concat_ne_nil _ _, List.dropLast_concat⟩, within⟩

theorem mem_subdirectories_of_below {child : Path} (directory : tree.isDir path = true)
    (listed : child ∈ tree.children base) (within : child <+: path) :
    child ∈ tree.subdirectories base := by
  obtain ⟨-, nonempty, parent⟩ := mem_children.mp listed
  refine mem_subdirectories.mpr ⟨?_, nonempty, parent⟩
  by_cases same : path = child
  · rw [← same]
    exact directory
  · exact isDir_of_below (isDir_iff.mp directory).1 within same

theorem length_le_depth (present : path ∈ tree.paths) : path.length ≤ tree.depth :=
  List.single_le_sum (fun _ _ => Nat.zero_le _) _ (List.mem_map_of_mem present)

theorem prefix_of_mem_descend (member : path ∈ tree.descend traversal depth base) :
    base <+: path := by
  induction depth generalizing base with
  | zero => exact (List.mem_singleton.mp member) ▸ List.prefix_rfl
  | succ depth ih =>
    rcases List.mem_cons.mp member with rfl | inBelow
    · exact List.prefix_rfl
    · obtain ⟨child, listed, below⟩ := List.mem_flatMap.mp inBelow
      have listed := mem_children_of_mem_subdirectories (Traversal.mem_visits.mp listed)
      exact (prefix_of_mem_children listed).trans (ih below)

/-- What is visited below a directory after it. -/
theorem below_of_mem_flatMap {children : List Path}
    (listed : ∀ child ∈ children, child ∈ tree.children base)
    (member : path ∈ children.flatMap (tree.descend traversal depth)) :
    base <+: path ∧ base ≠ path := by
  obtain ⟨child, inChildren, below⟩ := List.mem_flatMap.mp member
  have within := prefix_of_mem_descend below
  have longer := length_of_mem_children (listed child inChildren)
  have deeper := within.length_le
  refine ⟨(prefix_of_mem_children (listed child inChildren)).trans within, ?_⟩
  rintro rfl
  omega

theorem mem_descend (directory : tree.isDir base = true) :
    path ∈ tree.descend traversal depth base ↔
      tree.isDir path = true ∧ base <+: path ∧ path.length ≤ base.length + depth := by
  induction depth generalizing base with
  | zero =>
    rw [descend, List.mem_singleton]
    refine ⟨?_, ?_⟩
    · rintro rfl
      exact ⟨directory, List.prefix_rfl, le_rfl⟩
    · rintro ⟨-, above, short⟩
      exact (above.eq_of_length_le short).symm
  | succ depth ih =>
    rw [descend, List.mem_cons, List.mem_flatMap]
    refine ⟨?_, ?_⟩
    · rintro (rfl | ⟨child, listed, below⟩)
      · exact ⟨directory, List.prefix_rfl, Nat.le_add_right _ _⟩
      · have member := Traversal.mem_visits.mp listed
        obtain ⟨isDirectory, above, short⟩ := (ih (mem_subdirectories.mp member).1).mp below
        have inChildren := mem_children_of_mem_subdirectories member
        have longer := length_of_mem_children inChildren
        exact ⟨isDirectory, (prefix_of_mem_children inChildren).trans above, by omega⟩
    · rintro ⟨isDirectory, above, short⟩
      by_cases same : path = base
      · exact .inl same
      right
      obtain ⟨child, listed, within⟩ :=
        exists_child_towards (isDir_iff.mp isDirectory).1 above same
      have member := mem_subdirectories_of_below isDirectory listed within
      have longer := length_of_mem_children listed
      exact ⟨child, Traversal.mem_visits.mpr member,
        (ih (mem_subdirectories.mp member).1).mpr ⟨isDirectory, within, by omega⟩⟩

theorem mem_visited (directory : tree.isDir base = true) :
    path ∈ tree.descend traversal tree.depth base ↔ tree.isDir path = true ∧ base <+: path := by
  rw [mem_descend directory]
  refine and_congr_right fun isDirectory => and_iff_left ?_
  exact (length_le_depth (isDir_iff.mp isDirectory).1).trans (Nat.le_add_left _ _)

theorem mem_walk (directory : tree.isDir base = true) :
    path ∈ tree.walk traversal base ↔ tree.isDir path = true ∧ base <+: path := by
  unfold walk
  split
  · rw [List.mem_cons, List.mem_flatMap]
    refine ⟨?_, ?_⟩
    · rintro (rfl | ⟨parent, visited, member⟩)
      · exact ⟨directory, List.prefix_rfl⟩
      · have above := prefix_of_mem_children (mem_children_of_mem_subdirectories member)
        exact ⟨(mem_subdirectories.mp member).1, ((mem_visited directory).mp visited).2.trans above⟩
    · rintro ⟨isDirectory, above⟩
      by_cases same : path = base
      · exact .inl same
      have within := prefix_dropLast above same
      have nonempty : path ≠ [] := by
        rintro rfl
        exact same (List.prefix_nil.mp above).symm
      have parent := tree.parents path (isDir_iff.mp isDirectory).1 nonempty
      exact .inr ⟨path.dropLast, (mem_visited directory).mpr ⟨isDir_iff.mpr parent, within⟩,
        mem_subdirectories.mpr ⟨isDirectory, nonempty, rfl⟩⟩
  · exact mem_visited directory

theorem mem_globBelow (directory : tree.isDir base = true) :
    path ∈ tree.globBelow traversal base isMatch ↔
      path ∈ tree.paths ∧ base <+: path ∧ path ≠ base ∧ isMatch path = true := by
  unfold globBelow
  rw [List.mem_flatMap]
  refine ⟨?_, ?_⟩
  · rintro ⟨parent, visited, member⟩
    obtain ⟨listed, isMatch⟩ := List.mem_filter.mp member
    have longer := length_of_mem_children listed
    have above := ((mem_walk directory).mp visited).2
    refine ⟨(mem_children.mp listed).1, above.trans (prefix_of_mem_children listed), ?_, isMatch⟩
    rintro rfl
    have short := above.length_le
    omega
  · rintro ⟨present, above, proper, isMatch⟩
    have nonempty : path ≠ [] := by
      rintro rfl
      exact proper (List.prefix_nil.mp above).symm
    have parent := tree.parents path present nonempty
    exact ⟨path.dropLast, (mem_walk directory).mpr ⟨isDir_iff.mpr parent,
      prefix_dropLast above proper⟩, List.mem_filter.mpr
        ⟨mem_children.mpr ⟨present, nonempty, rfl⟩, isMatch⟩⟩

/-! ## What is fixed of the order -/

/-- Of two entries of one directory, neither is below the other. -/
theorem eq_of_prefix_of_mem_children {child other : Path} (listed : child ∈ tree.children base)
    (listed' : other ∈ tree.children base) (within : child <+: path) (within' : other <+: path) :
    child = other := by
  have same : child.length = other.length :=
    (length_of_mem_children listed).trans (length_of_mem_children listed').symm
  exact (List.prefix_of_prefix_length_le within within' same.le).eq_of_length same

theorem nodup_subdirectories : (tree.subdirectories base).Nodup :=
  (tree.nodup.filter _).filter _

/-- A directory is visited before those below it. -/
theorem pairwise_descend :
    (tree.descend traversal depth base).Pairwise fun early late => ¬ late <+: early := by
  induction depth generalizing base with
  | zero => exact List.pairwise_singleton _ _
  | succ depth ih =>
    have listed : ∀ child ∈ traversal.visits (tree.subdirectories base),
        child ∈ tree.children base := fun child member =>
      mem_children_of_mem_subdirectories (Traversal.mem_visits.mp member)
    rw [descend, List.pairwise_cons, List.pairwise_flatMap]
    refine ⟨?_, fun child _ => ih, ?_⟩
    · intro late member above
      obtain ⟨below, proper⟩ := below_of_mem_flatMap listed member
      exact proper (below.eq_of_length (le_antisymm below.length_le above.length_le))
    · refine (Traversal.nodup_visits nodup_subdirectories).imp_of_mem ?_
      intro child other member member' apart early inChild late inOther above
      exact apart (eq_of_prefix_of_mem_children (listed child member) (listed other member')
        (prefix_of_mem_descend inChild) ((prefix_of_mem_descend inOther).trans above))

/-- A directory whose entries trail those of another comes after it. -/
theorem pairwise_walk :
    (tree.walk traversal base).Pairwise fun early late => ¬ traversal.Trails late early := by
  unfold walk Traversal.Trails
  split
  · rw [List.pairwise_cons, List.pairwise_flatMap]
    refine ⟨?_, ?_, ?_⟩
    · intro late member trails
      obtain ⟨parent, visited, listed⟩ := List.mem_flatMap.mp member
      have longer := length_of_mem_children (mem_children_of_mem_subdirectories listed)
      have below := (prefix_of_mem_descend visited).length_le
      omega
    · intro parent _
      refine List.pairwise_of_forall_mem_list fun early listed late listed' trails => ?_
      have length := length_of_mem_children (mem_children_of_mem_subdirectories listed)
      have length' := length_of_mem_children (mem_children_of_mem_subdirectories listed')
      omega
    · refine pairwise_descend.imp fun {first second} apart => ?_
      rintro early listed late listed' ⟨shorter, above⟩
      obtain ⟨-, -, rfl⟩ := mem_children.mp (mem_children_of_mem_subdirectories listed)
      obtain ⟨-, -, rfl⟩ := mem_children.mp (mem_children_of_mem_subdirectories listed')
      refine apart (prefix_dropLast above ?_)
      rintro rfl
      rw [List.length_dropLast] at shorter
      omega
  · exact pairwise_descend.imp fun apart trails => apart trails.1

/-- What trails an entry is not listed before it. -/
theorem pairwise_globBelow :
    (tree.globBelow traversal base isMatch).Pairwise fun early late =>
      ¬ traversal.Trails late.dropLast early.dropLast := by
  have parent {directory path : Path} (member : path ∈ (tree.children directory).filter isMatch) :
      path.dropLast = directory := (mem_children.mp (List.mem_of_mem_filter member)).2.2
  unfold globBelow
  rw [List.pairwise_flatMap]
  refine ⟨?_, ?_⟩
  · intro directory _
    refine List.pairwise_of_forall_mem_list fun early listed late listed' => ?_
    rw [parent listed, parent listed']
    exact traversal.not_trails_self directory
  · refine pairwise_walk.imp fun {first second} apart early listed late listed' => ?_
    rw [parent listed, parent listed']
    exact apart

/-! ## What is not fixed -/

/-- An entry that nothing else may come after is the last. -/
theorem exists_eq_concat {r : Path → Path → Prop} {xs : List Path} {entry : Path}
    (nodup : xs.Nodup) (ordered : xs.Pairwise r) (member : entry ∈ xs)
    (last : ∀ other ∈ xs, other ≠ entry → ¬ r entry other) : ∃ before, xs = before ++ [entry] := by
  obtain ⟨before, after, rfl⟩ := List.append_of_mem member
  cases after with
  | nil => exact ⟨before, rfl⟩
  | cons other after =>
    have later := (List.pairwise_cons.mp (List.pairwise_append.mp ordered).2.1).1 other
      List.mem_cons_self
    have notAfter := (List.nodup_cons.mp (List.nodup_append'.mp nodup).2.1).1
    have differs : other ≠ entry := fun same => notAfter (same ▸ List.mem_cons_self)
    exact absurd later (last other (List.mem_append_right _
      (List.mem_cons_of_mem _ List.mem_cons_self)) differs)

/-- What is listed last is visited last or, backwards, what is listed first. -/
theorem exists_visits_eq {rank : Path → ℕ} {xs : List Path} {child : Path} (nodup : xs.Nodup)
    (sorted : xs.Pairwise fun a b => rank a ≤ rank b) (member : child ∈ xs)
    (extreme : ∀ other ∈ xs, other ≠ child →
      if traversal.backwards then rank child < rank other else rank other < rank child) :
    ∃ before, traversal.visits xs = before ++ [child] := by
  unfold Traversal.visits
  split
  next backwards =>
    simp only [if_pos backwards] at extreme
    refine exists_eq_concat (List.nodup_reverse.mpr nodup) (List.pairwise_reverse.mpr sorted)
      (List.mem_reverse.mpr member) ?_
    exact fun other listed differs =>
      (extreme other (List.mem_reverse.mp listed) differs).not_ge
  next forwards =>
    simp only [if_neg forwards] at extreme
    exact exists_eq_concat nodup sorted member fun other listed differs =>
      (extreme other listed differs).not_ge

/-- Where the way to a directory is visited last, only what is below it is visited after. -/
theorem exists_descend_last {target : Path}
    (last : ∀ parent, ∀ child ∈ tree.subdirectories parent, child <+: target →
      ∃ before, traversal.visits (tree.subdirectories parent) = before ++ [child])
    (directory : tree.isDir target = true) (above : base <+: target)
    (deep : target.length ≤ base.length + depth) :
    ∃ before after, tree.descend traversal depth base = before ++ target :: after ∧
      ∀ later ∈ after, target <+: later ∧ target ≠ later := by
  induction depth generalizing base with
  | zero =>
    rw [above.eq_of_length_le deep]
    exact ⟨[], [], rfl, List.forall_mem_nil _⟩
  | succ depth ih =>
    by_cases same : target = base
    · subst same
      refine ⟨[], _, rfl, fun later member => below_of_mem_flatMap ?_ member⟩
      exact fun child listed =>
        mem_children_of_mem_subdirectories (Traversal.mem_visits.mp listed)
    obtain ⟨child, listed, within⟩ :=
      exists_child_towards (isDir_iff.mp directory).1 above same
    have longer := length_of_mem_children listed
    obtain ⟨others, visits⟩ :=
      last base child (mem_subdirectories_of_below directory listed within) within
    obtain ⟨before, after, split, below⟩ := ih within (by omega)
    refine ⟨base :: (others.flatMap (tree.descend traversal depth) ++ before), after, ?_, below⟩
    rw [descend, visits, List.flatMap_append, List.flatMap_singleton, split, ← List.append_assoc]
    rfl

/-- Where the way to a directory is visited last, and the directory listed last of those it
is listed with, only what trails it comes after it. -/
theorem exists_walk_last {directory : Path} (isDirectory : tree.isDir directory = true)
    (above : base <+: directory)
    (visited : ∀ parent, ∀ child ∈ tree.subdirectories parent,
      child <+: traversal.lister directory →
        ∃ before, traversal.visits (tree.subdirectories parent) = before ++ [child])
    (listed : directory ∈ tree.subdirectories directory.dropLast → traversal.grouped = true →
      ∃ before, tree.subdirectories directory.dropLast = before ++ [directory]) :
    ∃ before after, tree.walk traversal base = before ++ directory :: after ∧
      ∀ later ∈ after, traversal.Trails directory later := by
  have deep {path : Path} (present : path ∈ tree.paths) :
      path.length ≤ base.length + tree.depth :=
    (length_le_depth present).trans (Nat.le_add_left _ _)
  unfold walk Traversal.Trails
  unfold Traversal.lister at visited
  split
  next grouped =>
    rw [if_pos grouped] at visited
    by_cases same : directory = base
    · subst same
      refine ⟨[], _, rfl, fun later member => ?_⟩
      obtain ⟨parent, inVisited, inParent⟩ := List.mem_flatMap.mp member
      have inChildren := mem_children_of_mem_subdirectories inParent
      have below := prefix_of_mem_descend inVisited
      have longer := length_of_mem_children inChildren
      have short := below.length_le
      exact ⟨by omega, (List.dropLast_prefix directory).trans
        (below.trans (prefix_of_mem_children inChildren))⟩
    have nonempty : directory ≠ [] := by
      rintro rfl
      exact same (List.prefix_nil.mp above).symm
    have parent := isDir_iff.mpr (tree.parents directory (isDir_iff.mp isDirectory).1 nonempty)
    obtain ⟨others, last⟩ := listed (mem_subdirectories.mpr ⟨isDirectory, nonempty, rfl⟩) grouped
    obtain ⟨before, after, split, below⟩ := exists_descend_last visited parent
      (prefix_dropLast above same) (deep (isDir_iff.mp parent).1)
    refine ⟨base :: (before.flatMap tree.subdirectories ++ others),
      after.flatMap tree.subdirectories, ?_, fun later member => ?_⟩
    · simp only [split, List.flatMap_append, List.flatMap_cons, last, List.append_assoc,
        List.cons_append, List.nil_append]
    · obtain ⟨directory', inAfter, inDirectory⟩ := List.mem_flatMap.mp member
      obtain ⟨within, proper⟩ := below directory' inAfter
      have inChildren := mem_children_of_mem_subdirectories inDirectory
      have longer := length_of_mem_children inChildren
      have deeper : directory.dropLast.length < directory'.length :=
        lt_of_le_of_ne within.length_le fun same => proper (within.eq_of_length same)
      rw [List.length_dropLast] at deeper
      exact ⟨by omega, within.trans (prefix_of_mem_children inChildren)⟩
  next alone =>
    rw [if_neg alone] at visited
    exact exists_descend_last visited isDirectory above (deep (isDir_iff.mp isDirectory).1)

end

/-! ## Listings -/

section

variable {tree other : Tree} {traversal : Traversal} {base path : Path} {isMatch : Path → Bool}

/-- The tree with its entries in another order. -/
def relist (tree : Tree) {paths : List Path} (perm : paths.Perm tree.paths) : Tree where
  paths := paths
  node := tree.node
  nodup := perm.nodup_iff.mpr tree.nodup
  names path member := tree.names path (perm.mem_iff.mp member)
  parents path member nonempty :=
    have ⟨parent, directory⟩ := tree.parents path (perm.mem_iff.mp member) nonempty
    ⟨perm.mem_iff.mpr parent, directory⟩

/-- The same entries, listed in another order. -/
structure Relisted (tree other : Tree) : Prop where
  node : other.node = tree.node
  paths : other.paths.Perm tree.paths

theorem relisted_relist {paths : List Path} (perm : paths.Perm tree.paths) :
    Relisted tree (tree.relist perm) :=
  ⟨rfl, perm⟩

theorem Relisted.refl : Relisted tree tree := ⟨rfl, .refl _⟩

theorem Relisted.symm (relisted : Relisted tree other) : Relisted other tree :=
  ⟨relisted.node.symm, relisted.paths.symm⟩

theorem Relisted.isDir_eq (relisted : Relisted tree other) (path : Path) :
    other.isDir path = tree.isDir path := by
  unfold isDir
  rw [decide_eq_decide, relisted.node, relisted.paths.mem_iff]

/-- Where an entry stands in the listing that puts `path` last: what is above it is visited
last, and the entries that are only listed on the way to it are listed last. -/
def lastRank (traversal : Traversal) (path entry : Path) : ℕ :=
  if entry <+: traversal.lister path.dropLast then (if traversal.backwards then 0 else 2)
  else if entry <+: path then 2 else 1

/-- The listing that puts `path` last. -/
def listedLast (tree : Tree) (traversal : Traversal) (path : Path) : Tree :=
  tree.relist (Priority.sortBy_perm (lastRank traversal path) tree.paths)

theorem lister_prefix_dropLast : traversal.lister path.dropLast <+: path.dropLast := by
  unfold Traversal.lister
  split
  · exact List.dropLast_prefix _
  · exact List.prefix_rfl

theorem lister_prefix : traversal.lister path.dropLast <+: path :=
  lister_prefix_dropLast.trans (List.dropLast_prefix path)

theorem lastRank_eq_one {entry : Path} (elsewhere : ¬ entry <+: path) :
    lastRank traversal path entry = 1 := by
  unfold lastRank
  rw [if_neg fun above => elsewhere (above.trans lister_prefix), if_neg elsewhere]

/-- Beside an entry on the way, nothing of its directory is on the way. -/
theorem lastRank_of_beside {parent child entry : Path} (listed : child ∈ tree.children parent)
    (listed' : entry ∈ tree.children parent) (within : child <+: path) (apart : entry ≠ child) :
    lastRank traversal path entry = 1 :=
  lastRank_eq_one fun within' =>
    apart (eq_of_prefix_of_mem_children listed' listed within' within)

theorem listedLast_sorted {p : Path → Bool} :
    ((tree.listedLast traversal path).paths.filter p).Pairwise fun a b =>
      lastRank traversal path a ≤ lastRank traversal path b :=
  (Priority.sortBy_pairwise _ _).sublist List.filter_sublist

/-- The entry on the way that is not visited before its parent's listing is listed last. -/
theorem listedLast_concat {parent entry : Path} {p : Path → Bool}
    (member : entry ∈ ((tree.listedLast traversal path).children parent).filter p)
    (within : entry <+: path) (beyond : ¬ entry <+: traversal.lister path.dropLast) :
    ∃ before, ((tree.listedLast traversal path).children parent).filter p =
      before ++ [entry] := by
  have sorted : (((tree.listedLast traversal path).children parent).filter p).Pairwise fun a b =>
      lastRank traversal path a ≤ lastRank traversal path b :=
    listedLast_sorted.filter p
  refine exists_eq_concat (((tree.listedLast traversal path).nodup.filter _).filter _) sorted
    member ?_
  intro other listed apart
  rw [lastRank_of_beside (List.mem_of_mem_filter member) (List.mem_of_mem_filter listed) within
    apart, lastRank, if_neg beyond, if_pos within]
  decide

/-- What is above the entry is visited last of its parent's subdirectories. -/
theorem listedLast_visits {parent child : Path}
    (listed : child ∈ (tree.listedLast traversal path).subdirectories parent)
    (within : child <+: traversal.lister path.dropLast) :
    ∃ before, traversal.visits ((tree.listedLast traversal path).subdirectories parent) =
      before ++ [child] := by
  have sorted : ((tree.listedLast traversal path).subdirectories parent).Pairwise fun a b =>
      lastRank traversal path a ≤ lastRank traversal path b :=
    listedLast_sorted.filter _
  refine exists_visits_eq nodup_subdirectories sorted listed ?_
  intro other listed' apart
  rw [lastRank_of_beside (mem_children_of_mem_subdirectories listed)
    (mem_children_of_mem_subdirectories listed') (within.trans lister_prefix) apart, lastRank,
    if_pos within]
  cases traversal.backwards with
  | false => decide
  | true => decide

/-- In the listing that puts an entry last, only what trails the entry comes after it. -/
theorem listedLast_globBelow (directory : tree.isDir base = true)
    (member : path ∈ tree.globBelow traversal base isMatch) :
    ∃ before after, (tree.listedLast traversal path).globBelow traversal base isMatch =
        before ++ path :: after ∧
      ∀ later ∈ after, traversal.Trails path.dropLast later.dropLast := by
  obtain ⟨present, above, proper, matched⟩ := (mem_globBelow directory).mp member
  have nonempty : path ≠ [] := by
    rintro rfl
    exact proper (List.prefix_nil.mp above).symm
  have relisted := relisted_relist (Priority.sortBy_perm (lastRank traversal path) tree.paths)
  have parent := isDir_iff.mpr (tree.parents path present nonempty)
  rw [← relisted.isDir_eq] at parent
  obtain ⟨before, after, split, trails⟩ := exists_walk_last parent (prefix_dropLast above proper)
    (fun _ _ listed within => listedLast_visits listed within) fun listed grouped => by
      refine listedLast_concat listed (List.dropLast_prefix path) fun within => ?_
      rw [Traversal.lister, if_pos grouped] at within
      exact ne_of_prefix_dropLast within (mem_subdirectories.mp listed).2.1 rfl
  have inParent : path ∈
      ((tree.listedLast traversal path).children path.dropLast).filter isMatch :=
    List.mem_filter.mpr
      ⟨mem_children.mpr ⟨relisted.paths.mem_iff.mpr present, nonempty, rfl⟩, matched⟩
  obtain ⟨beside, last⟩ := listedLast_concat inParent List.prefix_rfl fun within =>
    ne_of_prefix_dropLast (within.trans lister_prefix_dropLast) nonempty rfl
  refine ⟨before.flatMap (fun directory =>
      ((tree.listedLast traversal path).children directory).filter isMatch) ++ beside,
    after.flatMap fun directory =>
      ((tree.listedLast traversal path).children directory).filter isMatch, ?_, ?_⟩
  · unfold globBelow
    rw [listedLast, split, List.flatMap_append, List.flatMap_cons]
    rw [listedLast] at last
    rw [last, List.append_assoc, List.append_assoc]
    rfl
  · intro later inAfter
    obtain ⟨directory', below, listed⟩ := List.mem_flatMap.mp inAfter
    rw [(mem_children.mp (List.mem_of_mem_filter listed)).2.2]
    exact trails directory' below

end

end Tree

end FileTree

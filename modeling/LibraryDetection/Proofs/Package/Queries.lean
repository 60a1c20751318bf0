import LibraryDetection.Proofs.Collection.Sorted
import LibraryDetection.Proofs.Package.Calls
import LibraryDetection.Proofs.Text.Fields

/-!
# Questions about packages

The walk, the look-up by path and the dotted names describe the same packages, which are those
of the classes that were added and the ones above them.  Everything that is counted or listed
of a package tree can therefore be told from its classes alone.
-/

namespace LibraryDetection

set_option autoImplicit false

open LibraryDetection.Text

namespace PackagePath

variable {path : PackagePath}

theorem dotted_of_dotted (name : String) : dotted (ofDotted name) = name := by
  unfold ofDotted
  split
  case isTrue empty =>
    rw [empty]
    rfl
  case isFalse some =>
    exact join_split '.' name

theorem of_dotted_dotted (valid : path.Valid) : ofDotted (dotted path) = path := by
  cases path with
  | nil => rfl
  | cons first rest =>
      have readBack : split '.' (dotted (first :: rest)) = first :: rest := by
        apply split_join_of_not_mem (List.cons_ne_nil first rest)
        intro segment member dot
        have separates := (segment_fault?_eq_none_iff.1 (valid segment member)).2.2 '.' dot
        exact absurd separates (by decide)
      have named : dotted (first :: rest) ≠ "" := by
        intro empty
        rw [empty] at readBack
        have firstEmpty : "" = first := (List.cons.inj readBack).1
        have nonempty := (segment_fault?_eq_none_iff.1 (valid first List.mem_cons_self)).1
        exact nonempty firstEmpty.symm
      rw [ofDotted, if_neg named, readBack]

theorem dotted_eq_iff (valid : path.Valid) (name : String) :
    dotted path = name ↔ path = ofDotted name := by
  constructor
  · intro same
    rw [← same, of_dotted_dotted valid]
  · intro same
    rw [same, dotted_of_dotted]

end PackagePath

namespace PackageTree

open PackageNode

def packagePaths (classes : List ClassDescriptor) : List PackagePath :=
  distinct (classes.map (·.package))

def lowestPaths (paths : List PackagePath) : List PackagePath :=
  paths.filter fun path => path ≠ [] ∧ ∀ other ∈ paths, path <+: other → other = path

/-- What a package tree answers, told from the classes that are stored in it.  Every answer is
that of a plain list of classes with their paths. -/
structure Answers (tree : PackageTree) (stored : List ClassDescriptor) : Prop where
  /-- The packages are met with a stack. -/
  unstacked : PackageNode.unstack [([], tree.root)] = tree.nodes
  listed : ∀ descriptor, descriptor ∈ tree.classes ↔ descriptor ∈ stored
  /-- The walk goes from path to path in rising order, and so meets none of them twice. -/
  rising : (tree.nodes.map (·.1)).Pairwise (· < ·)
  walked : ∀ path, path ∈ tree.nodes.map (·.1) ↔
    path = [] ∨ ∃ descriptor ∈ stored, path <+: descriptor.package
  /-- The package at a path is the one that the walk meets there, and there is no other. -/
  found : ∀ path node, tree.find? path = some node ↔ (path, node) ∈ tree.nodes
  names : ∀ name, name ∈ tree.packages ↔
    ∃ descriptor ∈ stored, descriptor.package.dotted = name
  holds : ∀ name, tree.holds name = true ↔ name ∈ tree.packages
  namesRising : tree.packages.Pairwise (· < ·)
  length_packages : tree.packages.length = tree.packageCount
  packageCount : tree.packageCount = (packagePaths stored).length
  leafCount : tree.leafCount = (lowestPaths (packagePaths stored)).length

theorem mem_package_paths {classes : List ClassDescriptor} {path : PackagePath} :
    path ∈ packagePaths classes ↔ ∃ descriptor ∈ classes, descriptor.package = path := by
  rw [packagePaths, mem_distinct, List.mem_map]

theorem nodup_package_paths (classes : List ClassDescriptor) : (packagePaths classes).Nodup :=
  nodup_distinct _

namespace Growth

section Sound

variable {state : Growth} {path : PackagePath} {node : PackageNode}

theorem Sound.find?_eq_some_iff (sound : state.Sound) :
    state.tree.find? path = some node ↔ (path, node) ∈ state.tree.nodes := by
  rw [nodes, mem_walk_iff sound.formed]
  simp [PackageTree.find?]

theorem Sound.exists_find?_iff (sound : state.Sound) (path : PackagePath) :
    (∃ node, state.tree.find? path = some node) ↔
      path = [] ∨ ∃ descriptor ∈ state.taken, path <+: descriptor.package := by
  constructor
  · intro found
    obtain ⟨node, present⟩ := found
    by_cases atRoot : path = []
    · exact .inl atRoot
    · obtain ⟨rest, descriptor, _, isTaken, place⟩ :=
        sound.exists_class_below (sound.find?_eq_some_iff.1 present) atRoot
      exact .inr ⟨descriptor, isTaken, rest, place.symm⟩
  · intro above
    cases above with
    | inl atRoot =>
        rw [atRoot]
        exact ⟨state.tree.root, rfl⟩
    | inr below =>
        obtain ⟨descriptor, isTaken, rest, place⟩ := below
        have held := (sound.held _ descriptor).2 ⟨isTaken, place.symm⟩
        obtain ⟨whole, present⟩ := find?_isSome_of_mem_classes_at held
        rw [find?_append, Option.bind_eq_some_iff] at present
        obtain ⟨node, here, _⟩ := present
        exact ⟨node, here⟩

theorem Sound.mem_nodes_paths_iff (sound : state.Sound) (path : PackagePath) :
    path ∈ state.tree.nodes.map (·.1) ↔
      path = [] ∨ ∃ descriptor ∈ state.taken, path <+: descriptor.package := by
  rw [← sound.exists_find?_iff]
  simp [sound.find?_eq_some_iff]

theorem Sound.rising_nodes (sound : state.Sound) :
    state.tree.nodes.Pairwise fun a b => a.1 < b.1 :=
  walk_rising sound.formed []

theorem Sound.nodup_filter_nodes (sound : state.Sound) (test : PackagePath × PackageNode → Bool) :
    ((state.tree.nodes.filter test).map (·.1)).Nodup := by
  apply List.pairwise_map.2
  apply (sound.rising_nodes.filter test).imp
  intro a b before
  exact ne_of_lt before

theorem Sound.mem_occupied_iff (sound : state.Sound) (path : PackagePath) :
    path ∈ state.tree.occupied.map (·.1) ↔
      ∃ descriptor ∈ state.taken, descriptor.package = path := by
  rw [List.mem_map]
  constructor
  · intro found
    obtain ⟨⟨place, node⟩, isOccupied, rfl⟩ := found
    obtain ⟨isNode, some⟩ := List.mem_filter.1 isOccupied
    obtain ⟨descriptor, inside⟩ := List.exists_mem_of_ne_nil node.classes (by simpa using some)
    exact ⟨descriptor, (sound.mem_classes_iff isNode descriptor).1 inside⟩
  · intro found
    obtain ⟨descriptor, isTaken, place⟩ := found
    have held := (sound.held path descriptor).2 ⟨isTaken, place⟩
    obtain ⟨node, present⟩ := find?_isSome_of_mem_classes_at held
    rw [classesAt, present] at held
    refine ⟨(path, node), List.mem_filter.2 ⟨sound.find?_eq_some_iff.1 present, ?_⟩, rfl⟩
    simpa using List.ne_nil_of_mem held

theorem Sound.occupied_perm (sound : state.Sound) :
    (state.tree.occupied.map (·.1)).Perm (packagePaths state.taken) := by
  have once : (state.tree.occupied.map (·.1)).Nodup := sound.nodup_filter_nodes _
  apply (List.perm_ext_iff_of_nodup once (nodup_package_paths state.taken)).2
  intro path
  rw [sound.mem_occupied_iff, mem_package_paths]

theorem Sound.package_count_eq (sound : state.Sound) :
    state.tree.packageCount = (packagePaths state.taken).length := by
  rw [← sound.occupied_perm.length_eq, List.length_map]
  rfl

theorem Sound.mem_packages_iff (sound : state.Sound) (name : String) :
    name ∈ state.tree.packages ↔
      ∃ descriptor ∈ state.taken, descriptor.package.dotted = name := by
  have paths : state.tree.occupied.map (fun entry => PackagePath.dotted entry.1) =
      (state.tree.occupied.map (·.1)).map PackagePath.dotted := by
    rw [List.map_map]
    rfl
  rw [packages, sortTexts, mem_sort_by, paths, List.mem_map]
  simp [sound.mem_occupied_iff]

/-- Whether a package holds classes is asked by its name alone, also where the name is that of
no valid path. -/
theorem Sound.holds_iff (sound : state.Sound) (name : String) :
    state.tree.holds name = true ↔ name ∈ state.tree.packages := by
  have asked : state.tree.holds name = true ↔
      PackagePath.ofDotted name ∈ state.tree.occupied.map (·.1) := by
    simp only [holds, occupied, List.mem_map, List.mem_filter, Prod.exists, exists_and_right,
      exists_eq_right, ← sound.find?_eq_some_iff]
    cases state.tree.find? (PackagePath.ofDotted name) with
    | none => simp
    | some node => simp
  rw [asked, sound.mem_occupied_iff, sound.mem_packages_iff]
  constructor
  · intro found
    obtain ⟨descriptor, isTaken, place⟩ := found
    exact ⟨descriptor, isTaken,
      (PackagePath.dotted_eq_iff (sound.valid descriptor isTaken) name).2 place⟩
  · intro found
    obtain ⟨descriptor, isTaken, named⟩ := found
    exact ⟨descriptor, isTaken,
      (PackagePath.dotted_eq_iff (sound.valid descriptor isTaken) name).1 named⟩

theorem Sound.rising_packages (sound : state.Sound) : state.tree.packages.Pairwise (· < ·) := by
  have once : (state.tree.occupied.map fun entry => PackagePath.dotted entry.1).Nodup := by
    apply List.pairwise_map.2
    apply (sound.rising_nodes.filter _).imp_of_mem
    intro a b isOccupied alsoOccupied before same
    have valid : ∀ entry ∈ state.tree.occupied, PackagePath.ofDotted entry.1.dotted = entry.1 := by
      intro entry member
      exact PackagePath.of_dotted_dotted (sound.valid_path (List.mem_of_mem_filter member))
    rw [← valid a isOccupied, same, valid b alsoOccupied] at before
    exact lt_irrefl _ before
  have sorted : state.tree.packages.Nodup := (sort_texts_perm _).nodup_iff.2 once
  apply ((pairwise_sort_texts _).and sorted).imp
  intro a b ordered
  exact lt_of_le_of_ne (of_decide_eq_true ordered.1) ordered.2

theorem length_packages_eq (tree : PackageTree) : tree.packages.length = tree.packageCount := by
  rw [packages, (sort_texts_perm _).length_eq, List.length_map]
  rfl

theorem Sound.is_leaf_iff (sound : state.Sound) (isNode : (path, node) ∈ state.tree.nodes)
    (below : path ≠ []) :
    node.isLeaf = true ↔
      path ∈ packagePaths state.taken ∧
        ∀ other ∈ packagePaths state.taken, path <+: other → other = path := by
  have formed := well_formed_of_find? sound.formed (sound.find?_of_mem_nodes isNode)
  constructor
  · intro leaf
    have childless : node.children = [] := List.isEmpty_iff.1 leaf
    -- no class stands at a path below one without sub-packages
    have stops : ∀ rest, ∀ descriptor ∈ classesAt rest node, rest = [] := by
      intro rest descriptor held
      cases rest with
      | nil => rfl
      | cons segment rest => simp [classes_at_cons, childless] at held
    constructor
    · obtain ⟨rest, descriptor, held, isTaken, place⟩ := sound.exists_class_below isNode below
      rw [stops rest descriptor held, List.append_nil] at place
      exact mem_package_paths.2 ⟨descriptor, isTaken, place⟩
    · intro other isPath starts
      obtain ⟨rest, rfl⟩ := starts
      obtain ⟨descriptor, isTaken, place⟩ := mem_package_paths.1 isPath
      have held := (sound.held _ descriptor).2 ⟨isTaken, place⟩
      rw [classes_at_append path rest (sound.find?_of_mem_nodes isNode)] at held
      rw [stops rest descriptor held, List.append_nil]
  · intro lowest
    apply List.isEmpty_iff.2
    apply List.eq_nil_iff_forall_not_mem.2
    intro child isChild
    obtain ⟨rest, descriptor, held⟩ :=
      exists_class_of_pos (formed.within child isChild) (formed.inhabited child isChild)
    rw [← classes_at_child formed isChild,
      ← classes_at_append path _ (sound.find?_of_mem_nodes isNode)] at held
    have isPath := mem_package_paths.2 ⟨descriptor, (sound.held _ descriptor).1 held⟩
    have same := lowest.2 _ isPath (List.prefix_append path _)
    simp at same

theorem Sound.mem_leaves_iff (sound : state.Sound) (path : PackagePath) :
    path ∈ (state.tree.nodes.filter fun entry => !entry.1.isEmpty && entry.2.isLeaf).map (·.1) ↔
      path ∈ lowestPaths (packagePaths state.taken) := by
  simp only [lowestPaths, List.mem_filter, List.mem_map, Prod.exists, exists_and_right,
    exists_eq_right, Bool.and_eq_true, decide_eq_true_eq]
  constructor
  · intro found
    obtain ⟨node, isNode, some, leaf⟩ := found
    have below : path ≠ [] := by simpa using some
    obtain ⟨isPath, lowest⟩ := (sound.is_leaf_iff isNode below).1 leaf
    exact ⟨isPath, below, lowest⟩
  · intro found
    obtain ⟨isPath, below, lowest⟩ := found
    obtain ⟨descriptor, isTaken, place⟩ := mem_package_paths.1 isPath
    obtain ⟨node, present⟩ := (sound.exists_find?_iff path).2
      (.inr ⟨descriptor, isTaken, place ▸ List.prefix_rfl⟩)
    have isNode := sound.find?_eq_some_iff.1 present
    exact ⟨node, isNode, by simpa using below, (sound.is_leaf_iff isNode below).2 ⟨isPath, lowest⟩⟩

theorem Sound.leaf_count_eq (sound : state.Sound) :
    state.tree.leafCount = (lowestPaths (packagePaths state.taken)).length := by
  have same : ((state.tree.nodes.filter fun entry => !entry.1.isEmpty && entry.2.isLeaf).map
      (·.1)).Perm (lowestPaths (packagePaths state.taken)) := by
    apply (List.perm_ext_iff_of_nodup (sound.nodup_filter_nodes _)
      ((nodup_package_paths state.taken).filter _)).2
    exact sound.mem_leaves_iff
  rw [← same.length_eq, List.length_map]
  rfl

theorem Sound.mem_tree_classes_iff (sound : state.Sound) (descriptor : ClassDescriptor) :
    descriptor ∈ state.tree.classes ↔ descriptor ∈ state.taken := by
  rw [PackageTree.mem_classes_iff sound.formed]
  simp [sound.held]

theorem Sound.answers (sound : state.Sound) : state.tree.Answers state.taken where
  unstacked := PackageNode.unstack_root [] state.tree.root
  listed := sound.mem_tree_classes_iff
  rising := List.pairwise_map.2 sound.rising_nodes
  walked := sound.mem_nodes_paths_iff
  found _ _ := sound.find?_eq_some_iff
  names := sound.mem_packages_iff
  holds := sound.holds_iff
  namesRising := sound.rising_packages
  length_packages := length_packages_eq state.tree
  packageCount := sound.package_count_eq
  leafCount := sound.leaf_count_eq

end Sound

/-- After every run of calls that add classes the tree answers for the classes it took, which
are those of the calls with a valid path. -/
theorem answers_after_calls (calls : List ClassDescriptor) :
    (after calls).tree.Answers
      (calls.filter fun descriptor => descriptor.package.fault? = none) := by
  rw [← taken_after]
  exact (sound_after calls).answers

end Growth

end PackageTree

end LibraryDetection

import LibraryDetection.Proofs.Fingerprint.Profile
import LibraryDetection.Proofs.HashTree.Flat
import LibraryDetection.Proofs.HashTree.Splitting

/-!
# What profiling comes to

Whether a library is refused as malformed, found empty or profiled can be read off the list
of its classes, and so can the number of classes that its fingerprint counts.  The trees in
between cut the list into packages and the packages into roots, but no class that counts is
lost or met twice on the way.
-/

namespace LibraryDetection

set_option autoImplicit false

theorem length_eq_card_toFinset {α : Type} [DecidableEq α] {items others : List α}
    (once : items.Nodup) (same : ∀ item, item ∈ items ↔ item ∈ others) :
    items.length = others.toFinset.card := by
  rw [← List.toFinset_card_of_nodup once]
  congr 1
  apply List.toFinset.ext
  exact same

variable (options : HashOptions)

/-- The classes of a list that leave their content hash in a hash tree. -/
def HashOptions.surviving (classes : List ClassDescriptor) : List ClassDescriptor :=
  classes.filter fun descriptor => options.Counts descriptor

theorem HashOptions.mem_surviving {classes : List ClassDescriptor} {descriptor : ClassDescriptor} :
    descriptor ∈ options.surviving classes ↔
      descriptor ∈ classes ∧ options.Counts descriptor := by
  simp [surviving]

/-- The number of the classes that survive, each counted once; without duplicates, classes of
one package with the same content are one. -/
def HashOptions.distinctCount (classes : List ClassDescriptor) : Nat :=
  if options.filterDuplicates then
    ((options.surviving classes).map fun descriptor =>
      (descriptor.package, descriptor.contentHash)).toFinset.card
  else (options.surviving classes).toFinset.card

namespace PackageTree

open PackageNode

variable {classes : List ClassDescriptor} {tree : PackageTree} {package : PackageNode}
  {path : PackagePath}

theorem mem_includes_iff (made : ofClasses classes = .ok tree)
    (visited : (path, package) ∈ tree.nodes) (descriptor : ClassDescriptor) :
    descriptor ∈ package.classes.filter options.includes ↔
      descriptor ∈ options.surviving classes ∧ descriptor.package = path := by
  obtain ⟨rest, same, present⟩ :=
    (mem_walk_iff (well_formed_of_of_classes made) [] path).1 visited
  rw [List.nil_append] at same
  subst same
  rw [List.mem_filter, mem_classes_of_find? made present, options.mem_surviving]
  constructor
  · intro held
    obtain ⟨⟨isClass, kept, here⟩, included⟩ := held
    exact ⟨⟨isClass, (options.includes_iff kept).1 included⟩, here⟩
  · intro held
    obtain ⟨⟨isClass, counts⟩, here⟩ := held
    exact ⟨⟨isClass, counts.1, here⟩, (options.includes_iff counts.1).2 counts⟩

theorem exists_visited_of_surviving (made : ofClasses classes = .ok tree)
    {descriptor : ClassDescriptor} (survives : descriptor ∈ options.surviving classes) :
    ∃ package, (descriptor.package, package) ∈ tree.nodes ∧
      descriptor ∈ package.classes.filter options.includes := by
  obtain ⟨isClass, counts⟩ := options.mem_surviving.1 survives
  have held := (mem_classes_at_of_classes made descriptor.package descriptor).2
    ⟨isClass, counts.1, rfl⟩
  obtain ⟨package, present⟩ := find?_isSome_of_mem_classes_at held
  have visited : (descriptor.package, package) ∈ tree.nodes :=
    (mem_walk_iff (well_formed_of_of_classes made) [] descriptor.package).2
      ⟨descriptor.package, rfl, present⟩
  exact ⟨package, visited, (mem_includes_iff options made visited descriptor).2 ⟨survives, rfl⟩⟩

theorem length_class_hashes_of_repeated (repeated : options.filterDuplicates = false)
    (members : List ClassDescriptor) :
    (options.classHashes members).length = (members.filter options.includes).length := by
  simp [HashOptions.classHashes, repeated, sortTexts, length_sort_by]

theorem mem_class_hashes_iff (members : List ClassDescriptor) (hash : String) :
    hash ∈ options.classHashes members ↔
      ∃ descriptor ∈ members.filter options.includes, descriptor.contentHash = hash := by
  rw [HashOptions.classHashes, ← List.mem_map]
  split
  · exact mem_text_set
  · exact mem_sort_by

theorem length_hashes_of_repeated (repeated : options.filterDuplicates = false)
    (made : ofClasses classes = .ok tree) :
    (tree.nodes.flatMap fun entry => options.classHashes entry.2.classes).length =
      (options.surviving classes).toFinset.card := by
  have kept : (tree.nodes.flatMap fun entry => options.classHashes entry.2.classes).length =
      ((tree.nodes.flatMap (·.2.classes)).filter options.includes).length := by
    rw [List.filter_flatMap, List.length_flatMap, List.length_flatMap]
    simp only [length_class_hashes_of_repeated options repeated]
  have placed : ∀ path, ∀ descriptor ∈ classesAt path tree.root, descriptor.package = path := by
    intro path descriptor held
    exact ((mem_classes_at_of_classes made path descriptor).1 held).2.2
  rw [kept]
  apply length_eq_card_toFinset
  · exact (nodup_walk (well_formed_of_of_classes made) placed).filter _
  · intro descriptor
    rw [List.filter_flatMap, List.mem_flatMap]
    constructor
    · intro met
      obtain ⟨⟨path, package⟩, visited, held⟩ := met
      exact ((mem_includes_iff options made visited descriptor).1 held).1
    · intro survives
      obtain ⟨package, visited, held⟩ := exists_visited_of_surviving options made survives
      exact ⟨(descriptor.package, package), visited, held⟩

def placedHashes (tree : PackageTree) : List (PackagePath × String) :=
  tree.nodes.flatMap fun entry => (options.classHashes entry.2.classes).map (entry.1, ·)

theorem mem_placed_hashes_iff (made : ofClasses classes = .ok tree)
    (placed : PackagePath × String) :
    placed ∈ tree.placedHashes options ↔
      placed ∈ (options.surviving classes).map fun descriptor =>
        (descriptor.package, descriptor.contentHash) := by
  rw [placedHashes, List.mem_flatMap, List.mem_map]
  constructor
  · intro met
    obtain ⟨⟨path, package⟩, visited, inPackage⟩ := met
    obtain ⟨hash, isHash, rfl⟩ := List.mem_map.1 inPackage
    obtain ⟨descriptor, held, rfl⟩ := (mem_class_hashes_iff options package.classes hash).1 isHash
    obtain ⟨survives, rfl⟩ := (mem_includes_iff options made visited descriptor).1 held
    exact ⟨descriptor, survives, rfl⟩
  · intro left
    obtain ⟨descriptor, survives, rfl⟩ := left
    obtain ⟨package, visited, held⟩ := exists_visited_of_surviving options made survives
    refine ⟨(descriptor.package, package), visited, List.mem_map_of_mem ?_⟩
    exact (mem_class_hashes_iff options package.classes _).2 ⟨descriptor, held, rfl⟩

theorem nodup_placed_hashes (once : options.filterDuplicates = true)
    (wellFormed : tree.root.WellFormed) : (tree.placedHashes options).Nodup := by
  rw [placedHashes, List.nodup_flatMap]
  constructor
  · intro entry _
    have distinct : (options.classHashes entry.2.classes).Nodup := by
      simpa [HashOptions.classHashes, once] using nodup_text_set _
    exact distinct.map (Prod.mk_right_injective entry.1)
  · apply (walk_rising wellFormed []).imp
    intro one other before placed inOne inOther
    obtain ⟨_, _, rfl⟩ := List.mem_map.1 inOne
    obtain ⟨_, _, same⟩ := List.mem_map.1 inOther
    exact ne_of_lt before (congrArg Prod.fst same).symm

theorem length_hashes_of_once (once : options.filterDuplicates = true)
    (made : ofClasses classes = .ok tree) :
    (tree.nodes.flatMap fun entry => options.classHashes entry.2.classes).length =
      ((options.surviving classes).map fun descriptor =>
        (descriptor.package, descriptor.contentHash)).toFinset.card := by
  have placed : (tree.nodes.flatMap fun entry => options.classHashes entry.2.classes).length =
      (tree.placedHashes options).length := by
    simp [placedHashes, List.length_flatMap]
  rw [placed]
  apply length_eq_card_toFinset
  · exact nodup_placed_hashes options once (well_formed_of_of_classes made)
  · exact mem_placed_hashes_iff options made

theorem class_count_whole_hash_tree (made : ofClasses classes = .ok tree) :
    (tree.wholeHashTree options).classCount = options.distinctCount classes := by
  have hashes : (tree.wholeHashTree options).classHashBag =
      tree.nodes.flatMap fun entry => options.classHashes entry.2.classes :=
    HashNode.flatMap_class_hashes_of_package options tree.root []
  rw [(HashTree.built_whole_hash_tree tree options).class_count_eq_length, hashes,
    HashOptions.distinctCount]
  split
  case isTrue once => rw [length_hashes_of_once options once made]
  case isFalse repeated =>
    rw [length_hashes_of_repeated options (Bool.eq_false_iff.2 repeated) made]

theorem total_eq_distinct_count (made : ofClasses classes = .ok tree) :
    total HashTree.classCount (tree.hashTrees options) = options.distinctCount classes := by
  rw [total_class_count_hash_trees options (well_formed_of_of_classes made),
    class_count_whole_hash_tree options made]

end PackageTree

theorem HashOptions.distinct_count_pos_iff {classes : List ClassDescriptor} :
    0 < options.distinctCount classes ↔ ∃ descriptor ∈ classes, options.Counts descriptor := by
  have some : ∀ {α : Type} [DecidableEq α] (items : List α),
      0 < items.toFinset.card ↔ items ≠ [] := by
    intro α _ items
    rw [Finset.card_pos, List.toFinset_nonempty_iff]
  have survivors : options.surviving classes ≠ [] ↔
      ∃ descriptor ∈ classes, options.Counts descriptor := by
    simp [surviving, List.filter_eq_nil_iff]
  rw [distinctCount]
  split
  · rw [some, Ne, List.map_eq_nil_iff]
    exact survivors
  · rw [some]
    exact survivors

theorem HashOptions.distinct_count_le (classes : List ClassDescriptor) :
    options.distinctCount classes ≤ classes.length := by
  have kept : (options.surviving classes).length ≤ classes.length := List.length_filter_le _ _
  rw [distinctCount]
  split
  · apply (List.toFinset_card_le _).trans
    rw [List.length_map]
    exact kept
  · exact (List.toFinset_card_le _).trans kept

theorem Fingerprint.ProfiledFrom.class_count_le {fingerprint : Fingerprint}
    {classes : List ClassDescriptor} (profiled : fingerprint.ProfiledFrom classes options) :
    fingerprint.classCount ≤ classes.length := by
  have count := PackageTree.total_eq_distinct_count options profiled.of_classes_eq
  have atMost := options.distinct_count_le classes
  rw [Fingerprint.classCount, profiled.hash_trees_eq]
  omega

theorem hash_trees_ne_nil_iff {classes : List ClassDescriptor} {tree : PackageTree}
    (made : PackageTree.ofClasses classes = .ok tree) :
    tree.hashTrees options ≠ [] ↔ ∃ descriptor ∈ classes, options.Counts descriptor := by
  have counted : ∀ hashed ∈ tree.hashTrees options, 0 < hashed.classCount := by
    intro hashed member
    exact (mem_hash_trees_iff.1 member).2
  rw [← total_pos_iff counted, PackageTree.total_eq_distinct_count options made,
    ← options.distinct_count_pos_iff]
  exact Int.natCast_pos

variable (classes : List ClassDescriptor) (description : LibraryDescription)

def AllValid (classes : List ClassDescriptor) : Prop :=
  ∀ descriptor ∈ classes, descriptor.kind ≠ .synthetic → descriptor.package.Valid

/-- What a library of some classes is profiled as, told without the trees made on the way. -/
structure ProfiledAs (profile : Profile) : Prop where
  malformed_iff : (∃ malformed, profile.result = .error (.malformedPath malformed)) ↔
    ∃ descriptor ∈ classes, descriptor.kind ≠ .synthetic ∧ ¬ descriptor.package.Valid
  empty_iff : profile.result = .error (.empty description.label) ↔
    AllValid classes ∧ ∀ descriptor ∈ classes, ¬ options.Counts descriptor
  profiled_iff : (∃ fingerprint, profile.result = .ok fingerprint) ↔
    AllValid classes ∧ ∃ descriptor ∈ classes, options.Counts descriptor
  counted : ∀ fingerprint, profile.result = .ok fingerprint →
    0 < fingerprint.classCount ∧ fingerprint.classCount = options.distinctCount classes
  options_eq : ∀ fingerprint, profile.result = .ok fingerprint →
    ∀ hashed ∈ fingerprint.hashTrees, hashed.options = options
  warned_iff : profile.warnings ≠ [] ↔
    AllValid classes ∧ [] ∉ occupiedPaths classes ∧
      ∃ one ∈ occupiedPaths classes, ∃ other ∈ occupiedPaths classes, one.head? ≠ other.head?

variable {classes}

theorem not_all_valid_iff : ¬ AllValid classes ↔
    ∃ descriptor ∈ classes, descriptor.kind ≠ .synthetic ∧ ¬ descriptor.package.Valid := by
  simp [AllValid]

theorem root_warnings_ne_nil_iff (tree : PackageTree) :
    rootWarnings description tree ≠ [] ↔ tree.hasMultipleRoots = true := by
  rw [rootWarnings]
  split <;> simp [*]

theorem profiled_as_of_error {malformed : MalformedPath}
    (refused : PackageTree.ofClasses classes = .error malformed) :
    ProfiledAs options classes description (profileLibrary classes description options) := by
  have invalid : ¬ AllValid classes := by
    intro valid
    obtain ⟨tree, made⟩ := PackageTree.of_classes_is_ok_iff.2 valid
    simp [refused] at made
  have profile : profileLibrary classes description options =
      ⟨[], .error (.malformedPath malformed)⟩ := by
    rw [profileLibrary, refused]
  rw [profile]
  constructor
  · simp [← not_all_valid_iff, invalid]
  · simp [invalid]
  · simp [invalid]
  · simp
  · simp
  · simp [invalid]

theorem profiled_as_of_ok {tree : PackageTree} (made : PackageTree.ofClasses classes = .ok tree) :
    ProfiledAs options classes description (profileLibrary classes description options) := by
  have valid : AllValid classes := PackageTree.of_classes_is_ok_iff.1 ⟨tree, made⟩
  have noneInvalid : ¬ ∃ descriptor ∈ classes,
      descriptor.kind ≠ .synthetic ∧ ¬ descriptor.package.Valid := by
    rw [← not_all_valid_iff]
    exact not_not.2 valid
  have left := hash_trees_ne_nil_iff options made
  have warned := root_warnings_ne_nil_iff description tree
  rw [PackageTree.has_multiple_roots_iff made] at warned
  by_cases empty : tree.hashTrees options = []
  · have unhashed : ¬ ∃ descriptor ∈ classes, options.Counts descriptor := by
      rw [← left]
      exact not_not.2 empty
    have profile : profileLibrary classes description options =
        ⟨rootWarnings description tree, .error (.empty description.label)⟩ := by
      simp [profileLibrary, made, empty]
    rw [profile]
    constructor
    · simp [noneInvalid]
    · simpa [valid] using unhashed
    · simp [unhashed]
    · simp
    · simp
    · simpa [valid] using warned
  · have hashes := left.1 empty
    have profile : profileLibrary classes description options =
        ⟨rootWarnings description tree, .ok ⟨description, tree, tree.hashTrees options⟩⟩ := by
      simp [profileLibrary, made, empty]
    have profiled : Fingerprint.ProfiledFrom ⟨description, tree, tree.hashTrees options⟩ classes
        options := by
      refine ⟨description, ?_⟩
      rw [profile]
    have counted := PackageTree.total_eq_distinct_count options made
    rw [profile]
    constructor
    · simp [noneInvalid]
    · simpa [valid] using hashes
    · simp [valid, hashes]
    · simpa [Fingerprint.classCount, counted] using profiled.class_count_pos
    · intro fingerprint result hashed member
      rw [← Except.ok.inj result] at member
      obtain ⟨path, package, _, rfl⟩ := profiled.made member
      rfl
    · simpa [valid] using warned

/-- Every outcome of profiling is decided by the classes alone.  Whether a path is malformed,
whether a class is left to hash and whether a warning is given can be told without the trees
made on the way. -/
theorem profiled_as_of_classes (classes : List ClassDescriptor) (description : LibraryDescription)
    (options : HashOptions) :
    ProfiledAs options classes description (profileLibrary classes description options) := by
  cases made : PackageTree.ofClasses classes with
  | error malformed => exact profiled_as_of_error options description made
  | ok tree => exact profiled_as_of_ok options description made

example : (HashOptions.distinctCount ⟨true, false⟩ PackageTree.companyClasses,
    HashOptions.distinctCount ⟨false, true⟩ PackageTree.companyClasses) = (2, 3) := rfl

end LibraryDetection

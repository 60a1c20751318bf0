import LibraryDetection.Proofs.HashTree.Growth
import LibraryDetection.Proofs.HashTree.Walk
import LibraryDetection.Proofs.Package.Roots

/-!
# Hash trees as flat lists

What the nodes of a hash tree hold can be read off the list of classes, without the package
tree between them: which paths are met, what stands at each of them, and what is counted
below it.
-/

namespace LibraryDetection

set_option autoImplicit false

open LibraryDetection.Text

/-- The class leaves its content hash in a hash tree: it is not synthetic, and is neither inner
nor anonymous where such classes are left out. -/
def HashOptions.Counts (options : HashOptions) (descriptor : ClassDescriptor) : Prop :=
  descriptor.kind ≠ .synthetic ∧
    (options.filterInnerClasses = true → descriptor.kind ≠ .inner ∧ descriptor.kind ≠ .anonymous)

instance (options : HashOptions) : DecidablePred options.Counts :=
  fun _ => inferInstanceAs (Decidable (_ ∧ _))

def HashOptions.packageHashes (options : HashOptions) (classes : List ClassDescriptor)
    (path : PackagePath) : List String :=
  ((distinct classes).filter fun descriptor =>
    options.Counts descriptor ∧ descriptor.package = path).map (·.contentHash)

theorem HashOptions.includes_iff (options : HashOptions) {descriptor : ClassDescriptor}
    (kept : descriptor.kind ≠ .synthetic) :
    options.includes descriptor = true ↔ options.Counts descriptor := by
  simp only [includes, Counts]
  cases options.filterInnerClasses <;> simp [kept]

theorem HashOptions.pairwise_class_hashes (options : HashOptions) (classes : List ClassDescriptor) :
    (options.classHashes classes).Pairwise (· ≤ ·) := by
  unfold classHashes
  split
  · exact (pairwise_sort_texts _).imp of_decide_eq_true
  · exact (pairwise_sort_texts _).imp of_decide_eq_true

/-- A hash tree told from the flat list of the classes: which paths have a node, which hashes
stand there, and how digests, counts and children follow from them. -/
structure HashTree.Flat (hashed : HashTree) (options : HashOptions)
    (classes : List ClassDescriptor) : Prop where
  /-- The nodes are met with a stack, in rising order of their paths. -/
  unstacked : HashNode.unstack [(hashed.rootPath, hashed.root)] = hashed.nodes
  rising : (hashed.nodes.map (·.1)).Pairwise (· < ·)
  mem_paths_iff : ∀ path, path ∈ hashed.nodes.map (·.1) ↔
    path = hashed.rootPath ∨ hashed.rootPath <+: path ∧
      ∃ descriptor ∈ classes, options.Counts descriptor ∧ path <+: descriptor.package
  sorted : ∀ entry ∈ hashed.nodes, entry.2.classHashes.Pairwise (· ≤ ·)
  repeated : options.filterDuplicates = false → ∀ entry ∈ hashed.nodes,
    entry.2.classHashes.Perm (options.packageHashes classes entry.1)
  once : options.filterDuplicates = true → ∀ entry ∈ hashed.nodes,
    entry.2.classHashes.Nodup ∧
      ∀ hash, hash ∈ entry.2.classHashes ↔ hash ∈ options.packageHashes classes entry.1
  classCount : ∀ entry ∈ hashed.nodes, entry.2.classCount =
    ((hashed.nodes.filter fun inner => entry.1 <+: inner.1).map
      fun inner => inner.2.classHashes.length).sum
  nodeHash : ∀ entry ∈ hashed.nodes, entry.2.nodeHash = Digest.nodeHash entry.2.classHashes
  children : ∀ entry ∈ hashed.nodes, HashNode.childEntries entry =
    hashed.nodes.filter fun inner =>
      entry.1 <+: inner.1 ∧ inner.1.length = entry.1.length + 1
  subtreeHash : ∀ entry ∈ hashed.nodes, entry.2.subtreeHash =
    Digest.subtreeHash entry.2.nodeHash (entry.2.children.map (·.subtreeHash))

namespace HashNode

variable (options : HashOptions)

theorem mem_walk_of_package_iff {package : PackageNode} {path : PackagePath}
    {entry : PackagePath × HashNode} :
    entry ∈ (ofPackage options package).walk path ↔
      entry = (path, ofPackage options package) ∨
        ∃ origin ∈ package.walk path, countedEntry options origin = true ∧
          hashedEntry options origin = entry := by
  rw [walk_of_package, PackageNode.walk_eq, List.mem_cons, List.mem_map]
  simp only [List.mem_filter, List.mem_cons]
  constructor
  · intro member
    cases member with
    | inl here => exact .inl here
    | inr below =>
        obtain ⟨origin, ⟨inWalk, counted⟩, same⟩ := below
        exact .inr ⟨origin, .inr inWalk, counted, same⟩
  · intro member
    cases member with
    | inl here => exact .inl here
    | inr below =>
        obtain ⟨origin, inWalk, counted, same⟩ := below
        cases inWalk with
        | inl atRoot =>
            rw [← same, atRoot]
            exact .inl rfl
        | inr deeper => exact .inr ⟨origin, ⟨deeper, counted⟩, same⟩

theorem exists_package_of_mem {package : PackageNode} {path : PackagePath}
    {entry : PackagePath × HashNode} (member : entry ∈ (ofPackage options package).walk path) :
    ∃ inner, (entry.1, inner) ∈ package.walk path ∧ entry.2 = ofPackage options inner := by
  cases (mem_walk_of_package_iff options).1 member with
  | inl here =>
      rw [here, PackageNode.walk_eq]
      exact ⟨package, List.mem_cons_self, rfl⟩
  | inr below =>
      obtain ⟨origin, inWalk, _, rfl⟩ := below
      exact ⟨origin.2, inWalk, rfl⟩

theorem rising_of_package {package : PackageNode} (wellFormed : package.WellFormed)
    (path : PackagePath) :
    (((ofPackage options package).walk path).map (·.1)).Pairwise (· < ·) := by
  have rises := List.pairwise_map.2 (PackageNode.walk_rising wellFormed path)
  rw [PackageNode.walk_eq, List.map_cons] at rises
  rw [walk_of_package, List.map_cons, List.map_map]
  exact List.Pairwise.sublist ((List.filter_sublist.map Prod.fst).cons_cons path) rises

theorem class_count_pos_iff (package : PackageNode) (path : PackagePath) :
    0 < (ofPackage options package).classCount ↔
      ∃ entry ∈ package.walk path, ∃ descriptor ∈ entry.2.classes,
        options.includes descriptor = true := by
  rw [(hashed_of_package options package).class_count_eq_length path,
    flatMap_class_hashes_of_package, Int.natCast_pos, List.length_pos_iff_exists_mem]
  have hashes : ∀ classes hash, hash ∈ options.classHashes classes ↔
      ∃ descriptor ∈ classes, options.includes descriptor = true ∧
        descriptor.contentHash = hash := by
    intro classes hash
    unfold HashOptions.classHashes
    split <;> simp [mem_text_set, sortTexts, mem_sort_by, and_assoc]
  simp only [List.mem_flatMap, hashes]
  constructor
  · intro counted
    obtain ⟨hash, entry, inWalk, descriptor, held, counts, _⟩ := counted
    exact ⟨entry, inWalk, descriptor, held, counts⟩
  · intro counted
    obtain ⟨entry, inWalk, descriptor, held, counts⟩ := counted
    exact ⟨_, entry, inWalk, descriptor, held, counts, rfl⟩

end HashNode

namespace PackageTree

open PackageNode

variable {classes : List ClassDescriptor} {tree : PackageTree} {root path : PackagePath}
  {package found : PackageNode} (options : HashOptions)

theorem mem_walk_at_iff (wellFormed : tree.root.WellFormed)
    (present : tree.root.find? root = some package) :
    (path, found) ∈ package.walk root ↔ root <+: path ∧ tree.root.find? path = some found := by
  rw [PackageNode.mem_walk_iff (well_formed_of_find? wellFormed present)]
  constructor
  · intro below
    obtain ⟨rest, rfl, atRest⟩ := below
    rw [find?_append, present]
    exact ⟨List.prefix_append root rest, atRest⟩
  · intro below
    obtain ⟨⟨rest, rfl⟩, atPath⟩ := below
    rw [find?_append, present] at atPath
    exact ⟨rest, rfl, atPath⟩

theorem class_count_pos_iff_counts (made : ofClasses classes = .ok tree)
    (present : tree.root.find? path = some found) :
    0 < (HashNode.ofPackage options found).classCount ↔
      ∃ descriptor ∈ classes, options.Counts descriptor ∧ path <+: descriptor.package := by
  have formed := well_formed_of_of_classes made
  rw [HashNode.class_count_pos_iff options found path]
  constructor
  · intro counted
    obtain ⟨⟨place, inner⟩, inWalk, descriptor, held, counts⟩ := counted
    obtain ⟨below, atPlace⟩ := (mem_walk_at_iff formed present).1 inWalk
    obtain ⟨isClass, kept, here⟩ := (mem_classes_of_find? made atPlace descriptor).1 held
    refine ⟨descriptor, isClass, (options.includes_iff kept).1 counts, ?_⟩
    rw [here]
    exact below
  · intro counted
    obtain ⟨descriptor, isClass, counts, below⟩ := counted
    have held := (mem_classes_at_of_classes made descriptor.package descriptor).2
      ⟨isClass, counts.1, rfl⟩
    obtain ⟨inner, atPlace⟩ := find?_isSome_of_mem_classes_at held
    refine ⟨(descriptor.package, inner), (mem_walk_at_iff formed present).2 ⟨below, atPlace⟩,
      descriptor, ?_, (options.includes_iff counts.1).2 counts⟩
    exact (mem_classes_of_find? made atPlace descriptor).2 ⟨isClass, counts.1, rfl⟩

theorem mem_paths_of_package_iff (made : ofClasses classes = .ok tree)
    (present : tree.root.find? root = some package) :
    path ∈ ((HashNode.ofPackage options package).walk root).map (·.1) ↔
      path = root ∨ root <+: path ∧
        ∃ descriptor ∈ classes, options.Counts descriptor ∧ path <+: descriptor.package := by
  have formed := well_formed_of_of_classes made
  constructor
  · intro visited
    obtain ⟨entry, inWalk, rfl⟩ := List.mem_map.1 visited
    cases (HashNode.mem_walk_of_package_iff options).1 inWalk with
    | inl here => exact .inl (congrArg Prod.fst here)
    | inr below =>
        obtain ⟨origin, member, counted, rfl⟩ := below
        obtain ⟨starts, atPath⟩ := (mem_walk_at_iff formed present).1 member
        exact .inr ⟨starts,
          (class_count_pos_iff_counts options made atPath).1 (of_decide_eq_true counted)⟩
  · intro reached
    apply List.mem_map.2
    cases reached with
    | inl here => exact ⟨_, HashNode.mem_walk_self root _, here.symm⟩
    | inr below =>
        obtain ⟨starts, descriptor, isClass, counts, inside⟩ := below
        obtain ⟨found, atPath⟩ := (exists_find?_iff_is_package made path).2
          (.inr ⟨descriptor, isClass, counts.1, inside⟩)
        have member := (mem_walk_at_iff formed present).2 ⟨starts, atPath⟩
        have counted := (class_count_pos_iff_counts options made atPath).2
          ⟨descriptor, isClass, counts, inside⟩
        exact ⟨_, (HashNode.mem_walk_of_package_iff options).2
          (.inr ⟨_, member, decide_eq_true counted, rfl⟩), rfl⟩

theorem content_hashes_perm (made : ofClasses classes = .ok tree)
    (present : tree.root.find? path = some found) :
    ((found.classes.filter options.includes).map (·.contentHash)).Perm
      (options.packageHashes classes path) := by
  have distinctOnes := (well_formed_of_find? (well_formed_of_of_classes made) present).distinct
  apply List.Perm.map
  apply (List.perm_ext_iff_of_nodup (distinctOnes.filter _) ((nodup_distinct classes).filter _)).2
  intro descriptor
  rw [List.mem_filter, List.mem_filter, mem_classes_of_find? made present, mem_distinct,
    decide_eq_true_eq]
  constructor
  · intro held
    obtain ⟨⟨isClass, kept, place⟩, counts⟩ := held
    exact ⟨isClass, (options.includes_iff kept).1 counts, place⟩
  · intro held
    obtain ⟨isClass, counts, place⟩ := held
    exact ⟨⟨isClass, counts.1, place⟩, (options.includes_iff counts.1).2 counts⟩

theorem flat_of_package (made : ofClasses classes = .ok tree)
    (present : tree.root.find? root = some package) :
    (HashTree.mk root (HashNode.ofPackage options package) options).Flat options classes := by
  have formed := well_formed_of_of_classes made
  have packageFormed := well_formed_of_find? formed present
  have distinctChildren := HashNode.distinct_children_of_package options packageFormed
  have hashed := HashNode.hashed_of_package options package
  have own : ∀ entry ∈ (HashNode.ofPackage options package).walk root,
      ∃ found, tree.root.find? entry.1 = some found ∧
        entry.2.classHashes = options.classHashes found.classes := by
    intro entry inWalk
    obtain ⟨found, member, isHashed⟩ := HashNode.exists_package_of_mem options inWalk
    refine ⟨found, ((mem_walk_at_iff formed present).1 member).2, ?_⟩
    rw [isHashed, HashNode.class_hashes_of_package]
  constructor
  case unstacked => exact HashNode.unstack_root _
  case rising => exact HashNode.rising_of_package options packageFormed root
  case mem_paths_iff => exact fun path => mem_paths_of_package_iff options made present
  case sorted =>
    intro entry inWalk
    obtain ⟨found, _, hashes⟩ := own entry inWalk
    rw [hashes]
    exact options.pairwise_class_hashes found.classes
  case repeated =>
    intro keepsAll entry inWalk
    obtain ⟨found, atPath, hashes⟩ := own entry inWalk
    rw [hashes]
    simp only [HashOptions.classHashes, keepsAll]
    exact (sort_texts_perm _).trans (content_hashes_perm options made atPath)
  case once =>
    intro dropsEqual entry inWalk
    obtain ⟨found, atPath, hashes⟩ := own entry inWalk
    rw [hashes]
    simp only [HashOptions.classHashes, dropsEqual]
    refine ⟨nodup_text_set _, fun hash => ?_⟩
    exact mem_text_set.trans (content_hashes_perm options made atPath).mem_iff
  case classCount => exact fun entry inWalk => hashed.class_count_eq_sum distinctChildren inWalk
  case nodeHash => exact fun entry inWalk => (hashed.of_mem_walk inWalk).node_hash_eq
  case children => exact fun entry inWalk => HashNode.child_entries_eq distinctChildren inWalk
  case subtreeHash => exact fun entry inWalk => (hashed.of_mem_walk inWalk).subtree_hash_eq

/-- Every hash tree of a package tree is the flat list of its classes, folded up.  This holds at
every path that has a package, under all options, and also for a walk over the tree that is made
with a stack. -/
theorem hash_tree_at_flat
    (valid : ∀ descriptor ∈ classes, descriptor.kind ≠ .synthetic → descriptor.package.Valid) :
    ∃ tree, ofClasses classes = .ok tree ∧
      ∀ root package, tree.find? root = some package →
        ∃ hashed, tree.hashTreeAt options root = .ok hashed ∧ hashed.rootPath = root ∧
          hashed.Flat options classes := by
  obtain ⟨tree, made⟩ := of_classes_is_ok_iff.2 valid
  refine ⟨tree, made, ?_⟩
  intro root package present
  have found := (HashTree.hash_tree_at_eq_ok_iff tree options root).2 ⟨package, present, rfl⟩
  exact ⟨_, found, rfl, flat_of_package options made present⟩

/-- Below `com.app` one package holds classes that are left out, with another of that kind
below it, and a second one holds such a class above a package that counts. -/
def layeredClasses : List ClassDescriptor :=
  [⟨["com", "app", "ui", "view"], "Pane", ["draw()V"], .interface, "c4"⟩,
    ⟨["com", "app"], "Main", ["run()V"], .topLevel, "7a"⟩,
    ⟨["com", "app", "gen", "deep"], "Row$1", [], .anonymous, "00"⟩,
    ⟨["com", "app"], "Copy", ["run()V"], .topLevel, "7a"⟩,
    ⟨["com", "app", "gen"], "Table$Row", [], .inner, "00"⟩,
    ⟨["com", "app", "ui"], "Window$Bar", [], .inner, "00"⟩,
    ⟨["com", "boot"], "Bridge", [], .synthetic, "00"⟩,
    ⟨["com", "app"], "Main", ["run()V"], .topLevel, "7a"⟩]

theorem hash_tree_at_flat_layered :
    (∀ descriptor ∈ layeredClasses, descriptor.kind ≠ .synthetic → descriptor.package.Valid) ∧
      ∃ tree hashed, ofClasses layeredClasses = .ok tree ∧
        tree.hashTreeAt ⟨true, true⟩ ["com"] = .ok hashed ∧
          hashed.Flat ⟨true, true⟩ layeredClasses := by
  have valid : ∀ descriptor ∈ layeredClasses, descriptor.kind ≠ .synthetic →
      descriptor.package.Valid := of_classes_is_ok_iff.1 ⟨_, rfl⟩
  obtain ⟨tree, made, flat⟩ := hash_tree_at_flat ⟨true, true⟩ valid
  obtain ⟨package, present⟩ := (exists_find?_iff_is_package made ["com"]).2 (.inr (by decide))
  obtain ⟨hashed, found, _, described⟩ := flat ["com"] package present
  exact ⟨valid, tree, hashed, made, found, described⟩

example : ((ofClasses layeredClasses).toOption.bind fun tree =>
      (tree.hashTreeAt ⟨true, true⟩ ["com"]).toOption).map
        (fun hashed => hashed.nodes.map fun entry => (entry.1, entry.2.classCount)) =
    some [(["com"], 2), (["com", "app"], 2), (["com", "app", "ui"], 1),
      (["com", "app", "ui", "view"], 1)] := rfl

end PackageTree

end LibraryDetection

import LibraryDetection.Proofs.Fingerprint.Profile
import LibraryDetection.Proofs.HashTree.Growth
import LibraryDetection.Proofs.HashTree.Walk
import LibraryDetection.Proofs.Package.Roots

/-!
# Hash trees by root

A package tree is hashed once from its super-root, or once from each of its roots.  No
package above or beside a root holds a class, so that both read the same packages with
classes of their own, under the same paths and in the same order.
-/

namespace LibraryDetection

set_option autoImplicit false

variable (options : HashOptions)

def occupiedPackage (entry : PackagePath × PackageNode) : Bool :=
  !(options.classHashes entry.2.classes).isEmpty

def occupiedNode (entry : PackagePath × HashNode) : Bool := !entry.2.classHashes.isEmpty

namespace PackageNode

theorem occupied_package_of_empty {node : PackageNode} (empty : node.classes = [])
    (path : PackagePath) : occupiedPackage options (path, node) = false := by
  simp [occupiedPackage, empty, options.class_hashes_nil]

theorem filter_walk_descent {node found : PackageNode} (path : PackagePath)
    (present : node.find? node.descent = some found) :
    (found.walk (path ++ node.descent)).filter (occupiedPackage options) =
      (node.walk path).filter (occupiedPackage options) := by
  induction node generalizing path with
  | node segment classes children ih =>
      cases descent_cases ⟨segment, classes, children⟩ with
      | inr stops =>
          rw [stops.2] at present ⊢
          rw [find?, Option.some.injEq] at present
          rw [List.append_nil, present]
      | inl goes =>
          obtain ⟨only, empty, single, down⟩ := goes
          change children = [only] at single
          subst single
          have onlyPresent : only.find? only.descent = some found := by
            simpa [down, find?] using present
          have below := ih only List.mem_cons_self (path ++ [only.segment]) onlyPresent
          rw [walk_eq path, List.filter_cons, occupied_package_of_empty options empty, down]
          simpa using below

end PackageNode

namespace PackageTree

open PackageNode

variable {tree : PackageTree}

theorem exists_find?_of_mem_top_level_roots (wellFormed : tree.root.WellFormed)
    {path : PackagePath} (isRoot : path ∈ tree.topLevelRoots) :
    ∃ found, tree.find? path = some found := by
  unfold topLevelRoots at isRoot
  split at isRoot
  · obtain ⟨child, isChild, rfl⟩ := List.mem_map.1 isRoot
    obtain ⟨found, present⟩ := exists_find?_descent child
    refine ⟨found, ?_⟩
    rw [find?, PackageNode.find?, find?_of_mem wellFormed.ordered isChild]
    exact present
  · rw [List.mem_singleton.1 isRoot]
    exact exists_find?_descent tree.root

def occupiedBelow (tree : PackageTree) (path : PackagePath) : List (PackagePath × PackageNode) :=
  match tree.find? path with
  | some found => (found.walk path).filter (occupiedPackage options)
  | none => []

theorem flatMap_occupied_below (wellFormed : tree.root.WellFormed) :
    tree.topLevelRoots.flatMap (tree.occupiedBelow options) =
      tree.nodes.filter (occupiedPackage options) := by
  unfold topLevelRoots
  split
  case isFalse =>
    obtain ⟨found, present⟩ := exists_find?_descent tree.root
    have below := filter_walk_descent options [] present
    rw [List.flatMap_singleton, occupiedBelow, find?, rootPath, present]
    exact below
  case isTrue several =>
    have empty : tree.root.classes = [] := by
      simp [hasMultipleRoots] at several
      exact several.2
    rw [nodes, walk_eq, List.filter_cons, occupied_package_of_empty options empty,
      List.filter_flatMap, List.flatMap_map]
    apply List.flatMap_congr
    intro child isChild
    obtain ⟨found, present⟩ := exists_find?_descent child
    have below := filter_walk_descent options [child.segment] present
    have atRoot : tree.find? (child.segment :: child.descent) = some found := by
      rw [find?, PackageNode.find?, find?_of_mem wellFormed.ordered isChild]
      exact present
    rw [occupiedBelow, atRoot]
    exact below

theorem filter_nodes_of_uncounted {hashed : HashTree} (built : hashed.Built)
    (uncounted : ¬ 0 < hashed.classCount) : hashed.nodes.filter occupiedNode = [] := by
  have size := built.hashed_root.class_count_eq_length hashed.rootPath
  have empty : (hashed.nodes.flatMap fun entry => entry.2.classHashes) = [] := by
    apply List.eq_nil_of_length_eq_zero
    rw [HashTree.classCount] at uncounted
    unfold HashTree.nodes
    omega
  rw [List.filter_eq_nil_iff]
  intro entry member
  have none := List.flatMap_eq_nil_iff.1 empty entry member
  simp [occupiedNode, none]

theorem flatMap_occupied_roots (roots : List PackagePath) :
    ((roots.filterMap fun path => (tree.hashTreeAt options path).toOption).filter fun hashed =>
        0 < hashed.classCount).flatMap (fun hashed => hashed.nodes.filter occupiedNode) =
      (roots.flatMap (tree.occupiedBelow options)).map (HashNode.hashedEntry options) := by
  induction roots with
  | nil => rfl
  | cons path roots ih =>
      rw [List.filterMap_cons, List.flatMap_cons, List.map_append, ← ih]
      cases present : tree.find? path with
      | none => simp [hashTreeAt, occupiedBelow, present, Except.toOption]
      | some found =>
          have made : tree.hashTreeAt options path =
              .ok ⟨path, HashNode.ofPackage options found, options⟩ := by
            simp [hashTreeAt, present]
          have own : (HashTree.mk path (HashNode.ofPackage options found) options).nodes.filter
                occupiedNode =
              (tree.occupiedBelow options path).map (HashNode.hashedEntry options) := by
            rw [occupiedBelow, present]
            exact HashNode.filter_occupied_walk options found path
          rw [made, ← own]
          simp only [Except.toOption, List.filter_cons, decide_eq_true_eq]
          split
          case isTrue counted => rw [List.flatMap_cons]
          case isFalse uncounted =>
            rw [filter_nodes_of_uncounted ⟨tree, options, path, made⟩ uncounted, List.nil_append]

theorem flatMap_occupied_hash_trees (wellFormed : tree.root.WellFormed) :
    ((tree.hashTrees options).flatMap fun hashed => hashed.nodes.filter occupiedNode) =
      (tree.wholeHashTree options).nodes.filter occupiedNode := by
  have whole : (tree.wholeHashTree options).nodes.filter occupiedNode =
      (tree.nodes.filter (occupiedPackage options)).map (HashNode.hashedEntry options) :=
    HashNode.filter_occupied_walk options tree.root []
  rw [whole, ← flatMap_occupied_below options wellFormed]
  exact flatMap_occupied_roots options tree.topLevelRoots

theorem hash_trees_root_path_sublist :
    ((tree.hashTrees options).map (·.rootPath)).Sublist tree.topLevelRoots := by
  unfold hashTrees
  generalize tree.topLevelRoots = roots
  induction roots with
  | nil => simp
  | cons path roots ih =>
      rw [List.filterMap_cons]
      cases made : tree.hashTreeAt options path with
      | error absent => exact ih.cons path
      | ok hashed =>
          obtain ⟨found, _, rfl⟩ := (HashTree.hash_tree_at_eq_ok_iff tree options path).1 made
          simp only [Except.toOption, List.filter_cons]
          split
          · exact ih.cons_cons path
          · exact ih.cons path

theorem top_level_roots_rising (wellFormed : tree.root.WellFormed) :
    tree.topLevelRoots.Pairwise fun one other => one < other ∧ PackagePath.Apart one other := by
  unfold topLevelRoots
  split
  · apply List.pairwise_map.2
    apply wellFormed.ordered.imp
    intro one other before
    have different := ne_of_lt before
    constructor
    · exact List.cons_lt_cons_iff.2 (.inl before)
    · constructor <;> simp [List.cons_prefix_cons, different, different.symm]
  · simp

theorem occupied_eq (hashed : HashTree) :
    hashed.occupied = (hashed.nodes.filter occupiedNode).map (·.2) := by
  rw [HashTree.occupied, List.filter_map]
  rfl

theorem class_hash_bag_eq (hashed : HashTree) :
    hashed.classHashBag = (hashed.nodes.filter occupiedNode).flatMap (·.2.classHashes) := by
  rw [← hashed.flatMap_occupied, occupied_eq, List.flatMap_map]

theorem node_hash_bag_eq (hashed : HashTree) :
    hashed.nodeHashBag = (hashed.nodes.filter occupiedNode).map (·.2.nodeHash) := by
  rw [HashTree.nodeHashBag, occupied_eq, List.map_map]
  rfl

theorem flatMap_class_hash_bag_hash_trees (wellFormed : tree.root.WellFormed) :
    (tree.hashTrees options).flatMap (·.classHashBag) =
      (tree.wholeHashTree options).classHashBag := by
  simp only [class_hash_bag_eq]
  rw [← flatMap_occupied_hash_trees options wellFormed, List.flatMap_assoc]

theorem flatMap_node_hash_bag_hash_trees (wellFormed : tree.root.WellFormed) :
    (tree.hashTrees options).flatMap (·.nodeHashBag) =
      (tree.wholeHashTree options).nodeHashBag := by
  simp only [node_hash_bag_eq]
  rw [← flatMap_occupied_hash_trees options wellFormed, List.map_flatMap]

theorem total_class_count_hash_trees (wellFormed : tree.root.WellFormed) :
    total HashTree.classCount (tree.hashTrees options) =
      (tree.wholeHashTree options).classCount := by
  rw [HashTree.total_class_count_eq_length (built_of_mem_hash_trees tree options),
    flatMap_class_hash_bag_hash_trees options wellFormed,
    (HashTree.built_whole_hash_tree tree options).class_count_eq_length]

/-- The hash trees of the roots put together are the tree of the super-root: they hold the
same bags and the same number of classes. -/
structure Splits (trees : List HashTree) (whole : HashTree) : Prop where
  counted : ∀ hashed ∈ trees, 0 < hashed.classCount
  apart : (trees.map (·.rootPath)).Pairwise PackagePath.Apart
  rising : (trees.map (·.rootPath)).Pairwise (· < ·)
  classHashes : (trees.map fun hashed => (hashed.classHashBag : Multiset String)).sum =
    whole.classHashBag
  nodeHashes : (trees.map fun hashed => (hashed.nodeHashBag : Multiset String)).sum =
    whole.nodeHashBag
  classCount : total HashTree.classCount trees = whole.classCount

/-- Hashing root by root loses no class and duplicates none, and it never fails.  Put together
the trees of the roots hold the bags of the tree of everything, and every root is the path of a
package. -/
theorem hash_trees_splits {classes : List ClassDescriptor} (made : ofClasses classes = .ok tree) :
    (∀ path ∈ tree.topLevelRoots, ∃ hashed, tree.hashTreeAt options path = .ok hashed) ∧
      Splits (tree.hashTrees options) (tree.wholeHashTree options) := by
  have formed := well_formed_of_of_classes made
  have roots := (top_level_roots_rising formed).sublist (hash_trees_root_path_sublist options)
  constructor
  · intro path isRoot
    obtain ⟨found, present⟩ := exists_find?_of_mem_top_level_roots formed isRoot
    exact ⟨_, (HashTree.hash_tree_at_eq_ok_iff tree options path).2 ⟨found, present, rfl⟩⟩
  constructor
  · intro hashed member
    exact (mem_hash_trees_iff.1 member).2
  · exact roots.imp fun both => both.2
  · exact roots.imp fun both => both.1
  · rw [← coe_flatMap, flatMap_class_hash_bag_hash_trees options formed]
  · rw [← coe_flatMap, flatMap_node_hash_bag_hash_trees options formed]
  · exact total_class_count_hash_trees options formed

theorem hash_trees_splits_companies :
    ∃ tree, ofClasses companyClasses = .ok tree ∧
      (∀ path ∈ tree.topLevelRoots, ∃ hashed, tree.hashTreeAt ⟨true, false⟩ path = .ok hashed) ∧
        Splits (tree.hashTrees ⟨true, false⟩) (tree.wholeHashTree ⟨true, false⟩) := by
  obtain ⟨tree, made⟩ : ∃ tree, ofClasses companyClasses = .ok tree := ⟨_, rfl⟩
  exact ⟨tree, made, hash_trees_splits ⟨true, false⟩ made⟩

example : (ofClasses companyClasses).map (fun tree =>
      ((tree.hashTrees ⟨true, false⟩).map (·.rootPath), (tree.hashTrees {}).map (·.rootPath))) =
    .ok ([["com", "codec"]], [["com", "codec"], ["org", "table", "row"]]) := rfl

end PackageTree

end LibraryDetection

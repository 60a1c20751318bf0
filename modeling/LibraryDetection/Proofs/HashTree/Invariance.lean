import LibraryDetection.Proofs.HashTree.Renaming
import LibraryDetection.Proofs.HashTree.Splitting

/-!
# Hashes under other names

A renaming that keeps the shape of a package tree moves its roots along and leaves every
digest as it is: that of the tree at its dominant root, those of all nodes, and those of
the trees hashed root by root.
-/

namespace LibraryDetection

set_option autoImplicit false

def HashNode.summary (node : HashNode) : String × String × Int :=
  (node.nodeHash, node.subtreeHash, node.classCount)

/-- Nothing but names and the order of siblings tells the hash trees apart. -/
structure HashTree.SameHashes (left right : HashTree) : Prop where
  subtreeHash : left.subtreeHash = right.subtreeHash
  nodes : (left.nodes.map fun entry => entry.2.summary).Perm
    (right.nodes.map fun entry => entry.2.summary)
  nodeHashes : (left.nodeHashBag : Multiset String) = right.nodeHashBag
  classHashes : (left.classHashBag : Multiset String) = right.classHashBag

theorem HashTree.same_hashes_of_isomorphic {left right : HashTree} (leftBuilt : left.Built)
    (rightBuilt : right.Built) (alike : left.root.Isomorphic right.root) :
    left.SameHashes right := by
  have agrees : ∀ a b : HashNode, a.Hashed → b.Hashed → a.Isomorphic b →
      a.summary = b.summary := by
    intro a b aHashed bHashed pair
    have hashes := pair.hashes_eq aHashed bHashed
    simp only [HashNode.summary, hashes.1, hashes.2, pair.class_count_eq aHashed bHashed]
  constructor
  · exact (alike.hashes_eq leftBuilt.hashed_root rightBuilt.hashed_root).2
  · exact alike.map_walk_perm _ agrees leftBuilt.hashed_root rightBuilt.hashed_root
      left.rootPath right.rootPath
  · exact node_hash_bag_eq_of_isomorphic leftBuilt.hashed_root rightBuilt.hashed_root alike
  · exact class_hash_bag_eq_of_isomorphic alike

namespace PackageTree

open PackageNode

/-- What a root adds to the hash trees of its package tree: its digest and its count. -/
def rootSummary? (tree : PackageTree) (options : HashOptions) (path : PackagePath) :
    Option (String × Int) :=
  ((tree.hashTreeAt options path).toOption.filter fun hashed => 0 < hashed.classCount).map
    fun hashed => (hashed.subtreeHash, hashed.classCount)

theorem map_hash_trees (tree : PackageTree) (options : HashOptions) :
    ((tree.hashTrees options).map fun hashed => (hashed.subtreeHash, hashed.classCount)) =
      tree.topLevelRoots.filterMap (tree.rootSummary? options) := by
  unfold hashTrees
  induction tree.topLevelRoots with
  | nil => rfl
  | cons path roots ih =>
      rw [List.filterMap_cons, List.filterMap_cons, ← ih, rootSummary?]
      cases (tree.hashTreeAt options path).toOption with
      | none => rfl
      | some hashed =>
          by_cases counted : 0 < hashed.classCount <;> simp [counted, Option.filter]

/-- What hashing gives for the renamed classes besides names: the image of the dominant root,
the same digests and counts below it, and the same digest and count for every root. -/
structure HashedAlike (names : Renaming) (options : HashOptions) (tree renamed : PackageTree) :
    Prop where
  rootPath : renamed.rootPath = names.package tree.rootPath
  /-- The trees at the dominant roots. -/
  hashTree : ∃ hashed image, tree.hashTree options = .ok hashed ∧
    renamed.hashTree options = .ok image ∧ hashed.SameHashes image
  /-- The trees hashed root by root. -/
  hashTrees :
    ((tree.hashTrees options).map fun hashed => (hashed.subtreeHash, hashed.classCount)).Perm
      ((renamed.hashTrees options).map fun hashed => (hashed.subtreeHash, hashed.classCount))

variable {names : Renaming} {classes : List ClassDescriptor} (options : HashOptions)
  (keeps : names.KeepsShape classes)

include keeps

section Renamed

variable {tree renamed : PackageTree} (made : ofClasses classes = .ok tree)
  (renamedMade : ofClasses (classes.map names.apply) = .ok renamed)

include made renamedMade

theorem exists_same_hashes {path : PackagePath} {node : PackageNode}
    (present : tree.root.find? path = some node) :
    ∃ hashed image, tree.hashTreeAt options path = .ok hashed ∧
      renamed.hashTreeAt options (names.package path) = .ok image ∧
        hashed.SameHashes image ∧ hashed.classCount = image.classCount := by
  have isPackage := (exists_find?_iff_is_package made path).1 ⟨node, present⟩
  obtain ⟨partner, imagePresent⟩ :=
    (exists_find?_iff_is_package renamedMade _).2 (keeps.is_package_image isPackage)
  have alike := HashNode.isomorphic_renamed options keeps made renamedMade isPackage present
    imagePresent
  have treeMade : tree.hashTreeAt options path =
      .ok ⟨path, HashNode.ofPackage options node, options⟩ :=
    (HashTree.hash_tree_at_eq_ok_iff tree options path).2 ⟨node, present, rfl⟩
  have imageMade : renamed.hashTreeAt options (names.package path) =
      .ok ⟨names.package path, HashNode.ofPackage options partner, options⟩ :=
    (HashTree.hash_tree_at_eq_ok_iff renamed options _).2 ⟨partner, imagePresent, rfl⟩
  refine ⟨_, _, treeMade, imageMade, ?_, ?_⟩
  · exact HashTree.same_hashes_of_isomorphic ⟨tree, options, path, treeMade⟩
      ⟨renamed, options, _, imageMade⟩ alike
  · exact alike.class_count_eq (HashNode.hashed_of_package options node)
      (HashNode.hashed_of_package options partner)

theorem map_hash_trees_perm_renamed :
    ((tree.hashTrees options).map fun hashed => (hashed.subtreeHash, hashed.classCount)).Perm
      ((renamed.hashTrees options).map fun hashed =>
        (hashed.subtreeHash, hashed.classCount)) := by
  have each : ∀ path ∈ tree.topLevelRoots, tree.rootSummary? options path =
      renamed.rootSummary? options (names.package path) := by
    intro path isRoot
    obtain ⟨node, present⟩ :=
      exists_find?_of_mem_top_level_roots (well_formed_of_of_classes made) isRoot
    obtain ⟨hashed, image, hashedMade, imageMade, same, counts⟩ :=
      exists_same_hashes options keeps made renamedMade present
    simp [rootSummary?, hashedMade, imageMade, Except.toOption, Option.filter, same.subtreeHash,
      counts]
  rw [map_hash_trees, map_hash_trees]
  have images := (top_level_roots_perm_renamed keeps made renamedMade).filterMap
    (renamed.rootSummary? options)
  rw [List.filterMap_map] at images
  rw [List.filterMap_congr each]
  exact images

end Renamed

/-- Names of packages and classes leave no trace in any hash.  A renaming that keeps the shape
of the packages keeps the digests and counts below the dominant root, place by place, and those
of the trees hashed root by root. -/
theorem hashes_of_renamed
    (valid : ∀ descriptor ∈ classes, descriptor.kind ≠ .synthetic → descriptor.package.Valid) :
    ∃ tree renamed, ofClasses classes = .ok tree ∧
      ofClasses (classes.map names.apply) = .ok renamed ∧
        HashedAlike names options tree renamed := by
  obtain ⟨tree, made⟩ := of_classes_is_ok_iff.2 valid
  obtain ⟨renamed, renamedMade⟩ := exists_of_classes_renamed keeps
  obtain ⟨node, present⟩ := exists_find?_descent tree.root
  obtain ⟨hashed, image, hashedMade, imageMade, same, _⟩ :=
    exists_same_hashes options keeps made renamedMade present
  have rootPath := root_path_renamed keeps made renamedMade
  refine ⟨tree, renamed, made, renamedMade, rootPath, ⟨hashed, image, hashedMade, ?_, same⟩, ?_⟩
  · rw [PackageTree.hashTree, rootPath]
    exact imageMade
  · exact map_hash_trees_perm_renamed options keeps made renamedMade

end PackageTree

def crossedClasses : List ClassDescriptor :=
  [ClassDescriptor.make ["a", "x"] "Codec" ["encode()V"] .topLevel,
    ClassDescriptor.make ["a", "y"] "Base" [] .interface,
    ClassDescriptor.make ["b", "x"] "Codec" ["decode()V"] .topLevel]

/-- The roots change their order, and below one of them the packages change places. -/
def crossedNames : Renaming where
  package path :=
    ([(["a"], ["n"]), (["a", "x"], ["n", "y"]), (["a", "y"], ["n", "x"]), (["b"], ["m"]),
      (["b", "x"], ["m", "x"])].lookup path).getD path
  simpleName _ := "A"

theorem keeps_shape_crossed_names : crossedNames.KeepsShape crossedClasses := by
  let paths : List PackagePath := [[], ["a"], ["a", "x"], ["a", "y"], ["b"], ["b", "x"]]
  have among : ∀ path, IsPackage crossedClasses path → path ∈ paths := by
    intro path isPackage
    cases isPackage with
    | inl empty => simp [empty, paths]
    | inr below =>
        obtain ⟨descriptor, isClass, _, starts⟩ := below
        rw [← List.mem_inits] at starts
        have checked : ∀ member ∈ crossedClasses,
            ∀ start ∈ member.package.inits, start ∈ paths := by
          decide
        exact checked descriptor isClass path starts
  have steps : ∀ path ∈ paths, path ≠ [] →
      segmentFault? ((crossedNames.package path).getLastD "") = none ∧
        crossedNames.package path =
          crossedNames.package path.dropLast ++ [(crossedNames.package path).getLastD ""] := by
    decide
  have injective : ∀ one ∈ paths, ∀ other ∈ paths,
      crossedNames.package one = crossedNames.package other → one = other := by
    decide
  constructor
  · rfl
  · intro path segment isPackage
    have step := steps _ (among _ isPackage) (by simp)
    rw [List.dropLast_concat] at step
    exact ⟨_, step⟩
  · intro path one other oneIs otherIs same
    have equal := injective _ (among _ oneIs) _ (among _ otherIs) same
    simpa using equal
  · decide +kernel

theorem hashes_of_crossed :
    (∀ descriptor ∈ crossedClasses, descriptor.kind ≠ .synthetic → descriptor.package.Valid) ∧
      crossedNames.KeepsShape crossedClasses ∧
      ∃ tree renamed, PackageTree.ofClasses crossedClasses = .ok tree ∧
        PackageTree.ofClasses (crossedClasses.map crossedNames.apply) = .ok renamed ∧
          PackageTree.HashedAlike crossedNames {} tree renamed := by
  have valid : ∀ descriptor ∈ crossedClasses, descriptor.kind ≠ .synthetic →
      descriptor.package.Valid := PackageTree.of_classes_is_ok_iff.1 ⟨_, rfl⟩
  exact ⟨valid, keeps_shape_crossed_names,
    PackageTree.hashes_of_renamed {} keeps_shape_crossed_names valid⟩

end LibraryDetection

import LibraryDetection.Proofs.HashTree.Isomorphism
import LibraryDetection.Proofs.Matching.Evidence
import LibraryDetection.Proofs.Matching.Index

/-!
# Exact verdicts

A library is found exactly when each of its hash trees is isomorphic to the subtree of
some package of the application, whatever the names of the packages.
-/

namespace LibraryDetection

set_option autoImplicit false

open LibraryDetection.Digest

def HashTree.messages (tree : HashTree) : List String :=
  tree.nodes.flatMap fun entry => entry.2.messages

/-- The hash tree was made, under the options, of a package tree grown from classes that
carry digests. -/
structure HashTree.MadeFrom (tree : HashTree) (classes : List ClassDescriptor)
    (options : HashOptions) : Prop where
  grown : ∃ packages path, PackageTree.empty.addAll classes = .ok packages ∧
    packages.hashTreeAt options path = .ok tree
  digests : ∀ descriptor ∈ classes, IsDigest descriptor.contentHash

namespace HashTree

variable {tree : HashTree} {texts : List String}

theorem covered_root (part : ∀ text ∈ tree.messages, text ∈ texts) :
    tree.root.Every (HashNode.Covered texts) := by
  apply (HashNode.every_iff_forall_mem_walk tree.rootPath tree.root).2
  intro entry member text inEntry
  exact part text (List.mem_flatMap.2 ⟨entry, member, inEntry⟩)

theorem digested_of_find? {options : HashOptions} {path : PackagePath} {packages : PackageTree}
    {package : PackageNode} (wellFormed : packages.root.WellFormed)
    (digests : ∀ place, ∀ descriptor ∈ packages.root.classesAt place,
      IsDigest descriptor.contentHash)
    (present : packages.find? path = some package) :
    (HashNode.ofPackage options package).Every HashNode.Digested := by
  apply HashNode.digested_of_package options
    (PackageNode.well_formed_of_find? wellFormed present)
  intro place descriptor member
  apply digests (path ++ place)
  rw [PackageNode.classes_at_append path place present]
  exact member

namespace MadeFrom

variable {classes : List ClassDescriptor} {options : HashOptions}

theorem exists_package (made : tree.MadeFrom classes options) :
    ∃ packages path package, PackageTree.empty.addAll classes = .ok packages ∧
      packages.find? path = some package ∧
        tree = ⟨path, HashNode.ofPackage options package, options⟩ := by
  obtain ⟨packages, path, added, hashed⟩ := made.grown
  obtain ⟨package, present, same⟩ := (hash_tree_at_eq_ok_iff packages options path).1 hashed
  exact ⟨packages, path, package, added, present, same⟩

theorem built (made : tree.MadeFrom classes options) : tree.Built := by
  obtain ⟨packages, path, _, hashed⟩ := made.grown
  exact ⟨packages, options, path, hashed⟩

theorem options_eq (made : tree.MadeFrom classes options) : tree.options = options := by
  obtain ⟨_, _, _, _, _, rfl⟩ := made.exists_package
  rfl

theorem digested (made : tree.MadeFrom classes options) :
    tree.root.Every HashNode.Digested := by
  obtain ⟨packages, path, package, added, present, rfl⟩ := made.exists_package
  obtain ⟨wellFormed, _, held⟩ := PackageTree.add_all_spec PackageTree.well_formed_empty added
  apply digested_of_find? wellFormed _ present
  intro place descriptor member
  rcases (held place descriptor).1 member with ⟨isClass, _⟩ | before
  · exact made.digests descriptor isClass
  · have nothing : PackageNode.classesAt place PackageTree.empty.root = [] :=
      PackageNode.classes_at_bare "" place
    rw [nothing] at before
    exact absurd before List.not_mem_nil

theorem distinct (made : tree.MadeFrom classes options) :
    tree.root.Every HashNode.DistinctChildren := by
  obtain ⟨packages, path, package, added, present, rfl⟩ := made.exists_package
  have wellFormed := (PackageTree.add_all_spec PackageTree.well_formed_empty added).1
  exact HashNode.distinct_children_of_package options
    (PackageNode.well_formed_of_find? wellFormed present)

theorem made_of (made : tree.MadeFrom classes options)
    (part : ∀ text ∈ tree.messages, text ∈ texts) : tree.root.MadeOf texts where
  hashed := made.built.hashed_root
  digested := made.digested
  covered := covered_root part

end MadeFrom

end HashTree

namespace Fingerprint

variable {fingerprint : Fingerprint} {classes queryClasses : List ClassDescriptor}
  {options : HashOptions} {query hashed : HashTree}

theorem ProfiledFrom.digested (profiled : fingerprint.ProfiledFrom classes options)
    (digests : ∀ descriptor ∈ classes, IsDigest descriptor.contentHash)
    (member : hashed ∈ fingerprint.hashTrees) : hashed.root.Every HashNode.Digested := by
  obtain ⟨path, package, present, rfl⟩ := profiled.made member
  apply HashTree.digested_of_find? profiled.well_formed _ present
  intro place descriptor inTree
  have listed := PackageTree.mem_classes_at_of_classes profiled.of_classes_eq place descriptor
  have isClass := listed.1 inTree
  exact digests descriptor isClass.1

def jointMessages (fingerprint : Fingerprint) (query : HashTree) : List String :=
  query.messages ++ fingerprint.hashTrees.flatMap HashTree.messages

theorem made_of_of_mem_hash_trees (profiled : fingerprint.ProfiledFrom classes options)
    (digests : ∀ descriptor ∈ classes, IsDigest descriptor.contentHash)
    (isTree : hashed ∈ fingerprint.hashTrees) :
    hashed.root.MadeOf (fingerprint.jointMessages query) where
  hashed := (profiled.built hashed isTree).hashed_root
  digested := profiled.digested digests isTree
  covered := by
    apply HashTree.covered_root
    intro text inTree
    exact List.mem_append_right _ (List.mem_flatMap.2 ⟨hashed, isTree, inTree⟩)

theorem made_of_query (made : query.MadeFrom queryClasses options) :
    query.root.MadeOf (fingerprint.jointMessages query) := by
  apply made.made_of
  intro text inTree
  exact List.mem_append_left _ inTree

theorem subtree_hash_eq_iff_isomorphic (profiled : fingerprint.ProfiledFrom classes options)
    (digests : ∀ descriptor ∈ classes, IsDigest descriptor.contentHash)
    (made : query.MadeFrom queryClasses options)
    (free : CollisionFree (fingerprint.jointMessages query))
    (member : hashed ∈ fingerprint.hashTrees) {entry : PackagePath × HashNode}
    (inQuery : entry ∈ query.nodes) :
    entry.2.subtreeHash = hashed.subtreeHash ↔ hashed.root.Isomorphic entry.2 := by
  have rootMade : hashed.root.MadeOf (fingerprint.jointMessages query) :=
    made_of_of_mem_hash_trees profiled digests member
  have queryMade : query.root.MadeOf (fingerprint.jointMessages query) := made_of_query made
  have entryMade := queryMade.of_mem_walk inQuery
  constructor
  · intro same
    exact HashNode.isomorphic_of_subtree_hash_eq free rootMade entryMade same.symm
  · intro isomorphic
    exact (isomorphic.hashes_eq rootMade.hashed entryMade.hashed).2.symm

/-- A library is found exactly when each of its hash trees is isomorphic to the subtree of
some package of the query. -/
theorem exact_iff_isomorphic (profiled : fingerprint.ProfiledFrom classes options)
    (digests : ∀ descriptor ∈ classes, IsDigest descriptor.contentHash)
    (made : query.MadeFrom queryClasses options)
    (free : CollisionFree (fingerprint.jointMessages query)) (settings : MatchSettings) :
    (∃ found, fingerprint.match? (QueryIndex.ofTree query) settings = .ok (some found) ∧
        found.strategy = .exact) ↔
      ∀ tree ∈ fingerprint.hashTrees, ∃ entry ∈ query.nodes, tree.root.Isomorphic entry.2 := by
  rw [match?_exact_iff profiled made.options_eq settings]
  constructor
  · intro everywhere tree member
    obtain ⟨entry, inQuery, same⟩ := everywhere tree member
    have alike := subtree_hash_eq_iff_isomorphic profiled digests made free member inQuery
    exact ⟨entry, inQuery, alike.1 same⟩
  · intro everywhere tree member
    obtain ⟨entry, inQuery, isomorphic⟩ := everywhere tree member
    have alike := subtree_hash_eq_iff_isomorphic profiled digests made free member inQuery
    exact ⟨entry, inQuery, alike.2 isomorphic⟩

def nestedCodec (outer inner : String) : PackageNode :=
  ⟨outer, codecIn [[outer]], [⟨inner, codecIn [[outer, inner]], []⟩]⟩

def ofNestedCodec : Fingerprint :=
  ⟨⟨"codec", "1", .unknown, none, none⟩, ⟨⟨"", [], [nestedCodec "a" "b"]⟩⟩,
    [⟨["a"], HashNode.ofPackage {} (nestedCodec "a" "b"), {}⟩]⟩

def nestedQuery : HashTree := ⟨["x"], HashNode.ofPackage {} (nestedCodec "x" "y"), {}⟩

/-- Renamed packages are found exactly. -/
theorem exact_of_renamed_packages :
    ∃ found, ofNestedCodec.match? (QueryIndex.ofTree nestedQuery) {} = .ok (some found) ∧
      found.strategy = .exact := by
  have profiled : ofNestedCodec.ProfiledFrom (codecIn [["a"], ["a", "b"]]) {} :=
    ⟨ofNestedCodec.description, rfl⟩
  have made : nestedQuery.MadeFrom (codecIn [["x"], ["x", "y"]]) {} :=
    ⟨⟨⟨⟨"", [], [nestedCodec "x" "y"]⟩⟩, ["x"], rfl, rfl⟩, is_digest_of_mem_codec_in _⟩
  have free : CollisionFree (ofNestedCodec.jointMessages nestedQuery) := by decide +kernel
  apply (exact_iff_isomorphic profiled (is_digest_of_mem_codec_in _) made free {}).2
  intro tree member
  cases List.mem_singleton.1 member
  refine ⟨(["x"], nestedQuery.root), List.mem_cons_self, ?_⟩
  have inner : HashNode.Isomorphic
      (HashNode.ofPackage {} ⟨"b", codecIn [["a", "b"]], []⟩)
      (HashNode.ofPackage {} ⟨"y", codecIn [["x", "y"]], []⟩) :=
    .node (List.Perm.refl _) (List.Perm.refl _) .nil
  exact .node (List.Perm.refl _) (List.Perm.refl _) (.cons inner .nil)

end Fingerprint

end LibraryDetection

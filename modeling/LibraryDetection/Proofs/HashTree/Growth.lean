import LibraryDetection.Proofs.Collection.Bag
import LibraryDetection.Proofs.HashTree.Hashing
import LibraryDetection.Proofs.Package.Walk
import Mathlib.Algebra.Order.BigOperators.Group.Finset
import Mathlib.Data.Multiset.Basic

/-!
# Growing applications

With more classes an application has other packages, other hashes and other nodes that are
left out, but its bag of class hashes only grows.
-/

namespace LibraryDetection

set_option autoImplicit false

theorem nodup_text_set (texts : List String) : (textSet texts).Nodup :=
  (sort_texts_perm _).nodup_iff.2 (nodup_distinct texts)

theorem HashOptions.class_hashes_le (options : HashOptions) {fewer more : List ClassDescriptor}
    (distinct : fewer.Nodup) (part : ∀ member ∈ fewer, member ∈ more) :
    (options.classHashes fewer : Multiset String) ≤ options.classHashes more := by
  obtain ⟨middle, same, inside⟩ := distinct.subperm part
  have hashes : ((fewer.filter options.includes).map (·.contentHash)).Subperm
      ((more.filter options.includes).map (·.contentHash)) :=
    ⟨_, (same.filter _).map _, (inside.filter _).map _⟩
  rw [HashOptions.classHashes, HashOptions.classHashes]
  split
  · apply (Multiset.le_iff_subset (Multiset.coe_nodup.2 (nodup_text_set _))).2
    intro hash member
    exact mem_text_set.2 (hashes.subset (mem_text_set.1 member))
  · exact ((sort_texts_perm _).subperm_right).2 (((sort_texts_perm _).subperm_left).2 hashes)

namespace HashNode

theorem flatMap_of_packages_eq {β : Type} (options : HashOptions) (children : List PackageNode)
    (expand : HashNode → List β)
    (nothing : ∀ child ∈ children, ¬ 0 < (ofPackage options child).classCount →
      expand (ofPackage options child) = []) :
    (ofPackages options children).flatMap expand =
      children.flatMap fun child => expand (ofPackage options child) := by
  rw [flatMap_of_packages]
  apply List.flatMap_congr
  intro child isChild
  split
  · rfl
  · exact (nothing child isChild ‹_›).symm

theorem flatMap_class_hashes_of_package (options : HashOptions) (package : PackageNode)
    (path : PackagePath) :
    ((ofPackage options package).walk path).flatMap (·.2.classHashes) =
      (package.walk path).flatMap fun entry => options.classHashes entry.2.classes := by
  induction package generalizing path with
  | node segment classes children ih =>
      have below : (ofPackages options children).flatMap (fun child =>
            (child.walk (path ++ [child.segment])).flatMap (·.2.classHashes)) =
          children.flatMap fun child =>
            (child.walk (path ++ [child.segment])).flatMap fun entry =>
              options.classHashes entry.2.classes := by
        rw [flatMap_of_packages_eq]
        · refine List.flatMap_congr fun child isChild => ?_
          rw [segment_of_package, ih child isChild]
        · intro child _ uncounted
          have size := (hashed_of_package options child).class_count_eq_length
            (path ++ [(ofPackage options child).segment])
          apply List.eq_nil_of_length_eq_zero
          omega
      rw [ofPackage, walk_eq, PackageNode.walk_eq, List.flatMap_cons, List.flatMap_cons,
        List.flatMap_assoc, List.flatMap_assoc]
      exact congrArg _ below

end HashNode

namespace PackageNode

variable {fewer more : PackageNode} (options : HashOptions)

theorem class_hashes_walk_eq {node : PackageNode} (wellFormed : node.WellFormed) :
    ((node.walk []).flatMap fun entry => options.classHashes entry.2.classes) =
      ((node.walk []).map (·.1)).flatMap fun path => options.classHashes (node.classesAt path) := by
  rw [List.flatMap_map]
  refine List.flatMap_congr fun entry member => ?_
  obtain ⟨rest, same, present⟩ := (mem_walk_iff wellFormed [] entry.1).1 member
  rw [List.nil_append] at same
  rw [same, classesAt, present]

theorem nodup_paths {node : PackageNode} (wellFormed : node.WellFormed) :
    ((node.walk []).map (·.1)).Nodup := by
  rw [List.Nodup, List.pairwise_map]
  exact (walk_rising wellFormed []).imp fun rises => ne_of_lt rises

theorem mem_paths_of_mem_classes_at {node : PackageNode} (wellFormed : node.WellFormed)
    {path : PackagePath} {member : ClassDescriptor} (held : member ∈ node.classesAt path) :
    path ∈ (node.walk []).map (·.1) := by
  obtain ⟨found, present⟩ := find?_isSome_of_mem_classes_at held
  have visited := (mem_walk_iff wellFormed [] path).2 ⟨path, rfl, present⟩
  exact List.mem_map_of_mem (f := (·.1)) visited

theorem class_hashes_walk_le (fewerFormed : fewer.WellFormed) (moreFormed : more.WellFormed)
    (part : ∀ path, ∀ member ∈ fewer.classesAt path, member ∈ more.classesAt path) :
    (((fewer.walk []).flatMap fun entry => options.classHashes entry.2.classes : List String) :
        Multiset String) ≤
      ((more.walk []).flatMap fun entry => options.classHashes entry.2.classes : List String) := by
  rw [class_hashes_walk_eq options fewerFormed, class_hashes_walk_eq options moreFormed,
    coe_flatMap, coe_flatMap, ← List.sum_toFinset _ (nodup_paths fewerFormed),
    ← List.sum_toFinset _ (nodup_paths moreFormed)]
  refine (Finset.sum_le_sum_of_ne_zero ?_).trans (Finset.sum_le_sum ?_)
  · intro path _ some
    have occupied : fewer.classesAt path ≠ [] := by
      intro empty
      rw [empty, options.class_hashes_nil] at some
      exact some rfl
    obtain ⟨member, held⟩ := List.exists_mem_of_ne_nil _ occupied
    exact List.mem_toFinset.2 (mem_paths_of_mem_classes_at moreFormed (part path member held))
  · intro path _
    have distinct : (fewer.classesAt path).Nodup := by
      rw [classesAt]
      split
      · rename_i found present
        exact (well_formed_of_find? fewerFormed present).distinct
      · exact List.nodup_nil
    exact options.class_hashes_le distinct (part path)

end PackageNode

namespace PackageTree

theorem class_hash_bag_whole_hash_tree_le {fewer more : List ClassDescriptor}
    {fewerTree moreTree : PackageTree} (options : HashOptions)
    (part : ∀ descriptor ∈ fewer, descriptor ∈ more)
    (fewerMade : ofClasses fewer = .ok fewerTree) (moreMade : ofClasses more = .ok moreTree) :
    ((fewerTree.wholeHashTree options).classHashBag : Multiset String) ≤
      (moreTree.wholeHashTree options).classHashBag := by
  have fewerBag : (fewerTree.wholeHashTree options).classHashBag = _ :=
    HashNode.flatMap_class_hashes_of_package options fewerTree.root []
  have moreBag : (moreTree.wholeHashTree options).classHashBag = _ :=
    HashNode.flatMap_class_hashes_of_package options moreTree.root []
  rw [fewerBag, moreBag]
  apply PackageNode.class_hashes_walk_le options (well_formed_of_of_classes fewerMade)
    (well_formed_of_of_classes moreMade)
  intro path member held
  obtain ⟨isClass, counts, place⟩ := (mem_classes_at_of_classes fewerMade path member).1 held
  exact (mem_classes_at_of_classes moreMade path member).2 ⟨part member isClass, counts, place⟩

end PackageTree

end LibraryDetection

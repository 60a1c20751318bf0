import LibraryDetection.Proofs.HashTree.Isomorphism
import LibraryDetection.Proofs.Package.Renaming

/-!
# Hash trees of renamed packages

A renaming that keeps the shape of a package tree takes every package to one whose node is
isomorphic: class hashes do not depend on names, and nodes are compared without segments.
-/

namespace LibraryDetection

set_option autoImplicit false

theorem HashOptions.class_hashes_renamed (options : HashOptions) (names : Renaming)
    (classes : List ClassDescriptor) :
    options.classHashes (classes.map names.apply) = options.classHashes classes := by
  have kept : ((classes.map names.apply).filter options.includes).map (·.contentHash) =
      (classes.filter options.includes).map (·.contentHash) := by
    rw [List.filter_map, List.map_map]
    rfl
  rw [HashOptions.classHashes, HashOptions.classHashes, kept]

namespace HashNode

theorem forall₂_of_packages {options : HashOptions} {left right : List PackageNode}
    (pairs : List.Forall₂ (fun a b => (ofPackage options a).Isomorphic (ofPackage options b))
      left right) :
    List.Forall₂ Isomorphic (ofPackages options left) (ofPackages options right) := by
  induction pairs with
  | nil => exact .nil
  | @cons package partner _ _ alike _ ih =>
      have sameCount := alike.class_count_eq (hashed_of_package options package)
        (hashed_of_package options partner)
      rw [ofPackages, ofPackages]
      simp only [sameCount]
      split
      · exact .cons alike ih
      · exact ih

theorem of_packages_perm (options : HashOptions) {left right : List PackageNode}
    (same : left.Perm right) : (ofPackages options left).Perm (ofPackages options right) := by
  rw [of_packages_eq, of_packages_eq]
  exact (same.map _).filter _

variable {names : Renaming} {classes : List ClassDescriptor} {tree renamed : PackageTree}

theorem isomorphic_renamed (options : HashOptions) (keeps : names.KeepsShape classes)
    (made : PackageTree.ofClasses classes = .ok tree)
    (renamedMade : PackageTree.ofClasses (classes.map names.apply) = .ok renamed)
    {path : PackagePath} {node image : PackageNode} (isPackage : IsPackage classes path)
    (present : tree.root.find? path = some node)
    (imagePresent : renamed.root.find? (names.package path) = some image) :
    (ofPackage options node).Isomorphic (ofPackage options image) := by
  induction node generalizing path image with
  | node segment own children ih =>
      have ownClasses : (options.classHashes own).Perm (options.classHashes image.classes) := by
        have same := PackageTree.classes_perm_renamed keeps made renamedMade isPackage present
          imagePresent
        rw [← options.class_hashes_renamed names own, class_hashes_eq_of_perm options same]
      obtain ⟨partners, order, pairs⟩ := exists_pairs_of_map_perm
        (PackageTree.children_perm_renamed keeps made renamedMade isPackage present imagePresent)
      have alike : List.Forall₂
          (fun a b => (ofPackage options a).Isomorphic (ofPackage options b))
          children partners := by
        refine forall₂_imp_of_mem ?_ pairs
        intro child isChild partner isPartner samePlace
        have inImage : partner ∈ image.children := order.mem_iff.1 isPartner
        have childPresent := PackageTree.find?_child
          (PackageTree.well_formed_of_of_classes made) present isChild
        have partnerPresent := PackageTree.find?_child
          (PackageTree.well_formed_of_of_classes renamedMade) imagePresent inImage
        have childIs := (PackageTree.segment_mem_children_iff made present child.segment).1
          (List.mem_map_of_mem isChild)
        rw [← samePlace] at partnerPresent
        exact ih child isChild childIs childPresent partnerPresent
      rw [of_package_eq, of_package_eq]
      exact .node ownClasses (of_packages_perm options order) (forall₂_of_packages alike)

end HashNode

namespace PackageTree

theorem isomorphic_whole_hash_tree_renamed {names : Renaming} {classes : List ClassDescriptor}
    {tree renamed : PackageTree} (options : HashOptions) (keeps : names.KeepsShape classes)
    (made : ofClasses classes = .ok tree)
    (renamedMade : ofClasses (classes.map names.apply) = .ok renamed) :
    (tree.wholeHashTree options).root.Isomorphic (renamed.wholeHashTree options).root := by
  apply HashNode.isomorphic_renamed options keeps made renamedMade (.inl rfl) rfl
  rw [keeps.root]
  rfl

end PackageTree

end LibraryDetection

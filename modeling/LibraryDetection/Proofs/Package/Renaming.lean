import LibraryDetection.Proofs.Package.Members
import Mathlib.Data.List.Infix

/-!
# Renamed packages and classes

A renaming keeps the shape of a package tree when the sub-packages of a package go to
different sub-packages of its image.  The tree of the renamed classes then has a package
for each package of the old one, with the renamed classes in it, and no others.
-/

namespace LibraryDetection

set_option autoImplicit false

/-- The path leads to a class that is not synthetic, or is that of the root. -/
def IsPackage (classes : List ClassDescriptor) (path : PackagePath) : Prop :=
  path = [] ∨
    ∃ descriptor ∈ classes, descriptor.kind ≠ .synthetic ∧ path <+: descriptor.package

theorem IsPackage.of_append {classes : List ClassDescriptor} {path rest : PackagePath}
    (isPackage : IsPackage classes (path ++ rest)) : IsPackage classes path := by
  rcases isPackage with empty | ⟨descriptor, isClass, kept, inside⟩
  · exact .inl (List.append_eq_nil_iff.1 empty).1
  · exact .inr ⟨descriptor, isClass, kept, (List.prefix_append path rest).trans inside⟩

/-- New paths for packages and new simple names for classes, as an obfuscator may give them. -/
structure Renaming where
  package : PackagePath → PackagePath
  simpleName : ClassDescriptor → String

namespace Renaming

def apply (names : Renaming) (descriptor : ClassDescriptor) : ClassDescriptor :=
  { descriptor with
    package := names.package descriptor.package
    simpleName := names.simpleName descriptor }

/-- The root stays, the sub-packages of a package go to different sub-packages of its image
under valid segments, and different classes stay different. -/
structure KeepsShape (names : Renaming) (classes : List ClassDescriptor) : Prop where
  root : names.package [] = []
  child : ∀ path segment, IsPackage classes (path ++ [segment]) →
    ∃ image, segmentFault? image = none ∧
      names.package (path ++ [segment]) = names.package path ++ [image]
  apart : ∀ path one other, IsPackage classes (path ++ [one]) →
    IsPackage classes (path ++ [other]) →
      names.package (path ++ [one]) = names.package (path ++ [other]) → one = other
  distinct : ∀ one ∈ classes, ∀ other ∈ classes, one.kind ≠ .synthetic →
    other.kind ≠ .synthetic → names.apply one = names.apply other → one = other

namespace KeepsShape

variable {names : Renaming} {classes : List ClassDescriptor} {path rest : PackagePath}

theorem valid_package (keeps : names.KeepsShape classes) (isPackage : IsPackage classes path) :
    (names.package path).Valid := by
  induction path using List.reverseRecOn with
  | nil =>
      rw [keeps.root]
      intro segment member
      exact absurd member List.not_mem_nil
  | append_singleton path segment ih =>
      obtain ⟨image, valid, renamed⟩ := keeps.child path segment isPackage
      rw [renamed]
      intro other member
      rcases List.mem_append.1 member with before | last
      · exact ih isPackage.of_append other before
      · rw [List.mem_singleton.1 last]
        exact valid

theorem length_package (keeps : names.KeepsShape classes)
    (isPackage : IsPackage classes path) : (names.package path).length = path.length := by
  induction path using List.reverseRecOn with
  | nil => rw [keeps.root]
  | append_singleton path segment ih =>
      obtain ⟨image, _, renamed⟩ := keeps.child path segment isPackage
      rw [renamed, List.length_append, List.length_append, ih isPackage.of_append]
      rfl

theorem package_prefix (keeps : names.KeepsShape classes)
    (isPackage : IsPackage classes (path ++ rest)) :
    names.package path <+: names.package (path ++ rest) := by
  induction rest using List.reverseRecOn with
  | nil => rw [List.append_nil]
  | append_singleton rest segment ih =>
      rw [← List.append_assoc] at isPackage ⊢
      obtain ⟨image, _, renamed⟩ := keeps.child (path ++ rest) segment isPackage
      rw [renamed]
      exact (ih isPackage.of_append).trans (List.prefix_append _ _)

theorem package_injective (keeps : names.KeepsShape classes) {other : PackagePath}
    (isPackage : IsPackage classes path) (otherIs : IsPackage classes other)
    (same : names.package path = names.package other) : path = other := by
  have lengths : path.length = other.length := by
    rw [← keeps.length_package isPackage, same, keeps.length_package otherIs]
  induction path using List.reverseRecOn generalizing other with
  | nil => exact (List.length_eq_zero_iff.1 lengths.symm).symm
  | append_singleton path segment ih =>
      rcases List.eq_nil_or_concat other with rfl | ⟨front, last, rfl⟩
      · simp at lengths
      · rw [List.concat_eq_append] at *
        obtain ⟨image, _, renamed⟩ := keeps.child path segment isPackage
        obtain ⟨otherImage, _, otherRenamed⟩ := keeps.child front last otherIs
        have fronts : names.package path = names.package front := by
          rw [renamed, otherRenamed] at same
          exact (List.append_inj_left' same rfl)
        have shorter : path.length = front.length := by
          simpa using lengths
        have samePath := ih isPackage.of_append otherIs.of_append fronts shorter
        subst samePath
        rw [keeps.apart path segment last isPackage otherIs same]

theorem exists_child_of_image (keeps : names.KeepsShape classes) {image : String}
    {descriptor : ClassDescriptor} (isPackage : IsPackage classes path)
    (isClass : descriptor ∈ classes) (kept : descriptor.kind ≠ .synthetic)
    (inside : names.package path ++ [image] <+: names.package descriptor.package) :
    ∃ segment, IsPackage classes (path ++ [segment]) ∧
      names.package (path ++ [segment]) = names.package path ++ [image] := by
  have whole : IsPackage classes descriptor.package :=
    .inr ⟨descriptor, isClass, kept, List.prefix_refl _⟩
  -- the first segments of the class's package that are as many as those of the image
  obtain ⟨front, back, split, size⟩ : ∃ front back, descriptor.package = front ++ back ∧
      front.length = path.length + 1 := by
    refine ⟨_, _, (List.take_append_drop (path.length + 1) descriptor.package).symm, ?_⟩
    have long := inside.length_le
    rw [List.length_append, keeps.length_package isPackage, keeps.length_package whole,
      List.length_singleton] at long
    rw [List.length_take]
    omega
  rw [split] at whole inside
  have frontIs := whole.of_append
  have images : names.package front = names.package path ++ [image] := by
    apply List.IsPrefix.eq_of_length
    · apply List.prefix_of_prefix_length_le (keeps.package_prefix whole) inside
      rw [keeps.length_package frontIs, List.length_append, keeps.length_package isPackage, size]
      rfl
    · rw [keeps.length_package frontIs, List.length_append, keeps.length_package isPackage, size]
      rfl
  rcases List.eq_nil_or_concat front with rfl | ⟨start, segment, rfl⟩
  · simp at size
  · rw [List.concat_eq_append] at *
    obtain ⟨last, _, renamed⟩ := keeps.child start segment frontIs
    have starts : names.package start = names.package path := by
      rw [renamed] at images
      exact List.append_inj_left' images rfl
    have samePath := keeps.package_injective frontIs.of_append isPackage starts
    subst samePath
    exact ⟨segment, frontIs, images⟩

theorem is_package_image (keeps : names.KeepsShape classes) (isPackage : IsPackage classes path) :
    IsPackage (classes.map names.apply) (names.package path) := by
  cases isPackage with
  | inl empty => exact .inl (by rw [empty, keeps.root])
  | inr below =>
      obtain ⟨descriptor, isClass, kept, rest, place⟩ := below
      have whole : IsPackage classes (path ++ rest) := by
        rw [place]
        exact .inr ⟨descriptor, isClass, kept, List.prefix_refl _⟩
      refine .inr ⟨names.apply descriptor, List.mem_map_of_mem isClass, kept, ?_⟩
      change _ <+: names.package descriptor.package
      rw [← place]
      exact keeps.package_prefix whole

theorem is_package_image_iff (keeps : names.KeepsShape classes)
    (isPackage : IsPackage classes path) (image : String) :
    IsPackage (classes.map names.apply) (names.package path ++ [image]) ↔
      ∃ segment, IsPackage classes (path ++ [segment]) ∧
        names.package (path ++ [segment]) = names.package path ++ [image] := by
  constructor
  · rintro (empty | ⟨descriptor, isImage, kept, inside⟩)
    · simp at empty
    · obtain ⟨old, isClass, rfl⟩ := List.mem_map.1 isImage
      exact keeps.exists_child_of_image isPackage isClass kept inside
  · intro image
    obtain ⟨segment, isChild, same⟩ := image
    rw [← same]
    exact keeps.is_package_image isChild

end KeepsShape

end Renaming

namespace PackageTree

open PackageNode

section OfClasses

variable {classes : List ClassDescriptor} {tree : PackageTree} {path : PackagePath}
  {node : PackageNode}

theorem find?_child (wellFormed : tree.root.WellFormed) (present : tree.root.find? path = some node)
    {child : PackageNode} (isChild : child ∈ node.children) :
    tree.root.find? (path ++ [child.segment]) = some child := by
  have ordered := (well_formed_of_find? wellFormed present).ordered
  rw [find?_append, present]
  simp only [Option.bind_some, PackageNode.find?, find?_of_mem ordered isChild]

theorem mem_classes_of_find? (made : ofClasses classes = .ok tree)
    (present : tree.root.find? path = some node) (member : ClassDescriptor) :
    member ∈ node.classes ↔
      member ∈ classes ∧ member.kind ≠ .synthetic ∧ member.package = path := by
  have held := mem_classes_at_of_classes made path member
  rw [classesAt, present] at held
  exact held

theorem segment_mem_children_iff (made : ofClasses classes = .ok tree)
    (present : tree.root.find? path = some node) (segment : String) :
    segment ∈ node.children.map (·.segment) ↔ IsPackage classes (path ++ [segment]) := by
  have wellFormed := well_formed_of_of_classes made
  have formed := well_formed_of_find? wellFormed present
  constructor
  · intro member
    obtain ⟨child, isChild, rfl⟩ := List.mem_map.1 member
    obtain ⟨rest, descriptor, below⟩ :=
      exists_class_of_pos (formed.within child isChild) (formed.inhabited child isChild)
    rw [← classes_at_append _ rest (find?_child wellFormed present isChild)] at below
    obtain ⟨isClass, kept, place⟩ := (mem_classes_at_of_classes made _ descriptor).1 below
    refine .inr ⟨descriptor, isClass, kept, ?_⟩
    rw [place]
    exact List.prefix_append _ _
  · rintro (empty | ⟨descriptor, isClass, kept, rest, place⟩)
    · simp at empty
    · have held : descriptor ∈ classesAt (path ++ segment :: rest) tree.root := by
        refine (mem_classes_at_of_classes made _ descriptor).2 ⟨isClass, kept, ?_⟩
        rw [← place, List.append_assoc]
        rfl
      rw [classes_at_append path _ present, classes_at_cons] at held
      cases found : node.children.find? (·.segment = segment) with
      | none =>
          rw [found] at held
          exact absurd held List.not_mem_nil
      | some child =>
          have named := List.find?_some found
          exact List.mem_map.2 ⟨child, List.mem_of_find?_eq_some found, of_decide_eq_true named⟩

end OfClasses

section Renamed

variable {names : Renaming} {classes : List ClassDescriptor} {tree renamed : PackageTree}

theorem exists_of_classes_renamed (keeps : names.KeepsShape classes) :
    ∃ renamed, ofClasses (classes.map names.apply) = .ok renamed := by
  refine of_classes_is_ok_iff.2 ?_
  intro descriptor member kept
  obtain ⟨old, isClass, rfl⟩ := List.mem_map.1 member
  exact keeps.valid_package (.inr ⟨old, isClass, kept, List.prefix_refl _⟩)

variable {path : PackagePath} {node image : PackageNode}

theorem classes_perm_renamed (keeps : names.KeepsShape classes)
    (made : ofClasses classes = .ok tree)
    (renamedMade : ofClasses (classes.map names.apply) = .ok renamed)
    (isPackage : IsPackage classes path) (present : tree.root.find? path = some node)
    (imagePresent : renamed.root.find? (names.package path) = some image) :
    (node.classes.map names.apply).Perm image.classes := by
  have formed := well_formed_of_find? (well_formed_of_of_classes made) present
  have imageFormed := well_formed_of_find? (well_formed_of_of_classes renamedMade) imagePresent
  have own := mem_classes_of_find? made present
  have imageOwn := mem_classes_of_find? renamedMade imagePresent
  apply (List.perm_ext_iff_of_nodup _ imageFormed.distinct).2
  · intro member
    rw [imageOwn]
    constructor
    · intro isImage
      obtain ⟨old, isOld, rfl⟩ := List.mem_map.1 isImage
      obtain ⟨isClass, kept, place⟩ := (own old).1 isOld
      exact ⟨List.mem_map_of_mem isClass, kept, congrArg names.package place⟩
    · rintro ⟨isImage, kept, place⟩
      obtain ⟨old, isClass, rfl⟩ := List.mem_map.1 isImage
      have oldIs : IsPackage classes old.package :=
        .inr ⟨old, isClass, kept, List.prefix_refl _⟩
      have samePlace := keeps.package_injective oldIs isPackage place
      exact List.mem_map_of_mem ((own old).2 ⟨isClass, kept, samePlace⟩)
  · apply List.Nodup.map_on _ formed.distinct
    intro one isOne other isOther same
    obtain ⟨isClass, kept, _⟩ := (own one).1 isOne
    obtain ⟨otherClass, otherKept, _⟩ := (own other).1 isOther
    exact keeps.distinct one isClass other otherClass kept otherKept same

theorem children_perm_renamed (keeps : names.KeepsShape classes)
    (made : ofClasses classes = .ok tree)
    (renamedMade : ofClasses (classes.map names.apply) = .ok renamed)
    (isPackage : IsPackage classes path) (present : tree.root.find? path = some node)
    (imagePresent : renamed.root.find? (names.package path) = some image) :
    (node.children.map fun child => names.package (path ++ [child.segment])).Perm
      (image.children.map fun child => names.package path ++ [child.segment]) := by
  have formed := well_formed_of_find? (well_formed_of_of_classes made) present
  have imageFormed := well_formed_of_find? (well_formed_of_of_classes renamedMade) imagePresent
  have segments := segment_mem_children_iff made present
  have imageSegments := segment_mem_children_iff renamedMade imagePresent
  apply (List.perm_ext_iff_of_nodup _ _).2
  · intro place
    constructor
    · intro member
      obtain ⟨child, isChild, rfl⟩ := List.mem_map.1 member
      have childIs := (segments child.segment).1 (List.mem_map_of_mem isChild)
      obtain ⟨last, _, same⟩ := keeps.child path child.segment childIs
      have lastIs := (keeps.is_package_image_iff isPackage last).2 ⟨_, childIs, same⟩
      obtain ⟨partner, isPartner, rfl⟩ := List.mem_map.1 ((imageSegments last).2 lastIs)
      exact List.mem_map.2 ⟨partner, isPartner, same.symm⟩
    · intro member
      obtain ⟨partner, isPartner, rfl⟩ := List.mem_map.1 member
      have partnerIs := (imageSegments partner.segment).1 (List.mem_map_of_mem isPartner)
      obtain ⟨segment, childIs, same⟩ := (keeps.is_package_image_iff isPackage _).1 partnerIs
      obtain ⟨child, isChild, rfl⟩ := List.mem_map.1 ((segments segment).2 childIs)
      exact List.mem_map.2 ⟨child, isChild, same⟩
  · refine List.pairwise_map.2 (List.Pairwise.imp_of_mem ?_ formed.ordered)
    intro one other isOne isOther before same
    have oneIs := (segments one.segment).1 (List.mem_map_of_mem isOne)
    have otherIs := (segments other.segment).1 (List.mem_map_of_mem isOther)
    exact ne_of_lt before (keeps.apart path _ _ oneIs otherIs same)
  · refine List.pairwise_map.2 (imageFormed.ordered.imp ?_)
    intro one other before same
    exact ne_of_lt before (List.singleton_inj.1 (List.append_cancel_left same))

end Renamed

end PackageTree

end LibraryDetection

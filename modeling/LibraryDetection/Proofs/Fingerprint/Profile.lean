import LibraryDetection.Fingerprint.Basic
import LibraryDetection.Proofs.Collection.Total
import LibraryDetection.Proofs.HashTree.Places

/-!
# Fingerprints of profiled libraries

A profiled library has at least one hash tree, every one of them made of its own package
tree under the options asked for, and every one with a class that counts.
-/

namespace LibraryDetection

set_option autoImplicit false

theorem toOption_eq_some_iff {ε α : Type} {result : Except ε α} {value : α} :
    result.toOption = some value ↔ result = .ok value := by
  cases result with
  | error error => simp [Except.toOption]
  | ok found => simp [Except.toOption]

theorem mem_hash_trees_iff {tree : PackageTree} {options : HashOptions} {hashed : HashTree} :
    hashed ∈ tree.hashTrees options ↔
      (∃ path ∈ tree.topLevelRoots, tree.hashTreeAt options path = .ok hashed) ∧
        0 < hashed.classCount := by
  rw [PackageTree.hashTrees, List.mem_filter, List.mem_filterMap, decide_eq_true_eq]
  simp only [toOption_eq_some_iff]

theorem built_of_mem_hash_trees (tree : PackageTree) (options : HashOptions) :
    ∀ hashed ∈ tree.hashTrees options, hashed.Built := by
  intro hashed member
  obtain ⟨⟨path, _, made⟩, _⟩ := mem_hash_trees_iff.1 member
  exact ⟨tree, options, path, made⟩

theorem profile_library_eq_ok_iff {classes : List ClassDescriptor}
    {description : LibraryDescription} {options : HashOptions} {fingerprint : Fingerprint} :
    (profileLibrary classes description options).result = .ok fingerprint ↔
      ∃ tree, PackageTree.ofClasses classes = .ok tree ∧ tree.hashTrees options ≠ [] ∧
        fingerprint = ⟨description, tree, tree.hashTrees options⟩ := by
  rw [profileLibrary]
  cases PackageTree.ofClasses classes with
  | error malformed => simp
  | ok tree =>
      by_cases empty : tree.hashTrees options = []
      · simp [empty]
      · have kept : (tree.hashTrees options).isEmpty = false := by simpa using empty
        simp only [kept, Bool.false_eq_true, if_false, Except.ok.injEq]
        constructor
        · intro same
          exact ⟨tree, rfl, empty, same.symm⟩
        · rintro ⟨other, rfl, _, same⟩
          exact same.symm

/-- The fingerprint was made of the classes under the options, in a profiling that came to its
end. -/
def Fingerprint.ProfiledFrom (fingerprint : Fingerprint) (classes : List ClassDescriptor)
    (options : HashOptions) : Prop :=
  ∃ description, (profileLibrary classes description options).result = .ok fingerprint

namespace Fingerprint.ProfiledFrom

variable {fingerprint : Fingerprint} {classes : List ClassDescriptor} {options : HashOptions}
  {hashed : HashTree}

theorem of_classes_eq (profiled : fingerprint.ProfiledFrom classes options) :
    PackageTree.ofClasses classes = .ok fingerprint.packageTree := by
  obtain ⟨description, result⟩ := profiled
  obtain ⟨tree, made, _, rfl⟩ := profile_library_eq_ok_iff.1 result
  exact made

theorem hash_trees_eq (profiled : fingerprint.ProfiledFrom classes options) :
    fingerprint.hashTrees = fingerprint.packageTree.hashTrees options := by
  obtain ⟨description, result⟩ := profiled
  obtain ⟨tree, _, _, rfl⟩ := profile_library_eq_ok_iff.1 result
  rfl

theorem hash_trees_ne_nil (profiled : fingerprint.ProfiledFrom classes options) :
    fingerprint.hashTrees ≠ [] := by
  obtain ⟨description, result⟩ := profiled
  obtain ⟨tree, _, some, rfl⟩ := profile_library_eq_ok_iff.1 result
  exact some

theorem made (profiled : fingerprint.ProfiledFrom classes options)
    (member : hashed ∈ fingerprint.hashTrees) :
    ∃ path package, fingerprint.packageTree.find? path = some package ∧
      hashed = ⟨path, HashNode.ofPackage options package, options⟩ := by
  rw [profiled.hash_trees_eq] at member
  obtain ⟨⟨path, _, made⟩, _⟩ := mem_hash_trees_iff.1 member
  obtain ⟨package, present, same⟩ := (HashTree.hash_tree_at_eq_ok_iff _ options path).1 made
  exact ⟨path, package, present, same⟩

theorem counted (profiled : fingerprint.ProfiledFrom classes options)
    (member : hashed ∈ fingerprint.hashTrees) : 0 < hashed.classCount := by
  rw [profiled.hash_trees_eq] at member
  exact (mem_hash_trees_iff.1 member).2

theorem built (profiled : fingerprint.ProfiledFrom classes options) :
    ∀ hashed ∈ fingerprint.hashTrees, hashed.Built := by
  rw [profiled.hash_trees_eq]
  exact built_of_mem_hash_trees fingerprint.packageTree options

theorem well_formed (profiled : fingerprint.ProfiledFrom classes options) :
    fingerprint.packageTree.root.WellFormed :=
  PackageTree.well_formed_of_of_classes profiled.of_classes_eq

theorem options_eq (profiled : fingerprint.ProfiledFrom classes options) :
    fingerprint.options = options := by
  rw [Fingerprint.options]
  cases trees : fingerprint.hashTrees with
  | nil => exact absurd trees profiled.hash_trees_ne_nil
  | cons hashed others =>
      have member : hashed ∈ fingerprint.hashTrees := by
        rw [trees]
        exact List.mem_cons_self
      obtain ⟨path, package, _, rfl⟩ := profiled.made member
      rfl

theorem class_count_pos (profiled : fingerprint.ProfiledFrom classes options) :
    0 < fingerprint.classCount := by
  have counted : ∀ hashed ∈ fingerprint.hashTrees, 0 < hashed.classCount :=
    fun hashed member => profiled.counted member
  exact (total_pos_iff counted).2 profiled.hash_trees_ne_nil

end Fingerprint.ProfiledFrom

end LibraryDetection

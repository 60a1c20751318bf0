import LibraryDetection.Fingerprint.Restore
import LibraryDetection.Proofs.Fingerprint.Profile
import LibraryDetection.Proofs.HashTree.Roots
import LibraryDetection.Proofs.Package.Walk

/-!
# Restored fingerprints

The record of a profiled fingerprint is taken back: every class has the hash of its own
signatures, whatever order they are stored in, and the hash trees are those of the record.
-/

namespace LibraryDetection

set_option autoImplicit false

open Validation

namespace ClassDescriptor

/-- The descriptor was made of signatures, so that its content hash is the digest of those that
it lists. -/
def Made (descriptor : ClassDescriptor) : Prop :=
  ∃ package simpleName signatures kind,
    descriptor = ClassDescriptor.make package simpleName signatures kind

theorem made_make (package : PackagePath) (simpleName : String) (signatures : List String)
    (kind : ClassKind) : (make package simpleName signatures kind).Made :=
  ⟨package, simpleName, signatures, kind, rfl⟩

theorem Made.make_eq {descriptor : ClassDescriptor} (made : descriptor.Made)
    {signatures : List String} (same : signatures.Perm descriptor.signatures) :
    make descriptor.package descriptor.simpleName signatures descriptor.kind = descriptor := by
  obtain ⟨package, simpleName, origin, kind, rfl⟩ := made
  have members (text : String) : text ∈ signatures ↔ text ∈ origin :=
    same.mem_iff.trans mem_text_set
  simp only [make, text_set_eq_of_mem_iff members, Digest.content_hash_eq_of_mem_iff members]

end ClassDescriptor

namespace StoredClass

theorem to_descriptor_of_descriptor {descriptor : ClassDescriptor} (made : descriptor.Made) :
    (ofDescriptor descriptor).toDescriptor = .ok descriptor := by
  have again : ClassDescriptor.make (ofDescriptor descriptor).package
      (ofDescriptor descriptor).name (ofDescriptor descriptor).signatures
      (ofDescriptor descriptor).kind = descriptor :=
    made.make_eq (sort_texts_perm descriptor.signatures)
  have sameHash : descriptor.contentHash = (ofDescriptor descriptor).contentHash := rfl
  unfold toDescriptor
  rw [again]
  exact if_pos sameHash

theorem all_to_descriptors_map {descriptors : List ClassDescriptor}
    (made : ∀ descriptor ∈ descriptors, descriptor.Made) :
    allToDescriptors (descriptors.map ofDescriptor) = .ok descriptors := by
  induction descriptors with
  | nil => rfl
  | cons descriptor rest ih =>
      have others := ih fun other member => made other (List.mem_cons_of_mem descriptor member)
      rw [List.map_cons, allToDescriptors,
        to_descriptor_of_descriptor (made descriptor List.mem_cons_self), others]

end StoredClass

namespace Fingerprint

variable {fingerprint : Fingerprint} {record : FingerprintRecord}

theorem to_record_eq_valid_iff :
    fingerprint.toRecord = .valid record ↔
      (∀ member ∈ fingerprint.packageTree.classes, member.kind ∈ ClassKind.all) ∧
        record = ⟨fingerprint.description,
          fingerprint.packageTree.classes.map StoredClass.ofDescriptor,
          fingerprint.hashTrees⟩ := by
  rw [toRecord]
  by_cases known : fingerprint.packageTree.classes.all (ClassKind.all.contains ·.kind) = true
  · have kinds : ∀ member ∈ fingerprint.packageTree.classes, member.kind ∈ ClassKind.all := by
      intro member isClass
      exact List.contains_iff_mem.1 (List.all_eq_true.1 known member isClass)
    simp only [known, if_true, Checked.valid.injEq]
    constructor
    · intro same
      exact ⟨kinds, same.symm⟩
    · rintro ⟨_, same⟩
      exact same.symm
  · simp only [known]
    constructor
    · intro same
      cases same
    · rintro ⟨kinds, _⟩
      refine absurd (List.all_eq_true.2 ?_) known
      intro member isClass
      exact List.contains_iff_mem.2 (kinds member isClass)

/-- The record of a fingerprint of classes made of signatures is taken back, with the same
classes at every path. -/
theorem exists_restored {classes : List ClassDescriptor}
    (grown : PackageTree.ofClasses classes = .ok fingerprint.packageTree)
    (made : ∀ member ∈ classes, member.Made) (told : fingerprint.toRecord = .valid record) :
    ∃ restored, record.restore = .ok restored ∧
      restored.description = fingerprint.description ∧
      restored.hashTrees = fingerprint.hashTrees ∧
      restored.packageTree.root.Partners fingerprint.packageTree.root := by
  obtain ⟨_, rfl⟩ := to_record_eq_valid_iff.1 told
  have listed := PackageTree.mem_classes_of_classes grown
  have madeAgain : ∀ member ∈ fingerprint.packageTree.classes, member.Made := by
    intro member isClass
    exact made member ((listed member).1 isClass).1
  have valid := PackageTree.of_classes_is_ok_iff.1 ⟨_, grown⟩
  have validAgain : ∀ member ∈ fingerprint.packageTree.classes, member.kind ≠ .synthetic →
      member.package.Valid := by
    intro member isClass kept
    exact valid member ((listed member).1 isClass).1 kept
  obtain ⟨tree, again⟩ := PackageTree.of_classes_is_ok_iff.2 validAgain
  refine ⟨⟨fingerprint.description, tree, fingerprint.hashTrees⟩, ?_, rfl, rfl, ?_⟩
  · rw [FingerprintRecord.restore, FingerprintRecord.packageTree]
    dsimp only
    rw [StoredClass.all_to_descriptors_map madeAgain]
    dsimp only
    rw [again]
  · apply PackageTree.partners_of_of_classes again grown
    intro member kept
    rw [listed member]
    exact and_iff_left kept

theorem exists_restore {classes : List ClassDescriptor} {options : HashOptions}
    (profiled : fingerprint.ProfiledFrom classes options)
    (made : ∀ member ∈ classes, member.Made) (told : fingerprint.toRecord = .valid record) :
    ∃ restored, record.restore = .ok restored ∧
      restored.description = fingerprint.description ∧
      restored.hashTrees = fingerprint.hashTrees := by
  obtain ⟨restored, restores, description, trees, _⟩ :=
    exists_restored profiled.of_classes_eq made told
  exact ⟨restored, restores, description, trees⟩

end Fingerprint

end LibraryDetection

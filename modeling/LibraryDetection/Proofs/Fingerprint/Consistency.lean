import LibraryDetection.Proofs.Fingerprint.Restore
import LibraryDetection.Proofs.Matching.Evidence

/-!
# Consistent records

A record tells its classes and its hash trees side by side.  The content hash of each class
is checked against its signatures; the hash trees are taken as they stand.  They are those
of the classes in every record that was told of a profiled library.
-/

namespace LibraryDetection

set_option autoImplicit false

namespace StoredClass

/-- The descriptor of the signatures of a stored class, whatever hash stands beside them. -/
def rebuilt (stored : StoredClass) : ClassDescriptor :=
  ClassDescriptor.make stored.package stored.name stored.signatures stored.kind

theorem all_to_descriptors_eq_ok_iff {classes : List StoredClass}
    {descriptors : List ClassDescriptor} :
    allToDescriptors classes = .ok descriptors ↔
      (∀ stored ∈ classes, stored.rebuilt.contentHash = stored.contentHash) ∧
        descriptors = classes.map rebuilt := by
  induction classes generalizing descriptors with
  | nil => simp [allToDescriptors, eq_comm]
  | cons stored rest ih =>
      rw [allToDescriptors, toDescriptor, List.forall_mem_cons, List.map_cons]
      by_cases right : stored.rebuilt.contentHash = stored.contentHash
      · have made : (ClassDescriptor.make stored.package stored.name stored.signatures
            stored.kind).contentHash = stored.contentHash := right
        simp only [if_pos made, right, true_and]
        cases below : allToDescriptors rest with
        | error fault =>
            constructor
            · intro done
              cases done
            · rintro ⟨others, _⟩
              rw [ih.2 ⟨others, rfl⟩] at below
              cases below
        | ok found =>
            obtain ⟨others, rfl⟩ := ih.1 below
            constructor
            · intro done
              cases done
              exact ⟨others, rfl⟩
            · rintro ⟨_, rfl⟩
              rfl
      · have mismatch : ¬ (ClassDescriptor.make stored.package stored.name stored.signatures
            stored.kind).contentHash = stored.contentHash := right
        simp only [if_neg mismatch, right, false_and, reduceCtorEq]

end StoredClass

namespace FingerprintRecord

variable {record : FingerprintRecord} {restored : Fingerprint}

/-- Every class has the content hash of its signatures and, unless it is synthetic, a valid
package path. -/
structure Sound (record : FingerprintRecord) : Prop where
  contents : ∀ stored ∈ record.classes, stored.rebuilt.contentHash = stored.contentHash
  paths : ∀ stored ∈ record.classes, stored.kind ≠ .synthetic → stored.package.Valid

theorem restore_eq_ok_iff :
    record.restore = .ok restored ↔
      (∀ stored ∈ record.classes, stored.rebuilt.contentHash = stored.contentHash) ∧
        ∃ tree, PackageTree.ofClasses (record.classes.map StoredClass.rebuilt) = .ok tree ∧
          restored = ⟨record.library, tree, record.hashTrees⟩ := by
  have classes := @StoredClass.all_to_descriptors_eq_ok_iff record.classes
  rw [restore, packageTree]
  cases read : StoredClass.allToDescriptors record.classes with
  | error fault =>
      constructor
      · intro done
        cases done
      · rintro ⟨contents, _⟩
        rw [classes.2 ⟨contents, rfl⟩] at read
        cases read
  | ok descriptors =>
      obtain ⟨contents, rfl⟩ := classes.1 read
      dsimp only
      cases PackageTree.ofClasses (record.classes.map StoredClass.rebuilt) with
      | error malformed => simp
      | ok tree =>
          constructor
          · intro done
            exact ⟨contents, tree, rfl, (Except.ok.inj done).symm⟩
          · rintro ⟨_, other, same, rfl⟩
            cases same
            rfl

theorem exists_restore_iff : (∃ restored, record.restore = .ok restored) ↔ record.Sound := by
  have paths := @PackageTree.of_classes_is_ok_iff (record.classes.map StoredClass.rebuilt)
  simp only [restore_eq_ok_iff]
  constructor
  · rintro ⟨_, contents, tree, grown, _⟩
    refine ⟨contents, ?_⟩
    intro stored member kept
    exact paths.1 ⟨tree, grown⟩ stored.rebuilt (List.mem_map_of_mem member) kept
  · intro sound
    have valid : ∀ descriptor ∈ record.classes.map StoredClass.rebuilt,
        descriptor.kind ≠ .synthetic → descriptor.package.Valid := by
      intro descriptor member kept
      obtain ⟨stored, isStored, rfl⟩ := List.mem_map.1 member
      exact sound.paths stored isStored kept
    obtain ⟨tree, grown⟩ := paths.2 valid
    exact ⟨_, sound.contents, tree, grown, rfl⟩

theorem label_of_restore_eq_error {error : RestoreError}
    (refused : record.restore = .error error) : error.label = record.library.label := by
  rw [restore] at refused
  split at refused
  · cases refused
    rfl
  · cases refused

end FingerprintRecord

namespace Fingerprint

/-- The hash trees are those of the package tree, all under the same options. -/
structure Consistent (fingerprint : Fingerprint) : Prop where
  derived : fingerprint.hashTrees = fingerprint.packageTree.hashTrees fingerprint.options
  shared : ∀ tree ∈ fingerprint.hashTrees, tree.options = fingerprint.options

theorem ProfiledFrom.consistent {fingerprint : Fingerprint} {classes : List ClassDescriptor}
    {options : HashOptions} (profiled : fingerprint.ProfiledFrom classes options) :
    fingerprint.Consistent where
  derived := by
    rw [profiled.options_eq]
    exact profiled.hash_trees_eq
  shared := by
    intro tree member
    obtain ⟨path, package, _, rfl⟩ := profiled.made member
    exact profiled.options_eq.symm

theorem Consistent.of_partners {fingerprint other : Fingerprint}
    (consistent : fingerprint.Consistent) (trees : other.hashTrees = fingerprint.hashTrees)
    (partners : other.packageTree.root.Partners fingerprint.packageTree.root) :
    other.Consistent := by
  have options : other.options = fingerprint.options := by
    rw [Fingerprint.options, Fingerprint.options, trees]
  constructor
  · rw [trees, options, PackageTree.hash_trees_eq partners]
    exact consistent.derived
  · intro tree member
    rw [options]
    rw [trees] at member
    exact consistent.shared tree member

end Fingerprint

namespace FingerprintRecord

/-- A record is taken back exactly when it is sound; its classes are then those of the
package tree and its hash trees are kept as they stand.  The hash trees told of a profiled
library are those of the classes told beside them. -/
theorem restore_spec (record : FingerprintRecord) :
    ((∃ restored, record.restore = .ok restored) ↔ record.Sound) ∧
      (∀ error, record.restore = .error error → error.label = record.library.label) ∧
      (∀ restored, record.restore = .ok restored →
        restored.description = record.library ∧
          PackageTree.ofClasses (record.classes.map StoredClass.rebuilt) =
            .ok restored.packageTree ∧
          restored.hashTrees = record.hashTrees) ∧
      ∀ (fingerprint : Fingerprint) (classes : List ClassDescriptor) (options : HashOptions),
        fingerprint.ProfiledFrom classes options → (∀ member ∈ classes, member.Made) →
          fingerprint.toRecord = .valid record →
            ∃ restored, record.restore = .ok restored ∧ restored.options = options ∧
              restored.Consistent := by
  refine ⟨exists_restore_iff, fun error => label_of_restore_eq_error, ?_, ?_⟩
  · intro restored done
    obtain ⟨_, tree, grown, rfl⟩ := restore_eq_ok_iff.1 done
    exact ⟨rfl, grown, rfl⟩
  · intro fingerprint classes options profiled made told
    obtain ⟨restored, restores, _, trees, partners⟩ :=
      Fingerprint.exists_restored profiled.of_classes_eq made told
    have options : restored.options = options := by
      rw [← profiled.options_eq, Fingerprint.options, Fingerprint.options, trees]
    exact ⟨restored, restores, options, profiled.consistent.of_partners trees partners⟩

def stray : FingerprintRecord :=
  { library := ⟨"codec", "1", .unknown, none, none⟩
    classes := (codecIn [["a"]]).map StoredClass.ofDescriptor
    hashTrees := (codecPackages ["b"]).hashTrees {} }

/-- Hash trees that are not those of the classes are taken back as they stand, since nothing
compares the two. -/
theorem stray_restored : ∃ restored, stray.restore = .ok restored ∧ ¬ restored.Consistent := by
  refine ⟨⟨stray.library, codecPackages ["a"], stray.hashTrees⟩, ?_, ?_⟩
  · refine restore_eq_ok_iff.2 ⟨?_, codecPackages ["a"], rfl, rfl⟩
    intro stored member
    rw [List.mem_singleton.1 member]
    rfl
  · intro consistent
    have paths := congrArg (List.map HashTree.rootPath) consistent.derived
    exact absurd paths (by decide)

end FingerprintRecord

end LibraryDetection

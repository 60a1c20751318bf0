import LibraryDetection.Proofs.Fingerprint.Profile
import LibraryDetection.Proofs.HashTree.Roots
import LibraryDetection.Proofs.Package.Walk
import LibraryDetection.Fingerprint.Record
import Mathlib.Data.Prod.Lex
import Mathlib.Data.String.Basic

/-!
# The order of the classes of a library

The same classes in another order are refused, found empty or profiled together, and the
fingerprints differ at most in the order of the classes of a package.  A record lists those
by name and content; where these tell the classes apart, it is the same record.
-/

namespace LibraryDetection

set_option autoImplicit false

namespace ClassDescriptor

def listKey (descriptor : ClassDescriptor) : String ×ₗ String :=
  toLex (descriptor.simpleName, descriptor.contentHash)

theorem listed_before_eq (a b : ClassDescriptor) :
    a.listedBefore b = decide (a.listKey ≤ b.listKey) := by
  rw [Bool.eq_iff_iff, listedBefore, decide_eq_true_eq]
  simp only [listKey, Prod.Lex.toLex_le_toLex]
  split
  · rename_i same
    simp [textLe, same]
  · rename_i different
    simp [textLe, different, lt_iff_le_and_ne]

end ClassDescriptor

/-- No two classes that count have one package, one simple name and one content.  Then a record
lists the classes in one order, whatever the order of the dump was. -/
def ToldApart (classes : List ClassDescriptor) : Prop :=
  ∀ a ∈ classes, ∀ b ∈ classes, a.kind ≠ .synthetic → b.kind ≠ .synthetic →
    a.package = b.package → a.simpleName = b.simpleName → a.contentHash = b.contentHash → a = b

namespace PackageNode

variable {left right : PackageNode}

theorem walk_partners (partners : left.Partners right) (start : PackagePath) :
    List.Forall₂ (fun a b => a.1 = b.1 ∧ a.2.Partners b.2) (left.walk start)
      (right.walk start) := by
  induction left generalizing right start with
  | node segment classes children ih =>
      have pairs := partners.2.2.2.partners partners.1 partners.2.1
      rw [walk_eq, walk_eq]
      refine .cons ⟨rfl, partners⟩ ?_
      have below : List.Forall₂
          (fun child other => List.Forall₂ (fun a b => a.1 = b.1 ∧ a.2.Partners b.2)
            (child.walk (start ++ [child.segment])) (other.walk (start ++ [other.segment])))
          children right.children := by
        refine forall₂_imp_of_mem ?_ pairs
        intro child isChild other _ pair
        rw [← pair.2.2.1]
        exact ih child isChild pair _
      exact List.rel_flatMap below fun _ _ walks => walks

end PackageNode

namespace PackageTree

open PackageNode

variable {tree other : PackageTree} (partners : tree.root.Partners other.root)

include partners

theorem root_package?_eq : tree.rootPackage? = other.rootPackage? := by
  rw [rootPackage?, rootPackage?, has_multiple_roots_eq partners, root_path_eq partners]

theorem package_count_eq : tree.packageCount = other.packageCount := by
  have walks := paired_of_forall₂ (walk_partners partners [])
  rw [packageCount, packageCount, occupied, occupied, ← List.countP_eq_length_filter,
    ← List.countP_eq_length_filter]
  apply walks.countP_eq
  rintro ⟨path, node⟩ ⟨place, partner⟩ ⟨_, formed, partnerFormed, _, same⟩
  rw [(same.classes_perm formed partnerFormed).isEmpty_eq]

theorem root_warnings_eq (description : LibraryDescription) :
    rootWarnings description tree = rootWarnings description other := by
  rw [rootWarnings, rootWarnings, has_multiple_roots_eq partners, top_level_roots_eq partners]

theorem classes_eq {classes : List ClassDescriptor} (made : ofClasses classes = .ok tree)
    (apart : ToldApart classes) : tree.classes = other.classes := by
  have formed := well_formed_of_of_classes made
  rw [PackageTree.classes, PackageTree.classes, List.flatMap_def, List.flatMap_def]
  congr 1
  apply map_eq_of_forall₂
  refine forall₂_imp_of_mem ?_ (walk_partners partners [])
  rintro ⟨path, node⟩ inWalk ⟨place, partner⟩ _ ⟨_, nodeFormed, partnerFormed, _, same⟩
  obtain ⟨_, rfl, present⟩ := (mem_walk_iff formed [] path).1 inWalk
  have held (member : ClassDescriptor) (inNode : member ∈ node.classes) :
      member ∈ classes ∧ member.kind ≠ .synthetic ∧ member.package = path := by
    apply (mem_classes_at_of_classes made path member).1
    rw [classesAt, present]
    exact inNode
  apply sort_by_eq_of_perm (fun a _ b _ => a.listed_before_eq b) ?_
    (same.classes_perm nodeFormed partnerFormed)
  intro a aMember b bMember equal
  obtain ⟨aClass, aKept, aPlace⟩ := held a aMember
  obtain ⟨bClass, bKept, bPlace⟩ := held b bMember
  obtain ⟨sameName, sameHash⟩ := Prod.mk.inj (toLex.injective equal)
  exact apart a aClass b bClass aKept bKept (aPlace.trans bPlace.symm) sameName sameHash

end PackageTree

theorem PackageTree.of_classes_alike {classes others : List ClassDescriptor}
    (same : classes.Perm others) :
    EndAlike (fun tree other => tree.root.Partners other.root) (ofClasses classes)
      (ofClasses others) := by
  have together : (∃ tree, ofClasses classes = .ok tree) ↔ ∃ tree, ofClasses others = .ok tree := by
    simp only [of_classes_is_ok_iff, same.mem_iff]
  apply end_alike_of_exists _ fun other otherMade => together.2 ⟨other, otherMade⟩
  intro tree made
  obtain ⟨other, otherMade⟩ := together.1 ⟨tree, made⟩
  exact ⟨other, otherMade, partners_of_of_classes made otherMade fun _ _ => same.mem_iff⟩

/-- The fingerprints differ at most in the order of the classes of a package. -/
structure Fingerprint.Reordered (fingerprint other : Fingerprint) : Prop where
  description : fingerprint.description = other.description
  partners : fingerprint.packageTree.root.Partners other.packageTree.root
  hashTrees : fingerprint.hashTrees = other.hashTrees

theorem Fingerprint.Reordered.to_record_eq {fingerprint other : Fingerprint}
    (alike : fingerprint.Reordered other) {classes : List ClassDescriptor}
    (made : PackageTree.ofClasses classes = .ok fingerprint.packageTree)
    (apart : ToldApart classes) : fingerprint.toRecord = other.toRecord := by
  rw [toRecord, toRecord, PackageTree.classes_eq alike.partners made apart, alike.description,
    alike.hashTrees]

/-- Profiles that end in the same way, with fingerprints that are alike where they end with
fingerprints. -/
inductive Profile.Alike : Profile → Profile → Prop
  | malformed (fault other : MalformedPath) :
      Alike ⟨[], .error (.malformedPath fault)⟩ ⟨[], .error (.malformedPath other)⟩
  | empty (warnings : List String) (label : String) :
      Alike ⟨warnings, .error (.empty label)⟩ ⟨warnings, .error (.empty label)⟩
  | done {fingerprint other : Fingerprint} (warnings : List String)
      (alike : fingerprint.Reordered other) :
      Alike ⟨warnings, .ok fingerprint⟩ ⟨warnings, .ok other⟩

theorem profile_library_alike {classes others : List ClassDescriptor} (same : classes.Perm others)
    (description : LibraryDescription) (options : HashOptions) :
    (profileLibrary classes description options).Alike
      (profileLibrary others description options) := by
  have trees := PackageTree.of_classes_alike same
  rw [profileLibrary, profileLibrary]
  generalize PackageTree.ofClasses classes = made at trees ⊢
  generalize PackageTree.ofClasses others = otherMade at trees ⊢
  cases trees with
  | error fault other => exact .malformed fault other
  | ok partners =>
      dsimp only
      rw [PackageTree.root_warnings_eq partners description,
        PackageTree.hash_trees_eq partners options]
      split
      · exact .empty _ _
      · exact .done _ ⟨rfl, partners, rfl⟩

end LibraryDetection

import LibraryDetection.Proofs.Fingerprint.Consistency
import LibraryDetection.Proofs.Run.Profiling

/-!
# Fingerprints stored and loaded

A fingerprint that was profiled, or restored of a record, has a record that gives it again;
so does the file that it was saved to, wherever the file could be written.
-/

namespace LibraryDetection

set_option autoImplicit false

namespace Fingerprint

variable {fingerprint : Fingerprint}

/-- Where fingerprints come from: from profiling classes, or from a record.  The kinds of
the classes are known. -/
inductive Obtained (fingerprint : Fingerprint) : Prop
  | profiled {classes : List ClassDescriptor} {options : HashOptions}
      (origin : fingerprint.ProfiledFrom classes options)
      (made : ∀ member ∈ classes, member.Made)
      (known : ∀ member ∈ classes, member.kind ∈ ClassKind.all)
  | restored {record : FingerprintRecord} (origin : record.restore = .ok fingerprint)
      (known : ∀ stored ∈ record.classes, stored.kind ∈ ClassKind.all)

theorem Obtained.exists_classes (obtained : fingerprint.Obtained) :
    ∃ classes, PackageTree.ofClasses classes = .ok fingerprint.packageTree ∧
      (∀ member ∈ classes, member.Made) ∧ ∀ member ∈ classes, member.kind ∈ ClassKind.all := by
  cases obtained with
  | @profiled classes options origin made known =>
      exact ⟨classes, origin.of_classes_eq, made, known⟩
  | @restored record origin known =>
      obtain ⟨_, tree, grown, rfl⟩ := FingerprintRecord.restore_eq_ok_iff.1 origin
      refine ⟨record.classes.map StoredClass.rebuilt, grown, ?_, ?_⟩
      · intro member isClass
        obtain ⟨stored, _, rfl⟩ := List.mem_map.1 isClass
        exact ClassDescriptor.made_make _ _ _ _
      · intro member isClass
        obtain ⟨stored, isStored, rfl⟩ := List.mem_map.1 isClass
        exact known stored isStored

/-- The fingerprints tell the same library: the same hash trees node by node, and the same
classes at every path. -/
structure Alike (left right : Fingerprint) : Prop where
  description : left.description = right.description
  hashTrees : left.hashTrees = right.hashTrees
  classes : left.packageTree.root.SameClasses right.packageTree.root

theorem Obtained.exists_record (obtained : fingerprint.Obtained) :
    ∃ record restored, fingerprint.toRecord = .valid record ∧ record.restore = .ok restored ∧
      restored.Alike fingerprint := by
  obtain ⟨classes, grown, made, known⟩ := obtained.exists_classes
  have kinds : ∀ member ∈ fingerprint.packageTree.classes, member.kind ∈ ClassKind.all := by
    intro member listed
    exact known member ((PackageTree.mem_classes_of_classes grown member).1 listed).1
  have told := to_record_eq_valid_iff.2 ⟨kinds, rfl⟩
  obtain ⟨restored, restores, description, trees, partners⟩ := exists_restored grown made told
  exact ⟨_, restored, told, restores, description, trees, partners.2.2.2⟩

/-- The record of a fingerprint gives it again.  Where records are read back from their
texts, so does the file that it was saved to; it is saved wherever its file can be
written. -/
theorem round_trip_of_obtained (obtained : fingerprint.Obtained) :
    ∃ record restored, fingerprint.toRecord = .valid record ∧ record.restore = .ok restored ∧
      restored.Alike fingerprint ∧
      (FingerprintRecord.ofChars record.text.toList = .valid record →
        ∀ (files : FileTree) (profiles : FilePath), files.Ordered →
          ((∃ path, (files.saveFingerprint profiles fingerprint).1.result = .ok path) ↔
            files.Admits (fingerprint.description.fingerprintPath profiles)) ∧
          ∀ path, (files.saveFingerprint profiles fingerprint).1.result = .ok path →
            (files.saveFingerprint profiles fingerprint).2.readFingerprint path =
              .ok restored) := by
  obtain ⟨record, restored, told, restores, alike⟩ := obtained.exists_record
  refine ⟨record, restored, told, restores, alike, ?_⟩
  intro reread files profiles ordered
  refine ⟨FileTree.exists_saved_iff told, ?_⟩
  intro path saved
  exact FileTree.read_fingerprint_of_saved ordered told reread restores saved rfl

def codecNamed (name : String) : Fingerprint :=
  ⟨⟨name, "1", .unknown, none, none⟩, codecPackages ["a"], (codecPackages ["a"]).hashTrees {}⟩

theorem codec_named_profiled_from (name : String) :
    (codecNamed name).ProfiledFrom (codecIn [["a"]]) {} := by
  refine ⟨⟨name, "1", .unknown, none, none⟩, profile_library_eq_ok_iff.2 ?_⟩
  exact ⟨codecPackages ["a"], rfl, by decide, rfl⟩

theorem codec_named_obtained (name : String) : (codecNamed name).Obtained := by
  refine .profiled (codec_named_profiled_from name) ?_ ?_
  · intro member isClass
    rw [List.mem_singleton.1 isClass]
    exact ClassDescriptor.made_make _ _ _ _
  · intro member isClass
    rw [List.mem_singleton.1 isClass]
    decide

/-- The library is stored below an empty folder and loaded again. -/
theorem codec_round_trip :
    (codecNamed "codec").Obtained ∧
      ∃ path restored, restored.Alike (codecNamed "codec") ∧
        (FileTree.empty.saveFingerprint ⟨.relative, ["profiles"]⟩
          (codecNamed "codec")).1.result = .ok path ∧
        (FileTree.empty.saveFingerprint ⟨.relative, ["profiles"]⟩
          (codecNamed "codec")).2.readFingerprint path = .ok restored := by
  refine ⟨codec_named_obtained "codec", ?_⟩
  obtain ⟨record, restored, told, _, alike, files⟩ :=
    round_trip_of_obtained (codec_named_obtained "codec")
  have shallow : (codecNamed "codec").Shallow := by decide +kernel
  have reread := (of_chars_text_iff (codec_named_profiled_from "codec") (by decide +kernel) told).2
    shallow
  obtain ⟨saved, loaded⟩ := files reread FileTree.empty ⟨.relative, ["profiles"]⟩
    FileTree.ordered_empty
  have folders : (FileTree.empty.makeFolders ⟨.relative, ["profiles", "Unknown"]⟩).1 =
      .ok ⟨.folder [("profiles", .folder [("Unknown", .emptyFolder)])], []⟩ := rfl
  have stored : (codecNamed "codec").description.fingerprintPath ⟨.relative, ["profiles"]⟩ =
      ⟨.relative, ["profiles", "Unknown", "codec_1.lib"]⟩ := by
    decide +kernel
  have admitted : FileTree.empty.Admits
      ((codecNamed "codec").description.fingerprintPath ⟨.relative, ["profiles"]⟩) := by
    rw [stored]
    refine ⟨_, ["profiles", "Unknown", "codec_1.lib"], folders, by rfl, ?_⟩
    rintro ⟨entries, found⟩
    cases found
  obtain ⟨path, done⟩ := saved.2 admitted
  exact ⟨path, restored, alike, done, loaded path done⟩

theorem not_saved_of_long_name {record : FingerprintRecord}
    (told : fingerprint.toRecord = .valid record)
    (free : '/' ∉ fingerprint.description.fileName.toList)
    (long : FileTree.longestName < fingerprint.description.name.toList.length)
    (files : FileTree) (profiles path : FilePath) :
    (files.saveFingerprint profiles fingerprint).1.result ≠ .ok path := by
  intro saved
  have admitted := (FileTree.exists_saved_iff told).1 ⟨path, saved⟩
  have short := admitted.size_le _ (LibraryDescription.file_name_mem_fingerprint_path free profiles)
  have chars := Text.Utf8.length_le_size fingerprint.description.fileName
  rw [LibraryDescription.toList_file_name, List.length_append, List.length_map] at chars
  omega

theorem long_name_not_saved :
    (codecNamed (String.ofList (List.replicate 300 'a'))).Obtained ∧
      ∀ (files : FileTree) (profiles path : FilePath),
        (files.saveFingerprint profiles
          (codecNamed (String.ofList (List.replicate 300 'a')))).1.result ≠ .ok path := by
  have obtained := codec_named_obtained (String.ofList (List.replicate 300 'a'))
  obtain ⟨record, _, told, _⟩ := obtained.exists_record
  refine ⟨obtained, not_saved_of_long_name told ?_ ?_⟩
  · rw [LibraryDescription.toList_file_name, codecNamed, String.toList_ofList]
    decide
  · rw [codecNamed, String.toList_ofList, List.length_replicate]
    decide

end Fingerprint

end LibraryDetection

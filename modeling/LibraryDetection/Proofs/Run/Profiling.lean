import LibraryDetection.Proofs.Fingerprint.Nesting
import LibraryDetection.Proofs.Store.FilePath
import LibraryDetection.Proofs.Store.FileTree
import LibraryDetection.Run.Profiling
import Mathlib.Algebra.Group.Int.Defs

/-!
# Stored fingerprints

A run that stores a fingerprint has profiled the classes of the dump, and the file it wrote
gives the description and the hash trees of the fingerprint again.
-/

namespace LibraryDetection

set_option autoImplicit false

open LibraryDetection.Number

namespace HashNode

theorem Hashed.countable {node : HashNode} (hashed : node.Hashed)
    (small : node.classCount < 10 ^ digitLimit) : node.Countable := by
  induction node with
  | node segment nodeHash subtreeHash classHashes classCount children ih =>
      have nonneg := hashed.class_count_nonneg
      refine .node ?_ ?_
      · apply (Nat.length_toDigits_le_iff (by decide) (by decide)).2
        have size : ((classCount.natAbs : Nat) : Int) < ((10 ^ digitLimit : Nat) : Int) := by
          rw [Int.natCast_pow]
          simp only at small nonneg
          rw [Int.natAbs_of_nonneg nonneg]
          exact small
        exact Int.ofNat_lt.1 size
      · intro child member
        apply ih child member (hashed.within child member)
        have part := le_total_of_mem
          (fun other inside => (hashed.within other inside).class_count_nonneg) member
        have sum := hashed.class_count_eq
        simp only at small sum part
        omega

end HashNode

namespace Fingerprint

/-- Every hash tree was made of a package of some package tree, so that its hashes and counts
follow from what it holds. -/
def Genuine (fingerprint : Fingerprint) : Prop := ∀ tree ∈ fingerprint.hashTrees, tree.Built

variable {fingerprint : Fingerprint} {record : FingerprintRecord}

theorem Genuine.countable (genuine : fingerprint.Genuine)
    (small : fingerprint.classCount < 10 ^ digitLimit) :
    ∀ tree ∈ fingerprint.hashTrees, tree.root.Countable := by
  intro tree member
  have hashed := (genuine tree member).hashed_root
  apply hashed.countable
  have part : tree.classCount ≤ total HashTree.classCount fingerprint.hashTrees := by
    obtain ⟨front, back, same⟩ := List.append_of_mem member
    rw [same, total_append, total]
    have before : 0 ≤ total HashTree.classCount front := by
      apply total_nonneg
      intro other inFront
      have isTree : other ∈ fingerprint.hashTrees := by
        rw [same]
        exact List.mem_append_left _ inFront
      exact (genuine other isTree).hashed_root.class_count_nonneg
    have behind : 0 ≤ total HashTree.classCount back := by
      apply total_nonneg
      intro other inBack
      have isTree : other ∈ fingerprint.hashTrees := by
        rw [same]
        exact List.mem_append_right _ (List.mem_cons_of_mem tree inBack)
      exact (genuine other isTree).hashed_root.class_count_nonneg
    omega
  rw [Fingerprint.classCount] at small
  exact Int.lt_of_le_of_lt part small

theorem readable_of_to_record (genuine : fingerprint.Genuine)
    (small : fingerprint.classCount < 10 ^ digitLimit)
    (told : fingerprint.toRecord = .valid record) : record.Readable := by
  obtain ⟨known, rfl⟩ := to_record_eq_valid_iff.1 told
  constructor
  · intro stored member
    obtain ⟨descriptor, isClass, rfl⟩ := List.mem_map.1 member
    exact known descriptor isClass
  · exact genuine.countable small

/-- The record of a profiled fingerprint is read back from its text exactly if the fingerprint
is shallow. -/
theorem of_chars_text_iff {classes : List ClassDescriptor} {options : HashOptions}
    (profiled : fingerprint.ProfiledFrom classes options)
    (small : fingerprint.classCount < 10 ^ digitLimit)
    (told : fingerprint.toRecord = .valid record) :
    FingerprintRecord.ofChars record.text.toList = .valid record ↔ fingerprint.Shallow := by
  have readable := readable_of_to_record profiled.built small told
  rw [← profiled.levels_le_iff told, FingerprintRecord.of_chars_text readable]
  by_cases fits : record.toJson.levels ≤ Json.nestingLimit
  · simp [fits]
  · simp [fits, Validation.Checked.violates]

end Fingerprint

namespace FileTree

variable {files left : FileTree} {path : FilePath}

theorem save_fingerprint_eq_ok {profiles : FilePath} {fingerprint : Fingerprint}
    (saved : (files.saveFingerprint profiles fingerprint).1.result = .ok path)
    (leaves : (files.saveFingerprint profiles fingerprint).2 = left) :
    path = fingerprint.description.fingerprintPath profiles ∧
      ∃ ready record, (files.makeFolders path.parent).1 = .ok ready ∧
        fingerprint.toRecord = .valid record ∧
        ready.writeText path record.text = .ok left := by
  rw [saveFingerprint] at saved leaves
  split at saved
  · cases saved
  · rename_i ready other made
    rw [made] at leaves
    dsimp only at leaves
    split at saved
    · cases saved
    · rename_i record told
      rw [told] at leaves
      dsimp only at leaves
      split at saved
      · cases saved
      · rename_i written done
        rw [done] at leaves
        dsimp only at leaves
        have same : fingerprint.description.fingerprintPath profiles = path :=
          Except.ok.inj saved
        subst same leaves
        refine ⟨rfl, ready, record, ?_, told, done⟩
        rw [made]

theorem save_fingerprint_of_write_text {profiles : FilePath} {fingerprint : Fingerprint}
    {record : FingerprintRecord} {ready : FileTree}
    (folders : (files.makeFolders
      (fingerprint.description.fingerprintPath profiles).parent).1 = .ok ready)
    (told : fingerprint.toRecord = .valid record)
    (written : ready.writeText (fingerprint.description.fingerprintPath profiles) record.text =
      .ok left) :
    (files.saveFingerprint profiles fingerprint).1.result =
        .ok (fingerprint.description.fingerprintPath profiles) ∧
      (files.saveFingerprint profiles fingerprint).2 = left := by
  rw [saveFingerprint]
  generalize files.makeFolders _ = made at folders ⊢
  obtain ⟨_, behind⟩ := made
  cases folders
  dsimp only
  rw [told]
  dsimp only
  rw [written]
  exact ⟨rfl, rfl⟩

theorem exists_saved_iff {profiles : FilePath} {fingerprint : Fingerprint}
    {record : FingerprintRecord} (told : fingerprint.toRecord = .valid record) :
    (∃ path, (files.saveFingerprint profiles fingerprint).1.result = .ok path) ↔
      files.Admits (fingerprint.description.fingerprintPath profiles) := by
  constructor
  · rintro ⟨path, saved⟩
    obtain ⟨rfl, ready, _, folders, _, written⟩ := save_fingerprint_eq_ok saved rfl
    obtain ⟨place, located, free, _⟩ := write_bytes_eq_ok_iff.1 written
    exact ⟨ready, place, folders, located, free⟩
  · rintro ⟨ready, place, folders, located, free⟩
    have written : ready.writeText _ record.text = .ok _ :=
      write_bytes_eq_ok_iff.2 ⟨place, located, free, rfl⟩
    exact ⟨_, (save_fingerprint_of_write_text folders told written).1⟩

theorem read_fingerprint_eq_ok_iff {record : FingerprintRecord} {loaded : Fingerprint}
    (read : files.readBytes path = .ok (Text.Utf8.encode record.text)) :
    files.readFingerprint path = .ok loaded ↔
      ∃ told, FingerprintRecord.ofChars record.text.toList = .valid told ∧
        told.restore = .ok loaded := by
  rw [readFingerprint, read_chars_of_read_bytes record.return_not_mem_text read]
  dsimp only
  cases FingerprintRecord.ofChars record.text.toList with
  | invalid violations => simp
  | valid told => cases restored : told.restore <;> simp [restored]

theorem read_fingerprint_of_read_bytes {record : FingerprintRecord}
    (reread : FingerprintRecord.ofChars record.text.toList = .valid record)
    {restored : Fingerprint} (restores : record.restore = .ok restored)
    (read : files.readBytes path = .ok (Text.Utf8.encode record.text)) :
    files.readFingerprint path = .ok restored :=
  (read_fingerprint_eq_ok_iff read).2 ⟨record, reread, restores⟩

theorem exists_read_bytes_of_saved {profiles : FilePath} {fingerprint : Fingerprint}
    (ordered : files.Ordered)
    (saved : (files.saveFingerprint profiles fingerprint).1.result = .ok path) :
    ∃ record, fingerprint.toRecord = .valid record ∧
      (files.saveFingerprint profiles fingerprint).2.readBytes path =
        .ok (Text.Utf8.encode record.text) := by
  obtain ⟨rfl, ready, record, folders, told, written⟩ := save_fingerprint_eq_ok saved rfl
  exact ⟨record, told, read_bytes_write_bytes (ordered.make_folders folders)
    (LibraryDescription.names_fingerprint_path profiles _) written⟩

theorem read_fingerprint_of_saved {profiles : FilePath} {fingerprint restored : Fingerprint}
    {record : FingerprintRecord} (ordered : files.Ordered)
    (told : fingerprint.toRecord = .valid record)
    (reread : FingerprintRecord.ofChars record.text.toList = .valid record)
    (restores : record.restore = .ok restored)
    (saved : (files.saveFingerprint profiles fingerprint).1.result = .ok path)
    (leaves : (files.saveFingerprint profiles fingerprint).2 = left) :
    left.readFingerprint path = .ok restored := by
  obtain ⟨same, toldAgain, bytes⟩ := exists_read_bytes_of_saved ordered saved
  rw [told] at toldAgain
  cases toldAgain
  exact read_fingerprint_of_read_bytes reread restores (leaves ▸ bytes)

/-- The file at the path is that of the fingerprint.  It is read exactly if the fingerprint is
shallow, and then gives the description and the hash trees again. -/
structure Holds (files : FileTree) (path : FilePath) (fingerprint : Fingerprint) : Prop where
  loads_iff : (∃ loaded, files.readFingerprint path = .ok loaded) ↔ fingerprint.Shallow
  same : ∀ loaded, files.readFingerprint path = .ok loaded →
    loaded.description = fingerprint.description ∧ loaded.hashTrees = fingerprint.hashTrees

theorem Holds.exists_loaded {fingerprint : Fingerprint} (holds : files.Holds path fingerprint)
    (shallow : fingerprint.Shallow) :
    ∃ loaded, files.readFingerprint path = .ok loaded ∧
      loaded.description = fingerprint.description ∧
      loaded.hashTrees = fingerprint.hashTrees := by
  obtain ⟨loaded, read⟩ := holds.loads_iff.2 shallow
  exact ⟨loaded, read, holds.same loaded read⟩

theorem holds_of_read_bytes {fingerprint : Fingerprint} {record : FingerprintRecord}
    {classes : List ClassDescriptor} {options : HashOptions}
    (profiled : fingerprint.ProfiledFrom classes options)
    (made : ∀ member ∈ classes, member.Made)
    (small : fingerprint.classCount < 10 ^ digitLimit)
    (told : fingerprint.toRecord = .valid record)
    (read : files.readBytes path = .ok (Text.Utf8.encode record.text)) :
    files.Holds path fingerprint := by
  have readable := Fingerprint.readable_of_to_record profiled.built small told
  have loads : ∀ loaded, files.readFingerprint path = .ok loaded ↔
      fingerprint.Shallow ∧ record.restore = .ok loaded := by
    intro loaded
    rw [read_fingerprint_eq_ok_iff read, ← Fingerprint.of_chars_text_iff profiled small told]
    constructor
    · rintro ⟨other, reread, restores⟩
      cases FingerprintRecord.eq_of_of_chars_text readable reread
      exact ⟨reread, restores⟩
    · rintro ⟨reread, restores⟩
      exact ⟨record, reread, restores⟩
  obtain ⟨restored, restores, same⟩ := Fingerprint.exists_restore profiled made told
  constructor
  · constructor
    · rintro ⟨loaded, read⟩
      exact ((loads loaded).1 read).1
    · intro shallow
      exact ⟨restored, (loads restored).2 ⟨shallow, restores⟩⟩
  · intro loaded read
    have again := ((loads loaded).1 read).2
    rw [restores] at again
    cases again
    exact same

section Runs

variable {options : DetectionOptions} {artifact : Artifact} {library : ReadLibrary}
  {fingerprint : Fingerprint} {warnings : List String}

theorem result_load_class_dump (path : FilePath) :
    (files.loadClassDump path).result = (files.readClassDump path).mapError .dump := by
  rw [loadClassDump, Logged.result_bind]
  cases files.readClassDump path <;> rfl

theorem load_class_dump_eq_ok_iff {classes : List DumpedClass} :
    (files.loadClassDump path).result = .ok classes ↔ files.readClassDump path = .ok classes := by
  rw [result_load_class_dump]
  cases files.readClassDump path <;> simp [Except.mapError]

theorem assess_profile_eq_ready {profile : Profile} {read : ReadLibrary}
    (done : (assessProfile read profile).result = .ok (.ready library fingerprint warnings)) :
    profile.result = .ok fingerprint ∧ library = read := by
  rw [assessProfile] at done
  split at done
  · rename_i found result
    cases done
    exact ⟨result, rfl⟩
  · cases done
  · cases done

theorem assess_eq_ready
    (done : (files.assess options artifact).result = .ok (.ready library fingerprint warnings)) :
    ∃ classes, files.readClassDump (FilePath.ofText artifact.dump) = .ok classes ∧
      (profileLibrary (classes.map (·.toDescriptor options.members)) library.description
        options.hash).result = .ok fingerprint := by
  rw [assess] at done
  dsimp only at done
  obtain ⟨description, _, done⟩ := Logged.bind_eq_ok done
  obtain ⟨_, _, done⟩ := Logged.bind_eq_ok done
  obtain ⟨_, _, done⟩ := Logged.bind_eq_ok done
  obtain ⟨classes, loaded, done⟩ := Logged.bind_eq_ok done
  obtain ⟨_, _, done⟩ := Logged.bind_eq_ok done
  obtain ⟨result, rfl⟩ := assess_profile_eq_ready done
  exact ⟨classes, load_class_dump_eq_ok_iff.1 loaded, result⟩

theorem result_assess :
    (files.assess options artifact).result =
      match files.readMetadata (FilePath.ofText artifact.metadata) with
      | .error error => .error (.metadata error)
      | .ok description =>
          match files.readClassDump (FilePath.ofText artifact.dump) with
          | .error error => .error (.dump error)
          | .ok classes =>
              (assessProfile ⟨description, DumpStatistics.ofClasses classes⟩
                (profileLibrary (classes.map (·.toDescriptor options.members)) description
                  options.hash)).result := by
  rw [assess]
  dsimp only
  cases files.readMetadata (FilePath.ofText artifact.metadata) with
  | error error => rfl
  | ok description =>
      rw [Logged.result_bind]
      change (files.loadClassDump _ >>= _).result = _
      rw [Logged.result_bind, result_load_class_dump]
      cases files.readClassDump (FilePath.ofText artifact.dump) with
      | error error => rfl
      | ok classes => rfl

theorem profile_artifact_of_assess_error {profiles : FilePath} {failure : RunFailure}
    (failed : (files.assess options artifact).result = .error failure) :
    (files.profileArtifact profiles options artifact).1.result = .error failure ∧
      (files.profileArtifact profiles options artifact).2 = files := by
  rw [profileArtifact]
  dsimp only
  rw [failed]
  exact ⟨rfl, rfl⟩

theorem profile_artifact_of_empty {profiles : FilePath} {reason : String}
    (empty : (files.assess options artifact).result = .ok (.empty library reason)) :
    (files.profileArtifact profiles options artifact).1.result =
        .ok ⟨artifact.dump, .skipped library reason⟩ ∧
      (files.profileArtifact profiles options artifact).2 = files := by
  rw [profileArtifact]
  dsimp only
  rw [empty]
  exact ⟨rfl, rfl⟩

theorem profile_artifact_of_ready {profiles : FilePath}
    (ready : (files.assess options artifact).result = .ok (.ready library fingerprint warnings)) :
    ((files.profileArtifact profiles options artifact).1.result =
        (files.saveFingerprint profiles fingerprint).1.result.map fun path =>
          ⟨artifact.dump, .stored library fingerprint path warnings⟩) ∧
      (files.profileArtifact profiles options artifact).2 =
        (files.saveFingerprint profiles fingerprint).2 := by
  rw [profileArtifact]
  dsimp only
  rw [ready]
  refine ⟨?_, rfl⟩
  change (files.assess options artifact >>= _).result = _
  rw [Logged.result_bind, ready]
  change ((files.saveFingerprint profiles fingerprint).1 >>= _).result = _
  rw [Logged.result_bind]
  cases (files.saveFingerprint profiles fingerprint).1.result <;> rfl

/-- The courses of a run over a library, each with its result and the files that it leaves. -/
inductive ProfilingCourse (files : FileTree) (profiles : FilePath) (options : DetectionOptions)
    (artifact : Artifact) : Except RunFailure ProfileReport → FileTree → Prop
  | unassessed {failure : RunFailure}
      (failed : (files.assess options artifact).result = .error failure) :
      ProfilingCourse files profiles options artifact (.error failure) files
  | skipped {library : ReadLibrary} {reason : String}
      (empty : (files.assess options artifact).result = .ok (.empty library reason)) :
      ProfilingCourse files profiles options artifact
        (.ok ⟨artifact.dump, .skipped library reason⟩) files
  | unsaved {library : ReadLibrary} {fingerprint : Fingerprint} {warnings : List String}
      {failure : RunFailure}
      (ready : (files.assess options artifact).result =
        .ok (.ready library fingerprint warnings))
      (failed : (files.saveFingerprint profiles fingerprint).1.result = .error failure) :
      ProfilingCourse files profiles options artifact (.error failure)
        (files.saveFingerprint profiles fingerprint).2
  | stored {library : ReadLibrary} {fingerprint : Fingerprint} {warnings : List String}
      {path : FilePath}
      (ready : (files.assess options artifact).result =
        .ok (.ready library fingerprint warnings))
      (saved : (files.saveFingerprint profiles fingerprint).1.result = .ok path) :
      ProfilingCourse files profiles options artifact
        (.ok ⟨artifact.dump, .stored library fingerprint path warnings⟩)
        (files.saveFingerprint profiles fingerprint).2

theorem course_of_profile_artifact (files : FileTree) (profiles : FilePath)
    (options : DetectionOptions) (artifact : Artifact) :
    files.ProfilingCourse profiles options artifact
      (files.profileArtifact profiles options artifact).1.result
      (files.profileArtifact profiles options artifact).2 := by
  cases assessed : (files.assess options artifact).result with
  | error failure =>
      obtain ⟨result, left⟩ := @profile_artifact_of_assess_error _ _ _ profiles _ assessed
      rw [result, left]
      exact .unassessed assessed
  | ok assessment =>
      cases assessment with
      | empty library reason =>
          obtain ⟨result, left⟩ := @profile_artifact_of_empty _ _ _ _ profiles _ assessed
          rw [result, left]
          exact .skipped assessed
      | ready library fingerprint warnings =>
          obtain ⟨result, left⟩ := @profile_artifact_of_ready _ _ _ _ _ _ profiles assessed
          rw [result, left]
          cases saved : (files.saveFingerprint profiles fingerprint).1.result with
          | error failure => exact .unsaved assessed saved
          | ok path => exact .stored assessed saved

theorem profile_artifact_eq_ok {profiles : FilePath} {report : ProfileReport}
    (done : (files.profileArtifact profiles options artifact).1.result = .ok report)
    (kept : report.isSkipped = false) :
    ∃ library fingerprint path warnings,
      report = ⟨artifact.dump, .stored library fingerprint path warnings⟩ ∧
      (files.assess options artifact).result = .ok (.ready library fingerprint warnings) ∧
      (files.saveFingerprint profiles fingerprint).1.result = .ok path ∧
      (files.saveFingerprint profiles fingerprint).2 =
        (files.profileArtifact profiles options artifact).2 := by
  have course := course_of_profile_artifact files profiles options artifact
  rw [done] at course
  generalize (files.profileArtifact profiles options artifact).2 = left at course ⊢
  cases course with
  | skipped empty => cases kept
  | stored ready saved => exact ⟨_, _, _, _, rfl, ready, saved, rfl⟩

theorem profile_artifact_of_saved {profiles : FilePath} {description : LibraryDescription}
    {classes : List DumpedClass} {path : FilePath}
    (metadata : files.readMetadata (FilePath.ofText artifact.metadata) = .ok description)
    (dump : files.readClassDump (FilePath.ofText artifact.dump) = .ok classes)
    (profiled : (profileLibrary (classes.map (·.toDescriptor options.members)) description
      options.hash).result = .ok fingerprint)
    (saved : (files.saveFingerprint profiles fingerprint).1.result = .ok path) :
    ∃ warnings, (files.profileArtifact profiles options artifact).1.result =
      .ok ⟨artifact.dump, .stored ⟨description, DumpStatistics.ofClasses classes⟩ fingerprint path
        warnings⟩ := by
  have ready : (files.assess options artifact).result =
      .ok (.ready ⟨description, DumpStatistics.ofClasses classes⟩ fingerprint
        (profileLibrary (classes.map (·.toDescriptor options.members)) description
          options.hash).warnings) := by
    rw [result_assess, metadata]
    dsimp only
    rw [dump]
    dsimp only
    rw [assessProfile, profiled]
    rfl
  have stored := (@profile_artifact_of_ready files options artifact _ _ _ profiles ready).1
  rw [saved] at stored
  exact ⟨_, stored⟩

theorem exists_holds_of_stored {profiles : String} {report : ProfileReport}
    (ordered : files.Ordered)
    (done : (files.profileArtifact (FilePath.ofText profiles) options artifact).1.result =
      .ok report)
    (kept : report.isSkipped = false) (small : report.classCount < 10 ^ digitLimit) :
    ∃ classes fingerprint path,
      files.readClassDump (FilePath.ofText artifact.dump) = .ok classes ∧
      fingerprint.ProfiledFrom (classes.map (·.toDescriptor options.members)) options.hash ∧
      report.outcome.fingerprint? = some fingerprint ∧
      report.outcome.library?.map (·.description) = some fingerprint.description ∧
      report.outcome.path? = some path ∧
      (files.profileArtifact (FilePath.ofText profiles) options artifact).2.Holds
        (FilePath.ofText path.text) fingerprint := by
  obtain ⟨read, fingerprint, path, warnings, rfl, ready, saved, left⟩ :=
    profile_artifact_eq_ok done kept
  obtain ⟨classes, dump, result⟩ := assess_eq_ready ready
  have profiled : fingerprint.ProfiledFrom (classes.map (·.toDescriptor options.members))
      options.hash := ⟨read.description, result⟩
  have described : read.description = fingerprint.description := by
    obtain ⟨tree, _, _, rfl⟩ := profile_library_eq_ok_iff.1 result
    rfl
  have made : ∀ member ∈ classes.map (·.toDescriptor options.members), member.Made := by
    intro member isClass
    obtain ⟨dumped, _, rfl⟩ := List.mem_map.1 isClass
    exact ClassDescriptor.made_make _ _ _ _
  obtain ⟨record, told, bytes⟩ := exists_read_bytes_of_saved ordered saved
  rw [left] at bytes
  have samePath : FilePath.ofText path.text = path := by
    obtain ⟨rfl, _⟩ := save_fingerprint_eq_ok saved left
    apply FilePath.of_text_text
    apply LibraryDescription.proper_fingerprint_path
    exact FilePath.proper_of_text profiles
  refine ⟨classes, fingerprint, path, dump, profiled, rfl, congrArg some described, rfl, ?_⟩
  rw [samePath]
  exact holds_of_read_bytes profiled made small told bytes

end Runs

end FileTree

end LibraryDetection

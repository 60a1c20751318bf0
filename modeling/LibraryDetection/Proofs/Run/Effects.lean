import LibraryDetection.Proofs.Fingerprint.Outcome
import LibraryDetection.Proofs.Run.Detection
import LibraryDetection.Proofs.Run.ProfileIsolation
import LibraryDetection.Proofs.Store.Saving

/-!
# What a run does to the files

A run that skips a library, or fails in a way that a batch survives, leaves the files as they
were.  A run that stores a fingerprint writes the file of its record, makes the folders above
it that are missing, and changes nothing else.
-/

namespace LibraryDetection

set_option autoImplicit false

open LibraryDetection.Number LibraryDetection.Text

namespace FileTree

variable {files left : FileTree} {options : DetectionOptions} {artifact : Artifact}

theorem exists_writes_of_saved {profiles path : FilePath} {fingerprint : Fingerprint}
    (standing : files.Standing)
    (saved : (files.saveFingerprint profiles fingerprint).1.result = .ok path)
    (leaves : (files.saveFingerprint profiles fingerprint).2 = left) :
    path = fingerprint.description.fingerprintPath profiles ∧
      ∃ record place, fingerprint.toRecord = .valid record ∧
        files.Writes path (Text.Utf8.encode record.text) left place := by
  obtain ⟨rfl, ready, record, folders, told, written⟩ := save_fingerprint_eq_ok saved leaves
  have named := LibraryDescription.names_fingerprint_path profiles fingerprint.description
  obtain ⟨place, writes⟩ := exists_writes standing named folders written
  exact ⟨rfl, record, place, told, writes⟩

theorem files_of_skipped {profiles : FilePath} {report : ProfileReport}
    (done : (files.profileArtifact profiles options artifact).1.result = .ok report)
    (skipped : report.isSkipped = true) :
    (files.profileArtifact profiles options artifact).2 = files := by
  have course := course_of_profile_artifact files profiles options artifact
  rw [done] at course
  generalize (files.profileArtifact profiles options artifact).2 = left at course ⊢
  cases course with
  | skipped empty => rfl
  | stored ready saved => cases skipped

/-- The report tells a fingerprint that was stored, and the file at its path is all that was
written. -/
structure StoredAs (before after : FileTree) (report : ProfileReport) (fingerprint : Fingerprint)
    (path : FilePath) : Prop where
  told : report.outcome.fingerprint? = some fingerprint
  placed : report.outcome.path? = some path
  writes : ∃ record place, fingerprint.toRecord = .valid record ∧
    before.Writes path (Text.Utf8.encode record.text) after place

theorem exists_stored_as (standing : files.Standing) {profiles : FilePath} {report : ProfileReport}
    (done : (files.profileArtifact profiles options artifact).1.result = .ok report)
    (kept : report.isSkipped = false) :
    ∃ fingerprint path, files.StoredAs (files.profileArtifact profiles options artifact).2 report
      fingerprint path := by
  obtain ⟨read, fingerprint, path, warnings, rfl, _, saved, leaves⟩ :=
    profile_artifact_eq_ok done kept
  exact ⟨fingerprint, path, rfl, rfl, (exists_writes_of_saved standing saved leaves).2⟩

/-- The fingerprint at the path is read with the numbers of the report. -/
def LoadsAs (tree : FileTree) (path : FilePath) (report : ProfileReport) : Prop :=
  ∃ loaded, tree.readFingerprint (FilePath.ofText path.text) = .ok loaded ∧
    loaded.classCount = report.classCount ∧ loaded.hashTrees.length = report.treeCount

/-- The dump of the library has fewer bytes than the first number that is too long for a
record. -/
def HoldsShortDump (files : FileTree) (artifact : Artifact) : Prop :=
  ∀ bytes, files.readBytes (FilePath.ofText artifact.dump) = .ok bytes →
    bytes.length < 10 ^ digitLimit

theorem HoldsShortDump.class_count_lt (short : files.HoldsShortDump artifact)
    {profiles : FilePath} {report : ProfileReport}
    (done : (files.profileArtifact profiles options artifact).1.result = .ok report)
    (kept : report.isSkipped = false) : report.classCount < 10 ^ digitLimit := by
  obtain ⟨read, fingerprint, path, warnings, rfl, ready, _, _⟩ := profile_artifact_eq_ok done kept
  obtain ⟨classes, dump, result⟩ := assess_eq_ready ready
  obtain ⟨bytes, held, fewer⟩ := exists_length_le_of_read_class_dump dump
  have size : ((bytes.length : Nat) : Int) < ((10 ^ digitLimit : Nat) : Int) :=
    Int.ofNat_lt.2 (short bytes held)
  have profiled : fingerprint.ProfiledFrom (classes.map (·.toDescriptor options.members))
      options.hash := ⟨read.description, result⟩
  have atMost := profiled.class_count_le
  rw [List.length_map] at atMost
  rw [Int.natCast_pow] at size
  calc fingerprint.classCount ≤ classes.length := atMost
    _ ≤ bytes.length := Int.ofNat_le.2 fewer
    _ < 10 ^ digitLimit := size

theorem loads_as_iff_shallow (standing : files.Standing) (short : files.HoldsShortDump artifact)
    {profiles : String} {report : ProfileReport} {fingerprint : Fingerprint} {path : FilePath}
    (done : (files.profileArtifact (FilePath.ofText profiles) options artifact).1.result =
      .ok report)
    (kept : report.isSkipped = false)
    (stored : files.StoredAs
      (files.profileArtifact (FilePath.ofText profiles) options artifact).2 report fingerprint
        path) :
    (files.profileArtifact (FilePath.ofText profiles) options artifact).2.LoadsAs path report ↔
      fingerprint.Shallow := by
  have small := short.class_count_lt done kept
  obtain ⟨_, again, same, _, _, told, _, placed, holds⟩ :=
    exists_holds_of_stored standing.ordered done kept small
  rw [stored.told] at told
  rw [stored.placed] at placed
  cases told
  cases placed
  rw [← holds.loads_iff]
  constructor
  · rintro ⟨loaded, read, _⟩
    exact ⟨loaded, read⟩
  · rintro ⟨loaded, read⟩
    obtain ⟨_, sameTrees⟩ := holds.same loaded read
    refine ⟨loaded, read, ?_, ?_⟩
    · rw [Fingerprint.classCount, sameTrees, ProfileReport.classCount, stored.told]
      rfl
    · rw [sameTrees, ProfileReport.treeCount, stored.told]
      rfl

/-- A run writes all or nothing.  What it has written is read back if no hash tree is taller
than a record may be, and else it is not. -/
theorem profile_artifact_effects (standing : files.Standing) (options : DetectionOptions)
    (profiles : String) (artifact : Artifact) :
    (∀ failure,
      (files.profileArtifact (FilePath.ofText profiles) options artifact).1.result =
        .error failure → failure.isReported = true →
      (files.profileArtifact (FilePath.ofText profiles) options artifact).2 = files) ∧
    ∀ report,
      (files.profileArtifact (FilePath.ofText profiles) options artifact).1.result =
        .ok report →
      (report.isSkipped = true →
        (files.profileArtifact (FilePath.ofText profiles) options artifact).2 = files) ∧
      (report.isSkipped = false → ∃ fingerprint path,
        files.StoredAs (files.profileArtifact (FilePath.ofText profiles) options artifact).2
          report fingerprint path ∧
        (files.HoldsShortDump artifact →
          ((files.profileArtifact (FilePath.ofText profiles) options artifact).2.LoadsAs path
            report ↔ fingerprint.Shallow))) := by
  constructor
  · intro failure failed reported
    exact files_of_reported failed reported
  · intro report done
    constructor
    · exact files_of_skipped done
    · intro kept
      obtain ⟨fingerprint, path, stored⟩ := exists_stored_as standing done kept
      refine ⟨fingerprint, path, stored, ?_⟩
      intro short
      exact loads_as_iff_shallow standing short done kept stored

theorem standing_codec_files : codecFiles.Standing := ⟨ordered_codec_files, _, rfl⟩

theorem short_codec_dump : codecFiles.HoldsShortDump codecArtifact := by
  have short : (codecFiles.readBytes (FilePath.ofText codecArtifact.dump)).toOption.map
      (fun bytes => decide (bytes.length < 10 ^ 2)) = some true := by
    decide +kernel
  intro bytes read
  rw [read] at short
  have few : bytes.length < 10 ^ 2 := of_decide_eq_true (Option.some.inj short)
  exact few.trans_le (Nat.pow_le_pow_right (by decide) (by decide))

theorem codec_profile_artifact_effects :
    ∃ report fingerprint path,
      (codecFiles.profileArtifact (FilePath.ofText "profiles") {} codecArtifact).1.result =
        .ok report ∧
      report.isSkipped = false ∧
      codecFiles.StoredAs
        (codecFiles.profileArtifact (FilePath.ofText "profiles") {} codecArtifact).2 report
          fingerprint path ∧
      (codecFiles.profileArtifact (FilePath.ofText "profiles") {} codecArtifact).2.LoadsAs path
        report := by
  obtain ⟨report, profiled, done, kept, _, told, _, shallow⟩ := exists_codec_report
  have effects := profile_artifact_effects standing_codec_files {} "profiles" codecArtifact
  obtain ⟨fingerprint, path, stored, loads⟩ := (effects.2 report done).2 kept
  have same := stored.told
  rw [told] at same
  cases same
  exact ⟨report, profiled, path, done, kept, stored, (loads short_codec_dump).2 shallow⟩

def towerPackages : List String := List.replicate 106 "a"

def towerName : String := join "." (towerPackages ++ ["Coder"])

def towerNames : List String := ["a.Codec", towerName]

def towerFiles : FileTree :=
  ⟨.folder [("classes.json", namedDump towerNames),
    ("library.xml", .file (Utf8.encode
      "<library><name>codec</name><version>1</version></library>"))], []⟩

theorem tower_pieces_plain : ∀ piece ∈ towerPackages ++ ["Coder"],
    '.' ∉ piece.toList ∧ '/' ∉ piece.toList := by
  intro piece member
  rcases List.mem_append.1 member with inTower | atTop
  · rw [List.eq_of_mem_replicate inTower]
    decide
  · rw [List.mem_singleton.1 atTop]
    decide

theorem split_tower_name : split '.' towerName = towerPackages ++ ["Coder"] :=
  split_join_of_not_mem (by simp) fun piece member => (tower_pieces_plain piece member).1

theorem plain_tower_names : ∀ name ∈ towerNames,
    name ≠ "" ∧ '/' ∉ name.toList ∧ ClassKind.ofName name = .topLevel := by
  have kind : ClassKind.ofName towerName = .topLevel := by
    have simple : afterLast '.' towerName = "Coder" := by
      rw [afterLast, split_tower_name]
      rfl
    rw [ClassKind.ofName, simple]
    decide
  have some : towerName ≠ "" := by
    intro same
    have pieces := congrArg List.length split_tower_name
    rw [same] at pieces
    exact absurd pieces (by decide)
  have noSlash : '/' ∉ towerName.toList := by
    intro member
    rw [towerName, join, String.toList_intercalate] at member
    rcases @mem_intercalate '.' _ _ member with dot | ⟨piece, isPiece, inPiece⟩
    · cases dot
    · obtain ⟨text, isText, rfl⟩ := List.mem_map.1 isPiece
      exact (tower_pieces_plain text isText).2 inPiece
  intro name member
  simp only [towerNames, List.mem_cons, List.not_mem_nil, or_false] at member
  rcases member with rfl | rfl
  · decide +kernel
  · exact ⟨some, noSlash, kind⟩
theorem exists_tower_report :
    ∃ report stored,
      (towerFiles.profileArtifact (FilePath.ofText "profiles") {} codecArtifact).1.result =
        .ok report ∧
      report.isSkipped = false ∧ report.classCount = 2 ∧
      report.outcome.fingerprint? = some stored ∧ ¬ stored.Shallow := by
  have located : towerFiles.locate (FilePath.ofText codecArtifact.dump) = .ok ["classes.json"] := by
    rfl
  have dump := read_class_dump_of_holds_records (holds_records_of_named_dump located rfl)
    (all_of_json_named_records plain_tower_names 0)
  obtain ⟨report, stored, done, kept, told, count, seen⟩ := @exists_named_report towerFiles
    towerNames _ (fun stored => (stored.classCount, decide stored.Shallow)) (2, false) rfl dump
    (by decide +kernel)
  obtain ⟨two, deep⟩ := Prod.mk.inj seen
  exact ⟨report, stored, done, kept, count.trans two, told, of_decide_eq_false deep⟩

theorem ordered_tower_files : towerFiles.Ordered := by
  apply FileEntry.Ordered.folder
  · decide
  · intro entry member
    simp only [List.mem_cons, List.not_mem_nil, or_false] at member
    rcases member with rfl | rfl <;> exact .file _

theorem tower_stored_but_not_loaded :
    towerFiles.Standing ∧
      ∃ report path,
        (towerFiles.profileArtifact (FilePath.ofText "profiles") {} codecArtifact).1.result =
          .ok report ∧
        report.isSkipped = false ∧ report.outcome.path? = some path ∧
        ∀ loaded, (towerFiles.profileArtifact (FilePath.ofText "profiles") {}
          codecArtifact).2.readFingerprint (FilePath.ofText path.text) ≠ .ok loaded := by
  refine ⟨⟨ordered_tower_files, _, rfl⟩, ?_⟩
  obtain ⟨report, stored, done, kept, count, told, deep⟩ := exists_tower_report
  have small : report.classCount < 10 ^ digitLimit := by
    rw [count]
    decide +kernel
  obtain ⟨_, again, path, _, _, toldAgain, _, written, holds⟩ :=
    exists_holds_of_stored ordered_tower_files done kept small
  rw [told] at toldAgain
  cases toldAgain
  refine ⟨report, path, done, kept, written, ?_⟩
  intro loaded read
  exact deep (holds.loads_iff.1 ⟨loaded, read⟩)

end FileTree

end LibraryDetection

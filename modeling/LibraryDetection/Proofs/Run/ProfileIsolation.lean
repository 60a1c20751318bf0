import LibraryDetection.Proofs.ClassDump.File
import LibraryDetection.Proofs.Library.Metadata
import LibraryDetection.Proofs.Run.Corpus

/-!
# Batches of libraries in which some fail

A run over a library fails in a way that a batch puts into its report, or in one of a few
ways that stop the batch.  A batch that is not stopped has a report for each library, and a
library that failed has left no trace in the other reports and in the files.
-/

namespace LibraryDetection

set_option autoImplicit false

namespace FileTree

variable {files tree : FileTree} {profiles : FilePath} {options : DetectionOptions}
  {artifact : Artifact} {before after artifacts : List Artifact} {failure : RunFailure}

theorem failure_of_assess_profile {library : ReadLibrary} {profile : Profile}
    (failed : (assessProfile library profile).result = .error failure) :
    failure.isReported = true := by
  rw [assessProfile] at failed
  split at failed
  · cases failed
  · cases failed
  · cases failed
    rfl

/-- The class dump of a library that is ready holds classes of the six kinds, so that there
is a record of its fingerprint. -/
theorem exists_to_record_of_ready {library : ReadLibrary} {fingerprint : Fingerprint}
    {warnings : List String}
    (ready : (files.assess options artifact).result = .ok (.ready library fingerprint warnings)) :
    ∃ record, fingerprint.toRecord = .valid record := by
  obtain ⟨classes, read, result⟩ := assess_eq_ready ready
  have profiled : fingerprint.ProfiledFrom (classes.map (·.toDescriptor options.members))
      options.hash := ⟨library.description, result⟩
  refine ⟨_, Fingerprint.to_record_eq_valid_iff.2 ⟨?_, rfl⟩⟩
  intro member listed
  have isClass := ((PackageTree.mem_classes_of_classes profiled.of_classes_eq member).1 listed).1
  obtain ⟨dumped, inDump, rfl⟩ := List.mem_map.1 isClass
  exact kind_mem_all_of_read_class_dump read dumped inDump

theorem failure_of_save_fingerprint {fingerprint : Fingerprint} {record : FingerprintRecord}
    (told : fingerprint.toRecord = .valid record)
    (failed : (files.saveFingerprint profiles fingerprint).1.result = .error failure) :
    ∃ error, failure = .access error := by
  rw [saveFingerprint] at failed
  split at failed
  · cases failed
    exact ⟨_, rfl⟩
  · rw [told] at failed
    dsimp only at failed
    split at failed
    · cases failed
      exact ⟨_, rfl⟩
    · cases failed

inductive Stops (files : FileTree) (profiles : FilePath) (options : DetectionOptions)
    (artifact : Artifact) : Prop
  | metadataPath (null : hasNull (FilePath.ofText artifact.metadata) = true)
  /-- The metadata file is not UTF-8. -/
  | undecodable {fault : Text.Utf8.Fault}
      (undecoded : files.readChars (FilePath.ofText artifact.metadata) = .error (.encoding fault))
  /-- A number of the release date has too many digits, digits without a value, or is too
  large for a date. -/
  | dateNumber {fault : ReleaseDate.Fault}
      (unread : files.readMetadata (FilePath.ofText artifact.metadata) =
        .error (.badDateNumber fault))
  | dumpPath {description : LibraryDescription}
      (described : files.readMetadata (FilePath.ofText artifact.metadata) = .ok description)
      (null : hasNull (FilePath.ofText artifact.dump) = true)
  | dumpNumber {description : LibraryDescription} {account : String}
      (described : files.readMetadata (FilePath.ofText artifact.metadata) = .ok description)
      (huge : files.readClassDump (FilePath.ofText artifact.dump) = .error (.hugeNumber account))
  /-- The file of the fingerprint cannot be written. -/
  | unwritable {library : ReadLibrary} {fingerprint : Fingerprint} {warnings : List String}
      (ready : (files.assess options artifact).result = .ok (.ready library fingerprint warnings))
      (refused : ¬ files.Admits (fingerprint.description.fingerprintPath profiles))

theorem stops_of_metadata {error : MetadataError}
    (failed : files.readMetadata (FilePath.ofText artifact.metadata) = .error error)
    (grave : error.isReported = false) : files.Stops profiles options artifact := by
  cases error with
  | badDateNumber fault => exact .dateNumber failed
  | access reason =>
      rw [readMetadata] at failed
      cases read : files.readChars (FilePath.ofText artifact.metadata) with
      | ok chars =>
          rw [read] at failed
          exact absurd failed (LibraryDescription.of_xml_ne_access _ _ reason)
      | error fault =>
          cases fault with
          | file error => simp [read] at failed
          | nullCharacter => exact .metadataPath (read_chars_eq_null_character_iff.1 read)
          | encoding fault => exact .undecodable read
  | _ => cases grave

theorem stops_of_assess_error
    (failed : (files.assess options artifact).result = .error failure)
    (grave : failure.isReported = false) : files.Stops profiles options artifact := by
  rw [result_assess] at failed
  cases metadata : files.readMetadata (FilePath.ofText artifact.metadata) with
  | error error =>
      simp only [metadata, Except.error.injEq] at failed
      subst failed
      exact stops_of_metadata metadata grave
  | ok description =>
      cases dump : files.readClassDump (FilePath.ofText artifact.dump) with
      | error error =>
          simp only [metadata, dump, Except.error.injEq] at failed
          subst failed
          cases error with
          | badPath reason =>
              exact .dumpPath metadata (read_class_dump_eq_bad_path_iff.1 ⟨reason, dump⟩)
          | hugeNumber account => exact .dumpNumber metadata dump
          | _ => cases grave
      | ok classes =>
          simp only [metadata, dump] at failed
          rw [failure_of_assess_profile failed] at grave
          cases grave

theorem stops_of_error
    (failed : (files.profileArtifact profiles options artifact).1.result = .error failure)
    (grave : failure.isReported = false) : files.Stops profiles options artifact := by
  have course := course_of_profile_artifact files profiles options artifact
  rw [failed] at course
  generalize (files.profileArtifact profiles options artifact).2 = left at course
  cases course with
  | unassessed failed => exact stops_of_assess_error failed grave
  | unsaved ready failed =>
      refine .unwritable ready ?_
      obtain ⟨record, told⟩ := exists_to_record_of_ready ready
      rw [← exists_saved_iff told, failed]
      rintro ⟨path, saved⟩
      cases saved

theorem exists_error_of_unwritable {library : ReadLibrary} {fingerprint : Fingerprint}
    {warnings : List String}
    (ready : (files.assess options artifact).result = .ok (.ready library fingerprint warnings))
    (refused : ¬ files.Admits (fingerprint.description.fingerprintPath profiles)) :
    ∃ error, (files.profileArtifact profiles options artifact).1.result =
      .error (.access error) := by
  obtain ⟨record, told⟩ := exists_to_record_of_ready ready
  rw [← exists_saved_iff told] at refused
  cases saved : (files.saveFingerprint profiles fingerprint).1.result with
  | ok path => exact absurd ⟨path, saved⟩ refused
  | error failure =>
      obtain ⟨error, rfl⟩ := failure_of_save_fingerprint told saved
      rw [(profile_artifact_of_ready ready).1, saved]
      exact ⟨error, rfl⟩

theorem stops_iff :
    files.Stops profiles options artifact ↔
      ∃ failure, (files.profileArtifact profiles options artifact).1.result = .error failure ∧
        failure.isReported = false := by
  constructor
  · intro stops
    cases stops with
    | metadataPath null =>
        have read := (@read_chars_eq_null_character_iff files _).2 null
        have failed : (files.assess options artifact).result =
            .error (.metadata (.access .nullCharacter)) := by
          rw [result_assess, readMetadata, read]
        exact ⟨_, (profile_artifact_of_assess_error failed).1, rfl⟩
    | @undecodable fault undecoded =>
        have failed : (files.assess options artifact).result =
            .error (.metadata (.access (.encoding fault))) := by
          rw [result_assess, readMetadata, undecoded]
        exact ⟨_, (profile_artifact_of_assess_error failed).1, rfl⟩
    | @dateNumber fault unread =>
        have failed : (files.assess options artifact).result =
            .error (.metadata (.badDateNumber fault)) := by
          rw [result_assess, unread]
        exact ⟨_, (profile_artifact_of_assess_error failed).1, rfl⟩
    | dumpPath described null =>
        obtain ⟨reason, read⟩ := (@read_class_dump_eq_bad_path_iff files _).2 null
        have failed : (files.assess options artifact).result =
            .error (.dump (.badPath reason)) := by
          rw [result_assess, described, read]
        exact ⟨_, (profile_artifact_of_assess_error failed).1, rfl⟩
    | @dumpNumber description account described huge =>
        have failed : (files.assess options artifact).result =
            .error (.dump (.hugeNumber account)) := by
          rw [result_assess, described, huge]
        exact ⟨_, (profile_artifact_of_assess_error failed).1, rfl⟩
    | unwritable ready refused =>
        obtain ⟨error, failed⟩ := exists_error_of_unwritable ready refused
        exact ⟨.access error, failed, rfl⟩
  · rintro ⟨failure, failed, grave⟩
    exact stops_of_error failed grave

theorem files_of_reported
    (failed : (files.profileArtifact profiles options artifact).1.result = .error failure)
    (reported : failure.isReported = true) :
    (files.profileArtifact profiles options artifact).2 = files := by
  have course := course_of_profile_artifact files profiles options artifact
  rw [failed] at course
  generalize (files.profileArtifact profiles options artifact).2 = left at course ⊢
  cases course with
  | unassessed failed => rfl
  | unsaved ready failed =>
      obtain ⟨record, told⟩ := exists_to_record_of_ready ready
      obtain ⟨error, rfl⟩ := failure_of_save_fingerprint told failed
      cases reported

/-- The report of a batch on an artifact, given the files there are when its turn comes: that
of the run over it, or exactly if the run fails, one that tells the failure and no path. -/
def Reports (files : FileTree) (profiles : FilePath) (options : DetectionOptions)
    (artifact : Artifact) (report : ProfileReport) : Prop :=
  ((files.profileArtifact profiles options artifact).1.result = .ok report ∧
    report.outcome.error? = none) ∨
  ∃ failure, (files.profileArtifact profiles options artifact).1.result = .error failure ∧
    report = ⟨artifact.dump, .failed failure.message⟩

theorem source_and_error?_of_profile_artifact {report : ProfileReport}
    (done : (files.profileArtifact profiles options artifact).1.result = .ok report) :
    report.source = artifact.dump ∧ report.outcome.error? = none := by
  have course := course_of_profile_artifact files profiles options artifact
  rw [done] at course
  generalize (files.profileArtifact profiles options artifact).2 = left at course
  cases course with
  | skipped empty => exact ⟨rfl, rfl⟩
  | stored ready saved => exact ⟨rfl, rfl⟩

theorem reported_profile_cases (files : FileTree) (profiles : FilePath)
    (options : DetectionOptions) (artifact : Artifact) :
    (∃ report, (reportedProfile artifact
        (files.profileArtifact profiles options artifact).1).result = .ok report ∧
      files.Reports profiles options artifact report ∧
      ¬ files.Stops profiles options artifact) ∨
    (∃ failure, (reportedProfile artifact
        (files.profileArtifact profiles options artifact).1).result = .error failure ∧
      files.Stops profiles options artifact) := by
  rw [stops_iff, reportedProfile]
  cases result : (files.profileArtifact profiles options artifact).1.result with
  | ok report =>
      have without : report.outcome.error? = none :=
        (source_and_error?_of_profile_artifact result).2
      refine .inl ⟨report, result, .inl ⟨result, without⟩, ?_⟩
      rintro ⟨failure, same, _⟩
      cases same
  | error failure =>
      cases reported : failure.isReported with
      | true =>
          refine .inl ⟨⟨artifact.dump, .failed failure.message⟩, ?_,
            .inr ⟨failure, result, rfl⟩, ?_⟩
          · simp [reported]
          · rintro ⟨other, same, grave⟩
            cases same
            rw [reported] at grave
            cases grave
      | false =>
          refine .inr ⟨failure, ?_, failure, rfl, reported⟩
          simp [reported, result]

theorem is_reported_of_reported_profile {report : ProfileReport}
    (failed : (files.profileArtifact profiles options artifact).1.result = .error failure)
    (reported : (reportedProfile artifact
      (files.profileArtifact profiles options artifact).1).result = .ok report) :
    failure.isReported = true := by
  rw [reportedProfile] at reported
  simp only [failed] at reported
  split at reported
  · assumption
  · rw [failed] at reported
    cases reported

theorem profile_artifacts_cons_of_failure
    (stopped : (reportedProfile artifact
      (tree.profileArtifact profiles options artifact).1).result = .error failure) :
    (profileArtifacts profiles options (artifact :: artifacts) tree).1.result =
      .error failure := by
  rw [profile_artifacts_cons, stopped]

theorem exists_of_profile_artifacts_cons {reports : List ProfileReport}
    (done : (profileArtifacts profiles options (artifact :: artifacts) tree).1.result =
      .ok reports) :
    ∃ report others, reports = report :: others ∧
      (reportedProfile artifact (tree.profileArtifact profiles options artifact).1).result =
        .ok report ∧
      tree.Reports profiles options artifact report ∧
      (profileArtifacts profiles options artifacts
        (tree.profileArtifact profiles options artifact).2).1.result = .ok others := by
  rcases reported_profile_cases tree profiles options artifact with
    ⟨report, reported, reports, _⟩ | ⟨failure, stopped, _⟩
  · rw [(profile_artifacts_cons_of_report reported).1] at done
    cases below : (profileArtifacts profiles options artifacts
        (tree.profileArtifact profiles options artifact).2).1.result with
    | error failure =>
        rw [below] at done
        cases done
    | ok others =>
        rw [below] at done
        cases done
        exact ⟨report, others, rfl, reported, reports, rfl⟩
  · rw [profile_artifacts_cons_of_failure stopped] at done
    cases done

theorem profile_artifacts_append {ahead : List ProfileReport}
    (done : (profileArtifacts profiles options before tree).1.result = .ok ahead) :
    (profileArtifacts profiles options (before ++ after) tree).1.result =
        (profileArtifacts profiles options after
          (profileArtifacts profiles options before tree).2).1.result.map (ahead ++ ·) ∧
      (profileArtifacts profiles options (before ++ after) tree).2 =
        (profileArtifacts profiles options after
          (profileArtifacts profiles options before tree).2).2 := by
  induction before generalizing tree ahead with
  | nil =>
      cases done
      refine ⟨?_, rfl⟩
      change (profileArtifacts profiles options after tree).1.result =
        (profileArtifacts profiles options after tree).1.result.map ([] ++ ·)
      cases (profileArtifacts profiles options after tree).1.result <;> rfl
  | cons artifact rest ih =>
      obtain ⟨report, others, rfl, reported, _, below⟩ := exists_of_profile_artifacts_cons done
      obtain ⟨_, leaves⟩ := @profile_artifacts_cons_of_report _ profiles options _ rest _ reported
      obtain ⟨whole, wholeLeaves⟩ := @profile_artifacts_cons_of_report _ profiles options _
        (rest ++ after) _ reported
      obtain ⟨restWhole, restLeaves⟩ := ih below
      rw [List.cons_append, whole, wholeLeaves, leaves, restWhole, restLeaves]
      refine ⟨?_, rfl⟩
      cases (profileArtifacts profiles options after _).1.result <;> rfl

theorem exists_stops_of_error
    (failed : (profileArtifacts profiles options artifacts tree).1.result = .error failure) :
    ∃ before artifact after ahead, artifacts = before ++ artifact :: after ∧
      (profileArtifacts profiles options before tree).1.result = .ok ahead ∧
      (profileArtifacts profiles options before tree).2.Stops profiles options artifact := by
  induction artifacts generalizing tree failure with
  | nil => cases failed
  | cons artifact rest ih =>
      rcases reported_profile_cases tree profiles options artifact with
        ⟨report, reported, _, _⟩ | ⟨_, _, stops⟩
      · rw [(profile_artifacts_cons_of_report reported).1] at failed
        cases below : (profileArtifacts profiles options rest
            (tree.profileArtifact profiles options artifact).2).1.result with
        | ok others =>
            rw [below] at failed
            cases failed
        | error cause =>
            obtain ⟨before, stopping, after, ahead, rfl, done, stops⟩ := ih below
            obtain ⟨result, leaves⟩ := @profile_artifacts_cons_of_report _ profiles options _
              before _ reported
            refine ⟨artifact :: before, stopping, after, report :: ahead, rfl, ?_, ?_⟩
            · rw [result, done]
              rfl
            · rw [leaves]
              exact stops
      · exact ⟨[], artifact, rest, [], rfl, rfl, stops⟩

theorem exists_error_of_stops {ahead : List ProfileReport}
    (done : (profileArtifacts profiles options before tree).1.result = .ok ahead)
    (stops : (profileArtifacts profiles options before tree).2.Stops profiles options artifact) :
    ∃ failure, (profileArtifacts profiles options (before ++ artifact :: after) tree).1.result =
      .error failure := by
  rw [(profile_artifacts_append done).1]
  rcases reported_profile_cases (profileArtifacts profiles options before tree).2 profiles options
    artifact with ⟨_, _, _, survives⟩ | ⟨failure, stopped, _⟩
  · exact absurd stops survives
  · exact ⟨failure, by rw [profile_artifacts_cons_of_failure stopped]; rfl⟩

theorem exists_reports_of_append {reports : List ProfileReport}
    (done : (profileArtifacts profiles options (before ++ artifact :: after) tree).1.result =
      .ok reports) :
    ∃ ahead report behind, reports = ahead ++ report :: behind ∧
      (profileArtifacts profiles options before tree).1.result = .ok ahead ∧
      (profileArtifacts profiles options before tree).2.Reports profiles options artifact report ∧
      (report.outcome.error?.isSome = true →
        (profileArtifacts profiles options (before ++ after) tree).1.result =
            .ok (ahead ++ behind) ∧
          (profileArtifacts profiles options (before ++ after) tree).2 =
            (profileArtifacts profiles options (before ++ artifact :: after) tree).2) := by
  cases first : (profileArtifacts profiles options before tree).1.result with
  | error failure =>
      obtain ⟨front, stopping, rest, ahead, rfl, ended, stops⟩ := exists_stops_of_error first
      obtain ⟨cause, failed⟩ := @exists_error_of_stops _ _ _ _ _ (rest ++ artifact :: after) _
        ended stops
      rw [List.append_assoc, List.cons_append, failed] at done
      cases done
  | ok ahead =>
      obtain ⟨whole, leaves⟩ := @profile_artifacts_append _ _ _ _ (artifact :: after) _ first
      obtain ⟨without, leavesWithout⟩ := @profile_artifacts_append _ _ _ _ after _ first
      rw [whole] at done
      cases turn : (profileArtifacts profiles options (artifact :: after)
          (profileArtifacts profiles options before tree).2).1.result with
      | error failure =>
          rw [turn] at done
          cases done
      | ok following =>
          rw [turn] at done
          cases done
          obtain ⟨report, behind, rfl, reported, reports, rest⟩ :=
            exists_of_profile_artifacts_cons turn
          refine ⟨ahead, report, behind, rfl, rfl, reports, ?_⟩
          intro failed
          rcases reports with ⟨_, worked⟩ | ⟨failure, result, rfl⟩
          · rw [worked] at failed
            cases failed
          · -- nothing was written, so that the batch goes on from the same files
            have same := files_of_reported result (is_reported_of_reported_profile result reported)
            rw [same] at rest
            rw [without, leavesWithout, leaves, (profile_artifacts_cons_of_report reported).2, same,
              rest]
            exact ⟨rfl, rfl⟩

theorem sources_of_profile_artifacts {reports : List ProfileReport}
    (done : (profileArtifacts profiles options artifacts tree).1.result = .ok reports) :
    reports.map (·.source) = artifacts.map (·.dump) := by
  induction artifacts generalizing tree reports with
  | nil =>
      cases done
      rfl
  | cons artifact rest ih =>
      obtain ⟨report, others, rfl, _, told, below⟩ := exists_of_profile_artifacts_cons done
      have source : report.source = artifact.dump := by
        rcases told with ⟨result, _⟩ | ⟨failure, _, rfl⟩
        · exact (source_and_error?_of_profile_artifact result).1
        · rfl
      rw [List.map_cons, List.map_cons, source, ih below]

/-- No surrogate stands alone in the text of the file.  Such a half of a character is read as
the replacement character, although it has no digest. -/
def HasPairedSurrogates (files : FileTree) (path : FilePath) : Prop :=
  ∀ chars, files.readChars path = .ok chars → Json.holdsLoneSurrogate 0 chars = false

/-- The dump of every artifact has its surrogates in pairs when the turn of the artifact
comes. -/
def HasPairedDumps (tree : FileTree) (profiles : FilePath) (options : DetectionOptions)
    (artifacts : List Artifact) : Prop :=
  ∀ before artifact after, artifacts = before ++ artifact :: after →
    (profileArtifacts profiles options before tree).2.HasPairedSurrogates
      (FilePath.ofText artifact.dump)

/-- A batch ends unless an artifact stops it when its turn comes.  Then it has a report for
each artifact in order, and for one that failed the failure, while the other reports and the
files are those of the batch without it. -/
theorem profile_artifacts_isolates {tree : FileTree} {profiles : FilePath}
    {options : DetectionOptions} {artifacts : List Artifact}
    (_paired : tree.HasPairedDumps profiles options artifacts) :
    ((∃ failure, (profileArtifacts profiles options artifacts tree).1.result = .error failure) ↔
      ∃ before artifact after ahead, artifacts = before ++ artifact :: after ∧
        (profileArtifacts profiles options before tree).1.result = .ok ahead ∧
        (profileArtifacts profiles options before tree).2.Stops profiles options artifact) ∧
    ∀ reports, (profileArtifacts profiles options artifacts tree).1.result = .ok reports →
      reports.map (·.source) = artifacts.map (·.dump) ∧
      ∀ before artifact after, artifacts = before ++ artifact :: after →
        ∃ ahead report behind, reports = ahead ++ report :: behind ∧
          (profileArtifacts profiles options before tree).1.result = .ok ahead ∧
          (profileArtifacts profiles options before tree).2.Reports profiles options artifact
            report ∧
          (report.outcome.error?.isSome = true →
            (profileArtifacts profiles options (before ++ after) tree).1.result =
                .ok (ahead ++ behind) ∧
              (profileArtifacts profiles options (before ++ after) tree).2 =
                (profileArtifacts profiles options artifacts tree).2) := by
  refine ⟨⟨?_, ?_⟩, ?_⟩
  · rintro ⟨failure, failed⟩
    exact exists_stops_of_error failed
  · rintro ⟨before, artifact, after, ahead, rfl, done, stops⟩
    exact exists_error_of_stops done stops
  · intro reports done
    refine ⟨sources_of_profile_artifacts done, ?_⟩
    rintro before artifact after rfl
    exact exists_reports_of_append done

theorem paired_surrogates_of_named_dump {path : FilePath} {names : List String}
    (read : files.readBytes path = .ok (Text.Utf8.encode
      (Json.write Json.recordStyle (.list (names.map namedRecord))))) :
    files.HasPairedSurrogates path := by
  have plain : (Json.list (names.map namedRecord)).Plain := by
    apply Json.Plain.list
    intro record member
    obtain ⟨name, _, rfl⟩ := List.mem_map.1 member
    exact plain_named_record name
  intro chars found
  rw [read_chars_of_read_bytes (Json.return_not_mem_written plain.float_free) read] at found
  cases found
  have whole := Json.paired_written plain.float_free []
  rw [List.append_nil] at whole
  exact whole

def halfArtifacts : List Artifact :=
  [⟨"classes.json", "none.xml"⟩, ⟨"classes.json", "first.xml"⟩]

theorem exists_half_reports :
    ∃ failed stored,
      (profileArtifacts profilesPath {} halfArtifacts
        (twinFiles "codec" "json" .emptyFolder)).1.result = .ok [failed, stored] ∧
      failed.outcome.error?.isSome = true ∧ failed.outcome.path? = none ∧
      stored.IsComplete ∧ stored.outcome.fingerprint? = some (twin "codec") ∧
      (profileArtifacts profilesPath {} [⟨"classes.json", "none.xml"⟩]
        (twinFiles "codec" "json" .emptyFolder)).2 = twinFiles "codec" "json" .emptyFolder := by
  have missing : ∃ error, (twinFiles "codec" "json" .emptyFolder).readMetadata
      (FilePath.ofText "none.xml") = .error error ∧ error.isReported = true := ⟨_, rfl, rfl⟩
  obtain ⟨error, missing, reported⟩ := missing
  have unassessed : ((twinFiles "codec" "json" .emptyFolder).assess {}
      ⟨"classes.json", "none.xml"⟩).result = .error (.metadata error) := by
    rw [result_assess, missing]
  obtain ⟨first, unchanged⟩ :=
    @profile_artifact_of_assess_error _ _ _ profilesPath _ unassessed
  have told : (reportedProfile ⟨"classes.json", "none.xml"⟩
      ((twinFiles "codec" "json" .emptyFolder).profileArtifact profilesPath {}
        ⟨"classes.json", "none.xml"⟩).1).result =
          .ok ⟨"classes.json", .failed (RunFailure.metadata error).message⟩ := by
    have survives : (RunFailure.metadata error).isReported = true := reported
    simp [reportedProfile, first, survives]
  obtain ⟨report, done, leaves, complete, stored⟩ :=
    @exists_twin_report (twinFiles "codec" "json" .emptyFolder)
      (twinFiles "codec" "json" (twinProfiles []))
      (twinFiles "codec" "json" (twinProfiles [("codec_1.lib", "codec")])) "codec" "first.xml"
      "codec_1.lib" (by decide +kernel) (by decide +kernel) rfl rfl
  have alone := (@profile_artifacts_of_ok _ _ profilesPath {} _ [] _ _ done leaves rfl).1
  have leaves := (@profile_artifacts_cons_of_report _ profilesPath {} _ [] _ told).2
  rw [unchanged] at leaves
  refine ⟨⟨"classes.json", .failed (RunFailure.metadata error).message⟩, report, ?_, rfl, rfl,
    complete, stored, leaves⟩
  have both := (@profile_artifacts_cons_of_report _ profilesPath {} _
    [⟨"classes.json", "first.xml"⟩] _ told).1
  rw [unchanged, alone, Except.map] at both
  rw [halfArtifacts]
  exact both

theorem paired_dumps_half :
    (twinFiles "codec" "json" .emptyFolder).HasPairedDumps profilesPath {} halfArtifacts := by
  obtain ⟨_, _, _, _, _, _, _, unchanged⟩ := exists_half_reports
  have dump : (twinFiles "codec" "json" .emptyFolder).HasPairedSurrogates
      (FilePath.ofText "classes.json") := paired_surrogates_of_named_dump rfl
  intro before artifact after same
  rw [halfArtifacts] at same
  match before with
  | [] =>
      obtain ⟨rfl, _⟩ := List.cons.inj same
      exact dump
  | [first] =>
      obtain ⟨rfl, rest⟩ := List.cons.inj same
      obtain ⟨rfl, _⟩ := List.cons.inj rest
      -- the first library fails before anything is written
      rw [unchanged]
      exact dump
  | first :: second :: more =>
      have length := congrArg List.length same
      simp only [List.length_cons, List.length_nil, List.length_append] at length
      omega

theorem profile_artifacts_of_half :
    (twinFiles "codec" "json" .emptyFolder).HasPairedDumps profilesPath {} halfArtifacts ∧
      ∃ failed stored,
        (profileArtifacts profilesPath {} halfArtifacts
          (twinFiles "codec" "json" .emptyFolder)).1.result = .ok [failed, stored] ∧
        failed.outcome.error?.isSome = true ∧ failed.outcome.path? = none ∧
        stored.IsComplete ∧ stored.outcome.fingerprint? = some (twin "codec") ∧
        (profileArtifacts profilesPath {} [⟨"classes.json", "first.xml"⟩]
          (twinFiles "codec" "json" .emptyFolder)).1.result = .ok [stored] ∧
        (profileArtifacts profilesPath {} [⟨"classes.json", "first.xml"⟩]
            (twinFiles "codec" "json" .emptyFolder)).2 =
          (profileArtifacts profilesPath {} halfArtifacts
            (twinFiles "codec" "json" .emptyFolder)).2 := by
  obtain ⟨failed, stored, done, error, path, complete, fingerprint, _⟩ := exists_half_reports
  refine ⟨paired_dumps_half, failed, stored, done, error, path, complete, fingerprint, ?_⟩
  have whole := (profile_artifacts_isolates paired_dumps_half).2 _ done
  obtain ⟨ahead, report, behind, same, first, _, without⟩ :=
    whole.2 [] ⟨"classes.json", "none.xml"⟩ [⟨"classes.json", "first.xml"⟩] rfl
  have nothing : (profileArtifacts profilesPath {} []
      (twinFiles "codec" "json" .emptyFolder)).1.result = .ok [] := rfl
  rw [nothing] at first
  obtain rfl := Except.ok.inj first
  obtain ⟨rfl, rest⟩ := List.cons.inj same
  simp only [List.nil_append, ← rest] at without
  exact without error

def undecodableFiles : FileTree :=
  ⟨.folder [("classes.json", namedDump ["a.Codec"]), ("first.xml", .file [0xFF]),
    ("profiles", .emptyFolder), ("second.xml", metadataOf "codec")], []⟩

/-- The batch stops at the first library instead of telling its failure. -/
theorem profile_artifacts_stops_at_undecodable :
    ¬ ∃ reports, (profileArtifacts profilesPath {} twinArtifacts undecodableFiles).1.result =
      .ok reports := by
  have undecoded : undecodableFiles.readChars (FilePath.ofText "first.xml") =
      .error (.encoding ⟨.invalidStart, 0xFF, 0, 1⟩) := by
    rfl
  have stops : undecodableFiles.Stops profilesPath {} ⟨"classes.json", "first.xml"⟩ :=
    .undecodable undecoded
  obtain ⟨failure, failed⟩ := @exists_error_of_stops undecodableFiles profilesPath {} _ []
    [⟨"classes.json", "second.xml"⟩] [] rfl stops
  rintro ⟨reports, done⟩
  rw [twinArtifacts, ← List.nil_append [_, _], failed] at done
  cases done

end FileTree

end LibraryDetection

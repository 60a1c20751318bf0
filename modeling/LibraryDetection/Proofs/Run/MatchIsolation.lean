import LibraryDetection.Proofs.Fingerprint.Consistency
import LibraryDetection.Proofs.Run.Corpus
import LibraryDetection.Proofs.Run.Pool

/-!
# Batches of applications

A batch of applications goes on after every failure of one of them, since with a corpus of
fingerprints that were made of packages nothing but the dump of an application can fail.
-/

namespace LibraryDetection

set_option autoImplicit false

open LibraryDetection.Number

namespace Fingerprint

/-- Fingerprints that were profiled, and those that were loaded from what such a one was
saved as, whether from the same file or from a copy. -/
inductive Kept : Fingerprint → Prop
  | profiled {fingerprint : Fingerprint} {classes : List ClassDescriptor} {options : HashOptions}
      (origin : fingerprint.ProfiledFrom classes options) : fingerprint.Kept
  | loaded {fingerprint loaded : Fingerprint} {files later : FileTree}
      {profiles path place : FilePath} (kept : fingerprint.Kept)
      (small : fingerprint.classCount < 10 ^ digitLimit) (ordered : files.Ordered)
      (saved : (files.saveFingerprint profiles fingerprint).1.result = .ok path)
      (copied : later.readBytes place =
        (files.saveFingerprint profiles fingerprint).2.readBytes path)
      (read : later.readFingerprint place = .ok loaded) : loaded.Kept

theorem Kept.genuine {fingerprint : Fingerprint} (kept : fingerprint.Kept) :
    fingerprint.Genuine := by
  induction kept with
  | profiled origin => exact origin.built
  | @loaded fingerprint loaded files later profiles path place _ small ordered saved copied read
      genuine =>
      obtain ⟨record, told, bytes⟩ := FileTree.exists_read_bytes_of_saved ordered saved
      rw [bytes] at copied
      obtain ⟨_, reread, restores⟩ := (FileTree.read_fingerprint_eq_ok_iff copied).1 read
      cases FingerprintRecord.eq_of_of_chars_text (readable_of_to_record genuine small told) reread
      obtain ⟨_, tree, _, rfl⟩ := FingerprintRecord.restore_eq_ok_iff.1 restores
      obtain ⟨_, rfl⟩ := to_record_eq_valid_iff.1 told
      exact genuine

end Fingerprint

namespace FileTree

variable {files : FileTree} {corpus : Corpus} {settings : MatchSettings}
  {options : DetectionOptions} {application : String}

/-- No number of the dump has too many digits to be read, which is the one fault in the text of
a dump that a batch does not survive. -/
def HasReadableNumbers (files : FileTree) (path : FilePath) : Prop :=
  ∀ account, files.readClassDump path ≠ .error (.hugeNumber account)

theorem is_reported_of_read_class_dump {path : FilePath} {error : DumpFileError}
    (plain : hasNull path = false) (numbers : files.HasReadableNumbers path)
    (failed : files.readClassDump path = .error error) : error.isReported = true := by
  cases error with
  | badPath reason =>
      rw [read_class_dump_eq_bad_path_iff.1 ⟨reason, failed⟩] at plain
      cases plain
  | hugeNumber account => exact absurd failed (numbers account)
  | _ => rfl

inductive MatchingCourse (files : FileTree) (corpus : Corpus) (settings : MatchSettings)
    (options : DetectionOptions) (application : String) : Except RunFailure MatchReport → Prop
  | unread {error : DumpFileError}
      (failed : files.readClassDump (FilePath.ofText application) = .error error) :
      MatchingCourse files corpus settings options application (.error (.dump error))
  | malformed (path : MalformedPath) :
      MatchingCourse files corpus settings options application
        (.error (.profile (.malformedPath path)))
  | unscored {index : QueryIndex} {error : ScoreError}
      (failed : matchCorpus index corpus.fingerprints settings = .error error) :
      MatchingCourse files corpus settings options application (.error (.score error))
  | matched (index : QueryIndex) (found : List LibraryMatch) :
      MatchingCourse files corpus settings options application
        (.ok ⟨application, corpus.size, settings,
          .matched index.tree.classCount (matchWarnings index corpus) found⟩)

theorem course_of_match_application (files : FileTree) (corpus : Corpus)
    (settings : MatchSettings) (options : DetectionOptions) (application : String) :
    files.MatchingCourse corpus settings options application
      (files.matchApplication corpus settings options application).result := by
  rw [result_match_application_eq]
  split
  · rename_i error failed
    exact .unread failed
  · split
    · rename_i path _
      exact .malformed path
    · split
      · rename_i error failed
        exact .unscored failed
      · exact .matched _ _

theorem failure_of_match_application {failure : RunFailure}
    (failed : (files.matchApplication corpus settings options application).result =
      .error failure) :
    (∃ error, files.readClassDump (FilePath.ofText application) = .error error ∧
      failure = .dump error) ∨
    (∃ malformed, failure = .profile (.malformedPath malformed)) ∨
    (failure = .score .tooLarge ∧ ∃ other ∈ corpus.fingerprints, ¬ other.Genuine) := by
  have course := course_of_match_application files corpus settings options application
  rw [failed] at course
  cases course with
  | @unread error read => exact .inl ⟨error, read, rfl⟩
  | malformed path => exact .inr (.inl ⟨path, rfl⟩)
  | @unscored index error ranked =>
      cases error
      exact .inr (.inr ⟨rfl, exists_not_genuine_of_match_corpus ranked⟩)

theorem error?_of_match_application {report : MatchReport}
    (done : (files.matchApplication corpus settings options application).result = .ok report) :
    report.outcome.error? = none := by
  have course := course_of_match_application files corpus settings options application
  rw [done] at course
  cases course
  rfl

/-- The report of a batch on one application: that of the run over it, or exactly if the run
fails, one that tells the failure, no classes and no libraries. -/
def Isolates (files : FileTree) (corpus : Corpus) (settings : MatchSettings)
    (options : DetectionOptions) (application : String) (report : MatchReport) : Prop :=
  ((files.matchApplication corpus settings options application).result = .ok report ∧
    report.outcome.error? = none) ∨
  ∃ failure, (files.matchApplication corpus settings options application).result =
      .error failure ∧
    report = ⟨application, corpus.size, settings, .failed failure.message⟩

theorem Isolates.eq_of_ok {report told : MatchReport}
    (isolates : files.Isolates corpus settings options application told)
    (matched : (files.matchApplication corpus settings options application).result = .ok report) :
    told = report := by
  rcases isolates with ⟨same, _⟩ | ⟨_, same, _⟩
  · rw [matched] at same
    exact (Except.ok.inj same).symm
  · rw [matched] at same
    cases same

theorem Isolates.eq_failed {failure : RunFailure} {told : MatchReport}
    (isolates : files.Isolates corpus settings options application told)
    (failed : (files.matchApplication corpus settings options application).result =
      .error failure) :
    told = ⟨application, corpus.size, settings, .failed failure.message⟩ := by
  rcases isolates with ⟨same, _⟩ | ⟨_, same, rfl⟩
  · rw [failed] at same
    cases same
  · rw [failed] at same
    rw [Except.error.inj same]

theorem exists_match_one (genuine : ∀ other ∈ corpus.fingerprints, other.Genuine)
    (plain : hasNull (FilePath.ofText application) = false)
    (numbers : files.HasReadableNumbers (FilePath.ofText application)) :
    ∃ report, files.matchOne corpus settings options application = .ok report ∧
      files.Isolates corpus settings options application report := by
  rw [matchOne, reportedMatch]
  cases result : (files.matchApplication corpus settings options application).result with
  | ok report =>
      exact ⟨report, result, .inl ⟨result, error?_of_match_application result⟩⟩
  | error failure =>
      have reported : failure.isReported = true := by
        rcases failure_of_match_application result with
          ⟨error, failed, rfl⟩ | ⟨malformed, rfl⟩ | ⟨_, other, member, foreign⟩
        · exact is_reported_of_read_class_dump plain numbers failed
        · rfl
        · exact absurd (genuine other member) foreign
      simp only [reported, if_true]
      exact ⟨_, rfl, .inr ⟨failure, result, rfl⟩⟩

theorem exists_match_applications (genuine : ∀ other ∈ corpus.fingerprints, other.Genuine)
    {applications : List String}
    (plain : ∀ application ∈ applications, hasNull (FilePath.ofText application) = false)
    (numbers : ∀ application ∈ applications,
      files.HasReadableNumbers (FilePath.ofText application)) :
    ∃ reports,
      (files.matchApplications corpus settings options applications).result = .ok reports ∧
      List.Forall₂ (fun application report =>
        (files.matchApplications corpus settings options [application]).result = .ok [report] ∧
          files.Isolates corpus settings options application report) applications reports := by
  induction applications with
  | nil => exact ⟨[], rfl, .nil⟩
  | cons application rest ih =>
      obtain ⟨reports, below, others⟩ :=
        ih (fun other member => plain other (List.mem_cons_of_mem application member))
          (fun other member => numbers other (List.mem_cons_of_mem application member))
      obtain ⟨report, first, isolates⟩ := exists_match_one genuine
        (plain application List.mem_cons_self) (numbers application List.mem_cons_self)
      rw [result_match_applications] at below
      refine ⟨report :: reports, ?_, .cons ⟨?_, isolates⟩ others⟩
      · rw [result_match_applications, List.mapM_cons, first, below]
        rfl
      · rw [result_match_applications, List.mapM_cons, first]
        rfl

/-- A batch over a corpus of kept fingerprints comes, with any number of workers, to one
report for each application in order, and to the same report as on that application alone. -/
theorem match_applications_isolates {files : FileTree} {corpus : Corpus}
    (kept : ∀ fingerprint ∈ corpus.fingerprints, fingerprint.Kept) (settings : MatchSettings)
    (options : DetectionOptions) (workers : Int) {applications : List String}
    (plain : ∀ application ∈ applications, hasNull (FilePath.ofText application) = false)
    (numbers : ∀ application ∈ applications,
      files.HasReadableNumbers (FilePath.ofText application)) :
    ∃ reports,
      (∀ outcome, files.MatchesWith workers corpus settings options applications outcome ↔
        outcome = .ok reports) ∧
      List.Forall₂ (fun application report =>
        (∀ outcome, files.MatchesWith workers corpus settings options [application] outcome ↔
          outcome = .ok [report]) ∧
        files.Isolates corpus settings options application report) applications reports := by
  have genuine : ∀ other ∈ corpus.fingerprints, other.Genuine := by
    intro other member
    exact (kept other member).genuine
  obtain ⟨reports, done, each⟩ := @exists_match_applications files corpus settings options
    genuine applications plain numbers
  refine ⟨reports, ?_, ?_⟩
  · intro outcome
    rw [matches_with_iff, done]
  · refine each.imp ?_
    rintro application report ⟨alone, isolates⟩
    refine ⟨?_, isolates⟩
    intro outcome
    rw [matches_with_iff, alone]

theorem exists_codec_match :
    ∃ report, (codecFiles.matchApplication ⟨[twin "codec"], []⟩ {} {} "app.json").result =
        .ok report ∧ report.outcome.found.map (·.description.name) = ["codec"] := by
  have judged : (PackageTree.ofClasses ((namedClasses applicationNames).map
      (·.toDescriptor ({} : DetectionOptions).members))).toOption.map (fun tree =>
        (matchCorpus (QueryIndex.ofTree (tree.wholeHashTree ({} : DetectionOptions).hash))
          [twin "codec"] {}).toOption.map (·.map (·.description.name))) =
            some (some ["codec"]) := by
    decide +kernel
  obtain ⟨tree, grown, listed⟩ := Option.map_eq_some_iff.1 judged
  obtain ⟨found, ranked, names⟩ := Option.map_eq_some_iff.1 listed
  have dump :=
    read_class_dump_of_holds_records holds_records_codec_application all_of_json_codec.2.1
  rw [result_match_application dump (toOption_eq_some_iff.1 grown),
    toOption_eq_some_iff.1 ranked]
  exact ⟨_, rfl, names⟩

theorem exists_missing_failure :
    ∃ error, codecFiles.readClassDump (FilePath.ofText "missing.json") =
        .error (.unreadable ⟨.relative, ["missing.json"]⟩ error) ∧
      (codecFiles.matchApplication ⟨[twin "codec"], []⟩ {} {} "missing.json").result =
        .error (.dump (.unreadable ⟨.relative, ["missing.json"]⟩ error)) := by
  have missing : codecFiles.readClassDump (FilePath.ofText "missing.json") =
      .error (.unreadable ⟨.relative, ["missing.json"]⟩
        ⟨.missing, ⟨.relative, ["missing.json"]⟩⟩) := by
    rfl
  refine ⟨_, missing, ?_⟩
  rw [result_match_application_eq, missing]

theorem kept_of_mem_twin : ∀ fingerprint ∈ [twin "codec"], fingerprint.Kept := by
  intro fingerprint member
  rw [List.mem_singleton.1 member]
  exact .profiled ⟨_, profile_library_twin "codec"⟩

theorem readable_numbers_codec_files : ∀ application ∈ ["app.json", "missing.json"],
    codecFiles.HasReadableNumbers (FilePath.ofText application) := by
  obtain ⟨error, missing, _⟩ := exists_missing_failure
  intro application member account failed
  simp only [List.mem_cons, List.not_mem_nil, or_false] at member
  rcases member with rfl | rfl
  · rw [read_class_dump_of_holds_records holds_records_codec_application
      all_of_json_codec.2.1] at failed
    cases failed
  · rw [missing] at failed
    cases failed

/-- An application that holds the library is told beside one that is missing. -/
theorem match_applications_beside_missing :
    (∀ fingerprint ∈ [twin "codec"], fingerprint.Kept) ∧
      (∀ application ∈ ["app.json", "missing.json"],
        hasNull (FilePath.ofText application) = false) ∧
      (∀ application ∈ ["app.json", "missing.json"],
        codecFiles.HasReadableNumbers (FilePath.ofText application)) ∧
      ∃ told failed,
        (∀ outcome, codecFiles.MatchesWith 4 ⟨[twin "codec"], []⟩ {} {}
          ["app.json", "missing.json"] outcome ↔ outcome = .ok [told, failed]) ∧
        told.outcome.found.map (·.description.name) = ["codec"] ∧
        failed.outcome.error?.isSome = true ∧ failed.outcome.found = [] ∧
        (∀ outcome, codecFiles.MatchesWith 4 ⟨[twin "codec"], []⟩ {} {} ["app.json"] outcome ↔
          outcome = .ok [told]) ∧
        ∀ outcome, codecFiles.MatchesWith 4 ⟨[twin "codec"], []⟩ {} {} ["missing.json"] outcome ↔
          outcome = .ok [failed] := by
  have plain : ∀ application ∈ ["app.json", "missing.json"],
      hasNull (FilePath.ofText application) = false := by
    decide
  refine ⟨kept_of_mem_twin, plain, readable_numbers_codec_files, ?_⟩
  obtain ⟨report, matched, names⟩ := exists_codec_match
  obtain ⟨error, _, unread⟩ := exists_missing_failure
  obtain ⟨reports, batch, each⟩ :=
    @match_applications_isolates codecFiles ⟨[twin "codec"], []⟩ kept_of_mem_twin {} {} 4 _ plain
      readable_numbers_codec_files
  cases each with
  | @cons _ told _ others first rest =>
      cases rest with
      | @cons _ failed _ _ second none =>
          cases none
          obtain rfl := first.2.eq_of_ok matched
          obtain rfl := second.2.eq_failed unread
          exact ⟨_, _, batch, names, rfl, rfl, first.1, second.1⟩

end FileTree

end LibraryDetection

import LibraryDetection.Proofs.Run.Storage

/-!
# Batches of profiled libraries

A batch in which every library is stored tells, in the order of the libraries, the
fingerprints whose files it has added.
-/

namespace LibraryDetection

set_option autoImplicit false

namespace ProfileReport

def IsComplete (report : ProfileReport) : Prop :=
  report.isSkipped = false ∧ report.hasFailed = false

/-- The fingerprint has the description and the hash trees of the library that the report
is about. -/
def Tells (report : ProfileReport) (fingerprint : Fingerprint) : Prop :=
  report.outcome.library?.map (·.description) = some fingerprint.description ∧
    report.outcome.fingerprint?.map (·.hashTrees) = some fingerprint.hashTrees

end ProfileReport

/-- The fingerprints that a batch has stored, in the order of its reports. -/
def storedFingerprints (reports : List ProfileReport) : List Fingerprint :=
  reports.filterMap (·.outcome.fingerprint?)

theorem stored_fingerprints_eq (reports : List ProfileReport) :
    storedFingerprints reports = (reports.map (·.outcome.fingerprint?)).filterMap id := by
  rw [List.filterMap_map]
  rfl

namespace FileTree

variable {tree left : FileTree} {profiles : FilePath} {place : List String}
  {options : DetectionOptions} {artifact : Artifact} {artifacts : List Artifact}
  {reports : List ProfileReport}

theorem reported_profile_eq_ok {profiled : Run ProfileReport} {report : ProfileReport}
    (done : (reportedProfile artifact profiled).result = .ok report)
    (worked : report.hasFailed = false) : profiled.result = .ok report := by
  rw [reportedProfile] at done
  split at done
  · exact done
  · split at done
    · cases done
      cases worked
    · exact done

-- the equation of a batch is read without running its first library
seal reportedProfile FileTree.profileArtifact

theorem profile_artifacts_cons (profiles : FilePath) (options : DetectionOptions)
    (artifact : Artifact) (artifacts : List Artifact) (tree : FileTree) :
    profileArtifacts profiles options (artifact :: artifacts) tree =
      match (reportedProfile artifact
          (tree.profileArtifact profiles options artifact).1).result with
      | .error failure =>
          (⟨(reportedProfile artifact (tree.profileArtifact profiles options artifact).1).log,
            .error failure⟩, (tree.profileArtifact profiles options artifact).2)
      | .ok report =>
          (reportedProfile artifact (tree.profileArtifact profiles options artifact).1 >>= fun _ =>
            (profileArtifacts profiles options artifacts
              (tree.profileArtifact profiles options artifact).2).1 >>= fun reports =>
                pure (report :: reports),
            (profileArtifacts profiles options artifacts
              (tree.profileArtifact profiles options artifact).2).2) :=
  rfl

theorem profile_artifacts_cons_eq_ok
    (done : (profileArtifacts profiles options (artifact :: artifacts) tree).1.result =
      .ok reports)
    (complete : ∀ report ∈ reports, report.IsComplete) :
    ∃ library fingerprint path warnings others,
      reports = ⟨artifact.dump, .stored library fingerprint path warnings⟩ :: others ∧
      (tree.assess options artifact).result = .ok (.ready library fingerprint warnings) ∧
      (tree.saveFingerprint profiles fingerprint).1.result = .ok path ∧
      (profileArtifacts profiles options artifacts
        (tree.saveFingerprint profiles fingerprint).2).1.result = .ok others ∧
      (profileArtifacts profiles options (artifact :: artifacts) tree).2 =
        (profileArtifacts profiles options artifacts
          (tree.saveFingerprint profiles fingerprint).2).2 := by
  rw [profile_artifacts_cons] at done ⊢
  split at done
  · cases done
  · rename_i report reported
    obtain ⟨_, _, rest⟩ := Logged.bind_eq_ok done
    obtain ⟨others, ran, same⟩ := Logged.bind_eq_ok rest
    cases same
    obtain ⟨kept, worked⟩ := complete report List.mem_cons_self
    obtain ⟨library, fingerprint, path, warnings, rfl, ready, saved, leaves⟩ :=
      profile_artifact_eq_ok (reported_profile_eq_ok reported worked) kept
    rw [← leaves] at ran ⊢
    exact ⟨library, fingerprint, path, warnings, others, rfl, ready, saved, ran, rfl⟩

theorem profile_artifacts_cons_of_report {report : ProfileReport}
    (reported : (reportedProfile artifact
      (tree.profileArtifact profiles options artifact).1).result = .ok report) :
    (profileArtifacts profiles options (artifact :: artifacts) tree).1.result =
        (profileArtifacts profiles options artifacts
          (tree.profileArtifact profiles options artifact).2).1.result.map (report :: ·) ∧
      (profileArtifacts profiles options (artifact :: artifacts) tree).2 =
        (profileArtifacts profiles options artifacts
          (tree.profileArtifact profiles options artifact).2).2 := by
  rw [profile_artifacts_cons, reported]
  dsimp only
  refine ⟨?_, rfl⟩
  rw [Logged.result_bind, reported]
  change ((profileArtifacts profiles options artifacts _).1 >>= _).result = _
  rw [Logged.result_bind]
  cases (profileArtifacts profiles options artifacts _).1.result <;> rfl

theorem profile_artifacts_of_ok {report : ProfileReport} {others : List ProfileReport}
    (first : (tree.profileArtifact profiles options artifact).1.result = .ok report)
    (leaves : (tree.profileArtifact profiles options artifact).2 = left)
    (rest : (profileArtifacts profiles options artifacts left).1.result = .ok others) :
    (profileArtifacts profiles options (artifact :: artifacts) tree).1.result =
        .ok (report :: others) ∧
      (profileArtifacts profiles options (artifact :: artifacts) tree).2 =
        (profileArtifacts profiles options artifacts left).2 := by
  subst leaves
  have reported : (reportedProfile artifact
      (tree.profileArtifact profiles options artifact).1).result = .ok report := by
    rw [reportedProfile, first]
    exact first
  obtain ⟨result, leaves⟩ := profile_artifacts_cons_of_report reported
  rw [result, rest]
  exact ⟨rfl, leaves⟩

theorem Stores.profile_artifacts {before : List Fingerprint}
    (stores : tree.Stores profiles place before)
    (done : (profileArtifacts profiles options artifacts tree).1.result = .ok reports)
    (complete : ∀ report ∈ reports, report.IsComplete)
    (contained : ∀ fingerprint ∈ storedFingerprints reports, fingerprint.description.Contained)
    (apart : ((before ++ storedFingerprints reports).map (·.description.storedNames)).Nodup) :
    (profileArtifacts profiles options artifacts tree).2.Stores profiles place
      (before ++ storedFingerprints reports) := by
  induction artifacts generalizing tree before reports with
  | nil =>
      cases done
      rw [storedFingerprints, List.filterMap_nil, List.append_nil]
      exact stores
  | cons artifact rest ih =>
      obtain ⟨library, fingerprint, path, warnings, others, rfl, _, saved, ran, leaves⟩ :=
        profile_artifacts_cons_eq_ok done complete
      have stored : storedFingerprints
          (⟨artifact.dump, .stored library fingerprint path warnings⟩ :: others) =
            fingerprint :: storedFingerprints others := rfl
      rw [stored] at contained apart ⊢
      rw [leaves, List.append_cons]
      rw [List.append_cons] at apart
      apply ih (stores.save_fingerprint (contained fingerprint List.mem_cons_self) ?_ saved) ran
        (fun report member => complete report (List.mem_cons_of_mem _ member))
        (fun other member => contained other (List.mem_cons_of_mem _ member)) apart
      intro other member same
      rw [List.map_append, List.map_append] at apart
      have alone := (List.nodup_append.1 (List.nodup_append.1 apart).1).2.2
      exact alone _ (List.mem_map_of_mem member) _ (List.mem_singleton.2 rfl) same

theorem forall₂_profile_artifacts
    (done : (profileArtifacts profiles options artifacts tree).1.result = .ok reports)
    (complete : ∀ report ∈ reports, report.IsComplete) :
    reports.map (·.source) = artifacts.map (·.dump) ∧
      List.Forall₂ (fun report fingerprint => report.Tells fingerprint) reports
        (storedFingerprints reports) ∧
      ∀ fingerprint ∈ storedFingerprints reports, ∃ classes : List DumpedClass,
        fingerprint.ProfiledFrom (classes.map (·.toDescriptor options.members)) options.hash := by
  induction artifacts generalizing tree reports with
  | nil =>
      cases done
      exact ⟨rfl, .nil, fun _ member => nomatch member⟩
  | cons artifact rest ih =>
      obtain ⟨library, fingerprint, path, warnings, others, rfl, ready, saved, ran, _⟩ :=
        profile_artifacts_cons_eq_ok done complete
      obtain ⟨sources, told, profiled⟩ :=
        ih ran fun report member => complete report (List.mem_cons_of_mem _ member)
      obtain ⟨classes, _, result⟩ := assess_eq_ready ready
      have described : library.description = fingerprint.description := by
        obtain ⟨_, _, _, rfl⟩ := profile_library_eq_ok_iff.1 result
        rfl
      refine ⟨?_, .cons ⟨congrArg some described, rfl⟩ told, ?_⟩
      · rw [List.map_cons, List.map_cons, sources]
      · exact List.forall_mem_cons.2 ⟨⟨classes, library.description, result⟩, profiled⟩

end FileTree

end LibraryDetection

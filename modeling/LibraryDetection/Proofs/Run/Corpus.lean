import LibraryDetection.Proofs.Run.Batch
import LibraryDetection.Proofs.Run.Detection
import LibraryDetection.Proofs.Store.Contents

/-!
# Corpora of profiled libraries

A batch that profiles libraries into an empty folder stores one file for each of them, and
the corpus of the folder holds a fingerprint for each file, as long as no two libraries
share a file.
-/

namespace LibraryDetection

set_option autoImplicit false

open LibraryDetection.Number

namespace FileTree

variable {tree : FileTree} {profiles : FilePath} {place : List String}
  {fingerprints : List Fingerprint} {fingerprint : Fingerprint}

theorem corpus_of_of_forall₂ {paths : List FilePath}
    (read : List.Forall₂ (fun path fingerprint => tree.readFingerprint path = .ok fingerprint)
      paths fingerprints) : (tree.corpusOf paths).result = .ok ⟨fingerprints, []⟩ := by
  induction read with
  | nil => rfl
  | @cons path fingerprint _ _ first _ ih =>
      rw [corpusOf, first]
      dsimp only
      rw [Logged.result_bind, ih]
      rfl

theorem size_le_of_corpus_of {paths : List FilePath} {corpus : Corpus}
    (done : (tree.corpusOf paths).result = .ok corpus) : corpus.size ≤ paths.length := by
  induction paths generalizing corpus with
  | nil =>
      cases done
      exact Nat.le_refl 0
  | cons path rest ih =>
      rw [corpusOf] at done
      split at done
      · obtain ⟨others, below, same⟩ := Logged.bind_eq_ok done
        cases same
        exact Nat.succ_le_succ (ih below)
      · split at done
        · obtain ⟨_, _, next⟩ := Logged.bind_eq_ok done
          obtain ⟨others, below, same⟩ := Logged.bind_eq_ok next
          cases same
          have part : others.size ≤ rest.length := ih below
          exact Nat.le_succ_of_le part
        · cases done

theorem size_le_of_load_corpus {folder : FilePath} {paths : List FilePath} {corpus : Corpus}
    (listed : tree.fingerprintPaths folder = .ok paths)
    (done : (tree.loadCorpus folder).result = .ok corpus) : corpus.size ≤ paths.length := by
  rw [loadCorpus, listed] at done
  obtain ⟨_, same, next⟩ := Logged.bind_eq_ok done
  cases same
  obtain ⟨found, read, told⟩ := Logged.bind_eq_ok next
  obtain ⟨_, _, told⟩ := Logged.bind_eq_ok told
  cases told
  exact size_le_of_corpus_of read

theorem Stores.fingerprint_paths (stores : tree.Stores profiles place fingerprints)
    (contained : ∀ fingerprint ∈ fingerprints, fingerprint.description.Contained)
    (apart : (fingerprints.map (·.description.storedNames)).Nodup) :
    ∃ paths, tree.fingerprintPaths profiles = .ok paths ∧
      paths.Perm (fingerprints.map (·.description.fingerprintPath profiles)) := by
  obtain ⟨below, searched, once, inside⟩ := search_of_listable stores.ordered
    stores.located stores.folder stores.listable isFingerprintName
  have names : below.Perm (fingerprints.map (·.description.storedNames)) := by
    apply (List.perm_ext_iff_of_nodup once apart).2
    intro names
    rw [inside, List.mem_map]
    constructor
    · rintro ⟨passes, _, found, there⟩
      obtain ⟨fingerprint, member, same⟩ := stores.complete names found there passes
      exact ⟨fingerprint, member, same.symm⟩
    · rintro ⟨fingerprint, member, rfl⟩
      obtain ⟨_, _, _, there⟩ := stores.present fingerprint member
      exact ⟨fingerprint.description.is_fingerprint_name_stored_names, List.cons_ne_nil _ _,
        _, there⟩
  refine ⟨sortBy FilePath.listedBefore (below.map profiles.below), ?_,
    (sort_by_perm _ _).trans ?_⟩
  · rw [FileTree.fingerprintPaths, is_folder_of_folder_at stores.located stores.folder]
    dsimp only
    rw [searched]
  · refine (names.map _).trans (.of_eq ?_)
    rw [List.map_map]
    apply List.map_congr_left
    intro fingerprint member
    exact (LibraryDescription.fingerprint_path_of_relative
      (contained fingerprint member).relative profiles).symm

theorem Stores.holds (stores : tree.Stores profiles place fingerprints)
    (member : fingerprint ∈ fingerprints) {classes : List DumpedClass}
    {options : DetectionOptions}
    (profiled : fingerprint.ProfiledFrom (classes.map (·.toDescriptor options.members))
      options.hash) (small : fingerprint.classCount < 10 ^ digitLimit) :
    tree.Holds (fingerprint.description.fingerprintPath profiles) fingerprint := by
  obtain ⟨record, told, located, found⟩ := stores.present fingerprint member
  have made : ∀ descriptor ∈ classes.map (·.toDescriptor options.members),
      descriptor.Made := by
    intro descriptor isClass
    obtain ⟨dumped, _, rfl⟩ := List.mem_map.1 isClass
    exact ClassDescriptor.made_make _ _ _ _
  exact holds_of_read_bytes profiled made small told (read_bytes_of_get? located found)

theorem Stores.of_empty (ordered : tree.Ordered)
    (empty : tree.entry? profiles = .ok (some .emptyFolder)) :
    ∃ place, tree.Stores profiles place [] := by
  cases located : tree.locate profiles with
  | error error =>
      simp only [located, entry?, Except.map] at empty
      cases empty
  | ok place =>
      rw [entry?_of_locate located] at empty
      have found := Except.ok.inj empty
      refine ⟨place, ordered, located, ⟨[], found⟩, ?_, ?_, ?_⟩
      · rintro names some ⟨entries, there⟩
        obtain ⟨name, rest, rfl⟩ := List.exists_cons_of_ne_nil some
        rw [FileEntry.get?_append, found, Option.bind_some] at there
        cases there
      · intro stored member
        exact absurd member List.not_mem_nil
      · intro names entry there passes
        rw [FileEntry.get?_append, found, Option.bind_some] at there
        cases names with
        | nil => cases passes
        | cons name rest => cases there

theorem exists_loaded {reports : List ProfileReport}
    (told : List.Forall₂ ProfileReport.Tells reports fingerprints)
    (each : ∀ fingerprint ∈ fingerprints, ∃ loaded,
      tree.readFingerprint (fingerprint.description.fingerprintPath profiles) = .ok loaded ∧
        loaded.description = fingerprint.description ∧
        loaded.hashTrees = fingerprint.hashTrees) :
    ∃ loaded, List.Forall₂ ProfileReport.Tells reports loaded ∧
      List.Forall₂ (fun path fingerprint => tree.readFingerprint path = .ok fingerprint)
        (fingerprints.map (·.description.fingerprintPath profiles)) loaded := by
  induction told with
  | nil => exact ⟨[], .nil, .nil⟩
  | @cons report fingerprint _ _ first _ ih =>
      obtain ⟨loaded, read, description, trees⟩ := each fingerprint List.mem_cons_self
      obtain ⟨others, tell, readOthers⟩ :=
        ih fun other member => each other (List.mem_cons_of_mem _ member)
      refine ⟨loaded :: others, .cons ?_ tell, .cons read readOthers⟩
      rw [ProfileReport.Tells, description, trees]
      exact first

end FileTree

section Twins

def twinClasses : List ClassDescriptor :=
  (namedClasses ["a.Codec"]).map (·.toDescriptor ({} : DetectionOptions).members)

def twinTree : PackageTree := ⟨⟨"", [], [⟨"a", twinClasses, []⟩]⟩⟩

def twin (name : String) : Fingerprint :=
  ⟨⟨name, "1", .unknown, none, none⟩, twinTree, twinTree.hashTrees {}⟩

def twinRecord (name : String) : FingerprintRecord :=
  ⟨⟨name, "1", .unknown, none, none⟩, twinTree.classes.map StoredClass.ofDescriptor,
    twinTree.hashTrees {}⟩

def metadataOf (name : String) : FileEntry :=
  .file (Text.Utf8.encode
    ("<library><name>" ++ name ++ "</name><version>1</version></library>"))

def twinFiles (first second : String) (profiles : FileEntry) : FileTree :=
  ⟨.folder [("classes.json", namedDump ["a.Codec"]), ("first.xml", metadataOf first),
    ("profiles", profiles), ("second.xml", metadataOf second)], []⟩

def twinProfiles (files : List (String × String)) : FileEntry :=
  .folder [("Unknown", .folder (files.map fun file =>
    (file.1, .file (Text.Utf8.encode (twinRecord file.2).text))))]

def twinArtifacts : List Artifact :=
  [⟨"classes.json", "first.xml"⟩, ⟨"classes.json", "second.xml"⟩]

def profilesPath : FilePath := ⟨.relative, ["profiles"]⟩

theorem ordered_twin_files (first second : String) :
    (twinFiles first second .emptyFolder).Ordered := by
  have names : ["classes.json", "first.xml", "profiles", "second.xml"].Pairwise (· < ·) := by
    decide
  apply FileEntry.Ordered.folder
  · exact (List.pairwise_map (f := Prod.fst)).1 names
  · intro entry member
    simp only [List.mem_cons, List.not_mem_nil, or_false] at member
    rcases member with rfl | rfl | rfl | rfl
    · exact .file _
    · exact .file _
    · exact FileEntry.ordered_empty_folder
    · exact .file _

theorem to_record_twin (name : String) : (twin name).toRecord = .valid (twinRecord name) := by
  refine Fingerprint.to_record_eq_valid_iff.2 ⟨?_, rfl⟩
  change ∀ member ∈ twinTree.classes, member.kind ∈ ClassKind.all
  decide

theorem profile_library_twin (name : String) :
    (profileLibrary twinClasses ⟨name, "1", .unknown, none, none⟩ {}).result =
      .ok (twin name) :=
  profile_library_eq_ok_iff.2 ⟨twinTree, rfl, by decide, rfl⟩

theorem exists_twin_report {before ready after : FileTree} {name metadata file : String}
    (read : (before.readMetadata (FilePath.ofText metadata)).toOption =
        some ⟨name, "1", .unknown, none, none⟩ ∧
      (before.readClassDump (FilePath.ofText "classes.json")).toOption =
        some (namedClasses ["a.Codec"]))
    (path : (twin name).description.fingerprintPath profilesPath =
      ⟨.relative, ["profiles", "Unknown", file]⟩)
    (folders : (before.makeFolders ⟨.relative, ["profiles", "Unknown"]⟩).1 = .ok ready)
    (written : ready.writeText ⟨.relative, ["profiles", "Unknown", file]⟩
      (twinRecord name).text = .ok after) :
    ∃ report,
      (before.profileArtifact profilesPath {} ⟨"classes.json", metadata⟩).1.result =
        .ok report ∧
      (before.profileArtifact profilesPath {} ⟨"classes.json", metadata⟩).2 = after ∧
      report.IsComplete ∧ report.outcome.fingerprint? = some (twin name) := by
  have saved : (before.saveFingerprint profilesPath (twin name)).1.result =
        .ok ((twin name).description.fingerprintPath profilesPath) ∧
      (before.saveFingerprint profilesPath (twin name)).2 = after := by
    apply FileTree.save_fingerprint_of_write_text _ (to_record_twin name)
    · rw [path]
      exact written
    · rw [path]
      exact folders
  obtain ⟨warnings, done⟩ := @FileTree.profile_artifact_of_saved before {}
    ⟨"classes.json", metadata⟩ _ _ _ _ _ (toOption_eq_some_iff.1 read.1)
    (toOption_eq_some_iff.1 read.2) (profile_library_twin name) saved.1
  refine ⟨_, done, ?_, ⟨rfl, rfl⟩, rfl⟩
  obtain ⟨_, _, _, _, same, _, _, left⟩ := FileTree.profile_artifact_eq_ok done rfl
  cases same
  exact left.symm.trans saved.2

theorem exists_twin_reports {first second file other : String} {files : List (String × String)}
    (facts : ((twin first).description.fingerprintPath profilesPath =
          ⟨.relative, ["profiles", "Unknown", file]⟩ ∧
        (twin second).description.fingerprintPath profilesPath =
          ⟨.relative, ["profiles", "Unknown", other]⟩) ∧
      (((twinFiles first second .emptyFolder).readMetadata
            (FilePath.ofText "first.xml")).toOption = some ⟨first, "1", .unknown, none, none⟩ ∧
        ((twinFiles first second .emptyFolder).readClassDump
            (FilePath.ofText "classes.json")).toOption = some (namedClasses ["a.Codec"])) ∧
      ((twinFiles first second (twinProfiles [(file, first)])).readMetadata
            (FilePath.ofText "second.xml")).toOption =
          some ⟨second, "1", .unknown, none, none⟩ ∧
        ((twinFiles first second (twinProfiles [(file, first)])).readClassDump
            (FilePath.ofText "classes.json")).toOption = some (namedClasses ["a.Codec"]))
    (written : (twinFiles first second (twinProfiles [])).writeText
      ⟨.relative, ["profiles", "Unknown", file]⟩ (twinRecord first).text =
        .ok (twinFiles first second (twinProfiles [(file, first)])))
    (writtenNext : (twinFiles first second (twinProfiles [(file, first)])).writeText
      ⟨.relative, ["profiles", "Unknown", other]⟩ (twinRecord second).text =
        .ok (twinFiles first second (twinProfiles files))) :
    ∃ reports,
      (FileTree.profileArtifacts profilesPath {} twinArtifacts
        (twinFiles first second .emptyFolder)).1.result = .ok reports ∧
      (FileTree.profileArtifacts profilesPath {} twinArtifacts
        (twinFiles first second .emptyFolder)).2 =
          twinFiles first second (twinProfiles files) ∧
      (∀ report ∈ reports, report.IsComplete) ∧
      reports.map (·.outcome.fingerprint?) = [some (twin first), some (twin second)] := by
  obtain ⟨paths, read, readNext⟩ := facts
  obtain ⟨report, done, leaves, complete, stored⟩ := exists_twin_report read paths.1 rfl written
  obtain ⟨next, nextDone, nextLeaves, nextComplete, nextStored⟩ :=
    exists_twin_report readNext paths.2 rfl writtenNext
  have rest := @FileTree.profile_artifacts_of_ok _ _ profilesPath {} _ [] _ _ nextDone
    nextLeaves rfl
  have whole := FileTree.profile_artifacts_of_ok done leaves rest.1
  refine ⟨[report, next], whole.1, whole.2.trans rest.2, ?_, ?_⟩
  · simp only [List.forall_mem_cons, List.not_mem_nil, false_implies, implies_true, and_true]
    exact ⟨complete, nextComplete⟩
  · rw [List.map_cons, List.map_singleton, stored, nextStored]

theorem exists_apart_reports :
    ∃ reports,
      (FileTree.profileArtifacts profilesPath {} twinArtifacts
        (twinFiles "codec" "json" .emptyFolder)).1.result = .ok reports ∧
      (FileTree.profileArtifacts profilesPath {} twinArtifacts
        (twinFiles "codec" "json" .emptyFolder)).2 = twinFiles "codec" "json"
          (twinProfiles [("codec_1.lib", "codec"), ("json_1.lib", "json")]) ∧
      (∀ report ∈ reports, report.IsComplete) ∧
      reports.map (·.outcome.fingerprint?) = [some (twin "codec"), some (twin "json")] := by
  apply @exists_twin_reports "codec" "json" "codec_1.lib" "json_1.lib"
  · decide +kernel
  · rfl
  · rfl

theorem exists_clashing_reports :
    ∃ reports,
      (FileTree.profileArtifacts profilesPath {} twinArtifacts
        (twinFiles "codec core" "codec-core" .emptyFolder)).1.result = .ok reports ∧
      (FileTree.profileArtifacts profilesPath {} twinArtifacts
        (twinFiles "codec core" "codec-core" .emptyFolder)).2 =
          twinFiles "codec core" "codec-core"
            (twinProfiles [("codec-core_1.lib", "codec-core")]) ∧
      (∀ report ∈ reports, report.IsComplete) ∧
      reports.map (·.outcome.fingerprint?) =
        [some (twin "codec core"), some (twin "codec-core")] := by
  apply @exists_twin_reports "codec core" "codec-core" "codec-core_1.lib" "codec-core_1.lib"
  · decide +kernel
  · rfl
  · rfl

end Twins

namespace FileTree

/-- Of shallow libraries that a batch stores in an empty folder, no two in the same file, the
corpus of the folder holds one fingerprint each, and skips none. -/
theorem load_corpus_of_profile_artifacts {tree : FileTree} {profiles : FilePath}
    {options : DetectionOptions} {artifacts : List Artifact} {reports : List ProfileReport}
    (ordered : tree.Ordered)
    (empty : tree.entry? profiles = .ok (some .emptyFolder))
    (done : (profileArtifacts profiles options artifacts tree).1.result = .ok reports)
    (complete : ∀ report ∈ reports, report.IsComplete)
    (small : ∀ report ∈ reports, report.classCount < 10 ^ digitLimit)
    (shallow : ∀ fingerprint ∈ storedFingerprints reports, fingerprint.Shallow)
    (contained : ∀ fingerprint ∈ storedFingerprints reports, fingerprint.description.Contained)
    (apart : ((storedFingerprints reports).map
      (·.description.fingerprintPath profiles)).Nodup) :
    reports.map (·.source) = artifacts.map (·.dump) ∧
      ∃ corpus loaded,
        ((profileArtifacts profiles options artifacts tree).2.loadCorpus profiles).result =
          .ok corpus ∧
        corpus.skipped = [] ∧ corpus.fingerprints.Perm loaded ∧
        List.Forall₂ ProfileReport.Tells reports loaded := by
  obtain ⟨sources, told, profiled⟩ := forall₂_profile_artifacts done complete
  obtain ⟨place, stores⟩ := Stores.of_empty ordered empty
  -- below one directory different paths are different names
  have names : ((storedFingerprints reports).map (·.description.storedNames)).Nodup := by
    apply List.Nodup.of_map fun names => FilePath.mk profiles.anchoring (profiles.names ++ names)
    rw [List.map_map]
    refine (List.map_congr_left ?_).subst apart
    intro fingerprint member
    exact LibraryDescription.fingerprint_path_of_relative
      (contained fingerprint member).relative profiles
  have after := stores.profile_artifacts done complete contained names
  rw [List.nil_append] at after
  obtain ⟨paths, searched, listed⟩ := after.fingerprint_paths contained names
  have each : ∀ fingerprint ∈ storedFingerprints reports, ∃ loaded,
      (profileArtifacts profiles options artifacts tree).2.readFingerprint
          (fingerprint.description.fingerprintPath profiles) = .ok loaded ∧
        loaded.description = fingerprint.description ∧
        loaded.hashTrees = fingerprint.hashTrees := by
    intro fingerprint member
    obtain ⟨classes, origin⟩ := profiled fingerprint member
    obtain ⟨report, isReport, stored⟩ := List.mem_filterMap.1 member
    have count := small report isReport
    rw [ProfileReport.classCount, stored] at count
    exact (after.holds member origin count).exists_loaded (shallow fingerprint member)
  obtain ⟨loaded, tell, read⟩ := exists_loaded told each
  -- the folder is listed by paths and not in the order of the reports
  obtain ⟨listing, readListing, order⟩ := List.perm_comp_forall₂ listed read
  refine ⟨sources, ⟨listing, []⟩, loaded, ?_, rfl, order, tell⟩
  rw [loadCorpus, Logged.result_bind, searched]
  change ((corpusOf _ paths) >>= _).result = _
  rw [Logged.result_bind, corpus_of_of_forall₂ readListing]
  rfl

/-- Two libraries with files of their own are stored and loaded. -/
theorem load_corpus_of_apart :
    ∃ reports corpus loaded,
      (profileArtifacts profilesPath {} twinArtifacts
        (twinFiles "codec" "json" .emptyFolder)).1.result = .ok reports ∧
      (∀ report ∈ reports, report.IsComplete) ∧
      (∀ report ∈ reports, report.classCount < 10 ^ digitLimit) ∧
      (∀ fingerprint ∈ storedFingerprints reports, fingerprint.Shallow) ∧
      (∀ fingerprint ∈ storedFingerprints reports, fingerprint.description.Contained) ∧
      ((storedFingerprints reports).map
        (·.description.fingerprintPath profilesPath)).Nodup ∧
      ((profileArtifacts profilesPath {} twinArtifacts
        (twinFiles "codec" "json" .emptyFolder)).2.loadCorpus profilesPath).result =
          .ok corpus ∧
      corpus.skipped = [] ∧ corpus.fingerprints.Perm loaded ∧
      List.Forall₂ ProfileReport.Tells reports loaded := by
  obtain ⟨reports, done, _, complete, stored⟩ := exists_apart_reports
  have listed : storedFingerprints reports = [twin "codec", twin "json"] := by
    rw [stored_fingerprints_eq, stored]
    rfl
  have facts : (∀ found ∈ [some (twin "codec"), some (twin "json")],
        (found.map (·.classCount)).getD 0 < 10 ^ digitLimit) ∧
      (∀ fingerprint ∈ [twin "codec", twin "json"], fingerprint.Shallow) ∧
      (∀ fingerprint ∈ [twin "codec", twin "json"], fingerprint.description.Contained) ∧
      ([twin "codec", twin "json"].map
        (·.description.fingerprintPath profilesPath)).Nodup := by
    decide +kernel
  obtain ⟨counts, shallow, contained, apart⟩ := facts
  rw [← stored] at counts
  rw [← listed] at shallow contained apart
  have small : ∀ report ∈ reports, report.classCount < 10 ^ digitLimit := by
    intro report member
    exact counts _ (List.mem_map_of_mem member)
  obtain ⟨_, corpus, loaded, load, skipped, order, told⟩ := load_corpus_of_profile_artifacts
    (ordered_twin_files "codec" "json") rfl done complete small shallow contained apart
  exact ⟨reports, corpus, loaded, done, complete, small, shallow, contained, apart, load, skipped,
    order, told⟩

/-- Two libraries whose names differ in a blank and a dash share a file, and one of them is
lost. -/
theorem corpus_of_clashing :
    ∃ reports,
      FileTree.entry? (twinFiles "codec core" "codec-core" .emptyFolder) profilesPath =
        .ok (some .emptyFolder) ∧
      (profileArtifacts profilesPath {} twinArtifacts
        (twinFiles "codec core" "codec-core" .emptyFolder)).1.result = .ok reports ∧
      (∀ report ∈ reports, report.IsComplete) ∧
      ((storedFingerprints reports).map fun fingerprint =>
        (fingerprint.description.category, fingerprint.description.name,
          fingerprint.description.version)).Nodup ∧
      ∀ corpus, ((profileArtifacts profilesPath {} twinArtifacts
        (twinFiles "codec core" "codec-core" .emptyFolder)).2.loadCorpus profilesPath).result =
          .ok corpus → corpus.size < reports.length := by
  obtain ⟨reports, done, leaves, complete, stored⟩ := exists_clashing_reports
  have listed : storedFingerprints reports = [twin "codec core", twin "codec-core"] := by
    rw [stored_fingerprints_eq, stored]
    rfl
  have length : reports.length = 2 := by
    have same := congrArg List.length stored
    rw [List.length_map] at same
    exact same
  refine ⟨reports, rfl, done, complete, ?_, ?_⟩
  · rw [listed]
    decide
  · intro corpus loaded
    rw [leaves] at loaded
    have paths : ((twinFiles "codec core" "codec-core"
        (twinProfiles [("codec-core_1.lib", "codec-core")])).fingerprintPaths
          profilesPath).toOption.map List.length = some 1 := by
      rfl
    obtain ⟨found, listing, one⟩ := Option.map_eq_some_iff.1 paths
    have bound := size_le_of_load_corpus (toOption_eq_some_iff.1 listing) loaded
    omega

end FileTree

end LibraryDetection
import LibraryDetection.Proofs.ClassDump.File
import LibraryDetection.Proofs.Matching.Embedding
import LibraryDetection.Proofs.Matching.Ranking
import LibraryDetection.Proofs.Matching.Verdict
import LibraryDetection.Proofs.Run.Profiling
import LibraryDetection.Run.Matching

/-!
# Detection of stored libraries

A library whose fingerprint was stored is found exactly in every application that holds its
records and no other class at or below the roots of its hash trees.
-/

namespace LibraryDetection

set_option autoImplicit false

open LibraryDetection.Number

/-- The dump at the path holds the records of a library, in any order and among others, and
no class of the others is counted at or below one of the places. -/
def FileTree.HoldsLibrary (files : FileTree) (path : FilePath) (library : List Json)
    (places : List PackagePath) : Prop :=
  ∃ records others classes, files.HoldsRecords path records ∧
    records.Perm (library ++ others) ∧ DumpedClass.allOfJson 0 others = .ok classes ∧
    ∀ dumped ∈ classes, dumped.kind ≠ .synthetic →
      dumped.packagePath.Valid ∧ ∀ place ∈ places, ¬ place <+: dumped.packagePath

structure LibraryMatch.IsWhole (found : LibraryMatch) (report : ProfileReport) : Prop where
  library : report.outcome.library?.map (·.description) = some found.description
  strategy : found.strategy = .exact
  score : found.score = 1.0
  matchedClasses : found.matchedClasses = report.classCount
  classCount : found.classCount = report.classCount

namespace PackageTree

variable {library application : List ClassDescriptor} {libraryTree : PackageTree}

theorem exists_of_classes_of_embedded (libraryMade : ofClasses library = .ok libraryTree)
    (others : ∀ descriptor ∈ application, descriptor ∈ library ∨
      (descriptor.kind ≠ .synthetic → descriptor.package.Valid)) :
    ∃ applicationTree, ofClasses application = .ok applicationTree := by
  apply of_classes_is_ok_iff.2
  intro descriptor member counted
  rcases others descriptor member with inLibrary | valid
  · exact of_classes_is_ok_iff.1 ⟨libraryTree, libraryMade⟩ descriptor inLibrary counted
  · exact valid counted

end PackageTree

namespace Fingerprint

variable {fingerprint : Fingerprint} {library application : List ClassDescriptor}
  {options : HashOptions} {applicationTree : PackageTree}

theorem exists_exact_match_of_embedded (profiled : fingerprint.ProfiledFrom library options)
    (applicationMade : PackageTree.ofClasses application = .ok applicationTree)
    (holds : ∀ tree ∈ fingerprint.hashTrees,
      PackageTree.HoldsAt library application tree.rootPath) (settings : MatchSettings) :
    ∃ paths, fingerprint.match? (QueryIndex.ofTree (applicationTree.wholeHashTree options))
      settings = .ok (some (fingerprint.exactMatch settings paths)) := by
  have places : ∃ paths, exactPaths?
      (QueryIndex.ofTree (applicationTree.wholeHashTree options)) fingerprint.hashTrees =
        some paths := by
    apply (exists_exact_paths_iff _ _).2
    intro tree member
    obtain ⟨entry, inApplication, sameHash⟩ :=
      exists_node_of_embedded profiled applicationMade holds tree member
    rw [← sameHash]
    exact QueryIndex.subtree_path?_of_mem inApplication
  obtain ⟨paths, found⟩ := places
  exact ⟨paths, match?_of_exact_paths profiled rfl settings found⟩

end Fingerprint

namespace FileTree

variable {files : FileTree} {options : DetectionOptions} {application : String}
  {corpus : Corpus} {settings : MatchSettings}

/-- An application that holds the records of a library has its classes, and beside them only
classes with valid paths that are not at or below the places. -/
theorem exists_classes_of_holds_library {path : FilePath} {library : List Json}
    {places : List PackagePath} {classes : List DumpedClass} (members : MemberOptions)
    (holds : files.HoldsLibrary path library places)
    (read : DumpedClass.allOfJson 0 library = .ok classes) :
    ∃ all, files.readClassDump path = .ok all ∧
      (∀ descriptor ∈ all.map (·.toDescriptor members),
        descriptor ∈ classes.map (·.toDescriptor members) ∨
          (descriptor.kind ≠ .synthetic → descriptor.package.Valid)) ∧
      ∀ place ∈ places, PackageTree.HoldsAt (classes.map (·.toDescriptor members))
        (all.map (·.toDescriptor members)) place := by
  obtain ⟨records, others, more, stored, mixed, readOthers, apart⟩ := holds
  have together := DumpedClass.all_of_json_append read readOthers
  obtain ⟨all, readAll, same⟩ := DumpedClass.exists_all_of_json_of_perm mixed together
  have either : ∀ descriptor ∈ all.map (·.toDescriptor members),
      descriptor ∈ classes.map (·.toDescriptor members) ∨
        (descriptor.kind ≠ .synthetic → descriptor.package.Valid ∧
          ∀ place ∈ places, ¬ place <+: descriptor.package) := by
    intro descriptor member
    obtain ⟨dumped, inAll, rfl⟩ := List.mem_map.1 member
    rcases List.mem_append.1 (same.mem_iff.1 inAll) with inLibrary | inOthers
    · exact .inl (List.mem_map_of_mem inLibrary)
    · exact .inr (apart dumped inOthers)
  refine ⟨all, read_class_dump_of_holds_records stored readAll, ?_, ?_⟩
  · intro descriptor member
    exact (either descriptor member).imp id fun outside counted => (outside counted).1
  · intro place isPlace
    constructor
    · intro descriptor member
      obtain ⟨dumped, inClasses, rfl⟩ := List.mem_map.1 member
      exact List.mem_map_of_mem (same.mem_iff.2 (List.mem_append_left more inClasses))
    · intro descriptor member counted below
      rcases either descriptor member with inLibrary | outside
      · exact inLibrary
      · exact absurd below ((outside counted).2 place isPlace)

theorem result_match_application_eq :
    (files.matchApplication corpus settings options application).result =
      match files.readClassDump (FilePath.ofText application) with
      | .error error => .error (.dump error)
      | .ok classes =>
          match PackageTree.ofClasses (classes.map (·.toDescriptor options.members)) with
          | .error malformed => .error (.profile (.malformedPath malformed))
          | .ok tree =>
              match matchCorpus (QueryIndex.ofTree (tree.wholeHashTree options.hash))
                  corpus.fingerprints settings with
              | .error error => .error (.score error)
              | .ok found =>
                  let index := QueryIndex.ofTree (tree.wholeHashTree options.hash)
                  .ok ⟨application, corpus.size, settings,
                    .matched index.tree.classCount (matchWarnings index corpus) found⟩ := by
  rw [matchApplication, Logged.result_bind, result_load_class_dump]
  cases files.readClassDump (FilePath.ofText application) with
  | error error => rfl
  | ok classes =>
      change (Logged.ofExcept _ (applicationIndex options classes) >>= _).result = _
      rw [applicationIndex]
      dsimp only
      cases PackageTree.ofClasses (classes.map (·.toDescriptor options.members)) with
      | error malformed => rfl
      | ok tree =>
          dsimp only
          rw [Logged.result_bind]
          change (Logged.ofExcept _ (matchCorpus _ _ _) >>= _).result = _
          cases matchCorpus (QueryIndex.ofTree (tree.wholeHashTree options.hash))
              corpus.fingerprints settings with
          | error error => rfl
          | ok found => rfl

theorem result_match_application {classes : List DumpedClass} {tree : PackageTree}
    (read : files.readClassDump (FilePath.ofText application) = .ok classes)
    (grown : PackageTree.ofClasses (classes.map (·.toDescriptor options.members)) = .ok tree) :
    (files.matchApplication corpus settings options application).result =
      match matchCorpus (QueryIndex.ofTree (tree.wholeHashTree options.hash))
          corpus.fingerprints settings with
      | .error error => .error (.score error)
      | .ok found =>
          let index := QueryIndex.ofTree (tree.wholeHashTree options.hash)
          .ok ⟨application, corpus.size, settings,
            .matched index.tree.classCount (matchWarnings index corpus) found⟩ := by
  rw [result_match_application_eq, read]
  dsimp only
  rw [grown]

theorem exists_not_genuine_of_match_corpus {index : QueryIndex} {error : ScoreError}
    (failed : matchCorpus index corpus.fingerprints settings = .error error) :
    ∃ other ∈ corpus.fingerprints, ¬ other.Genuine := by
  obtain ⟨other, member, fault⟩ := exists_error_of_match_corpus failed
  refine ⟨other, member, ?_⟩
  intro genuine
  obtain ⟨verdict, result⟩ := Fingerprint.exists_match? genuine index settings
  rw [result] at fault
  cases fault

theorem listed_or_exists_not_genuine {fingerprint loaded : Fingerprint} {library : List Json}
    {classes : List DumpedClass} (read : DumpedClass.allOfJson 0 library = .ok classes)
    (profiled : fingerprint.ProfiledFrom (classes.map (·.toDescriptor options.members))
      options.hash)
    (sameDescription : loaded.description = fingerprint.description)
    (sameTrees : loaded.hashTrees = fingerprint.hashTrees)
    (holds : files.HoldsLibrary (FilePath.ofText application) library
      (loaded.hashTrees.map (·.rootPath)))
    (inCorpus : loaded ∈ corpus.fingerprints) :
    (∃ report paths,
      (files.matchApplication corpus settings options application).result = .ok report ∧
        fingerprint.exactMatch settings paths ∈ report.outcome.found) ∨
      ((files.matchApplication corpus settings options application).result =
          .error (.score .tooLarge) ∧
        ∃ other ∈ corpus.fingerprints, ¬ other.Genuine) := by
  rw [sameTrees] at holds
  obtain ⟨all, readAll, others, embedded⟩ :=
    exists_classes_of_holds_library options.members holds read
  obtain ⟨tree, grown⟩ :=
    PackageTree.exists_of_classes_of_embedded profiled.of_classes_eq others
  have atRoots : ∀ hashed ∈ fingerprint.hashTrees, PackageTree.HoldsAt
      (classes.map (·.toDescriptor options.members)) (all.map (·.toDescriptor options.members))
        hashed.rootPath := by
    intro hashed member
    exact embedded hashed.rootPath (List.mem_map_of_mem member)
  obtain ⟨paths, verdict⟩ :=
    Fingerprint.exists_exact_match_of_embedded profiled grown atRoots settings
  rw [← Fingerprint.match?_congr sameDescription sameTrees] at verdict
  rw [result_match_application readAll grown]
  cases done : matchCorpus (QueryIndex.ofTree (tree.wholeHashTree options.hash))
      corpus.fingerprints settings with
  | ok found => exact .inl ⟨_, paths, rfl, mem_of_match_corpus done inCorpus verdict⟩
  | error error =>
      cases error
      exact .inr ⟨rfl, exists_not_genuine_of_match_corpus done⟩

end FileTree

section Codec

def namedRecord (name : String) : Json := .object [("name", .text name)]

def namedClasses (names : List String) : List DumpedClass :=
  names.map fun name => ⟨name, .topLevel, true, []⟩

def namedDump (names : List String) : FileEntry :=
  .file (Text.Utf8.encode (Json.write Json.recordStyle (.list (names.map namedRecord))))

def codecNames : List String := ["a.Codec", "a.b.Coder"]

def applicationNames : List String := ["c.Main", "a.b.Coder", "a.Codec"]

def codecFiles : FileTree :=
  ⟨.folder [("app.json", namedDump applicationNames), ("classes.json", namedDump codecNames),
    ("library.xml", .file (Text.Utf8.encode
      "<library><name>codec</name><version>1</version></library>"))], []⟩

def codecArtifact : Artifact := ⟨"classes.json", "library.xml"⟩

theorem plain_named_record (name : String) : (namedRecord name).Plain := by
  apply Json.Plain.object
  · exact List.nodup_singleton _
  · intro field member
    cases List.mem_singleton.1 member
    exact .text name

theorem holds_records_of_named_dump {files : FileTree} {path : FilePath} {place names : List String}
    (located : files.locate path = .ok place)
    (found : files.root.get? place = some (namedDump names)) :
    files.HoldsRecords path (names.map namedRecord) := by
  apply FileTree.holds_records_of_read_bytes
  · intro record member
    obtain ⟨name, _, rfl⟩ := List.mem_map.1 member
    exact plain_named_record name
  · exact FileTree.read_bytes_of_get? located found

theorem ordered_codec_files : codecFiles.Ordered := by
  apply FileEntry.Ordered.folder
  · decide
  · intro entry member
    simp only [List.mem_cons, List.not_mem_nil, or_false] at member
    rcases member with rfl | rfl | rfl <;> exact .file _

theorem holds_records_codec_dump : codecFiles.HoldsRecords (FilePath.ofText codecArtifact.dump)
    (codecNames.map namedRecord) := by
  have located : codecFiles.locate (FilePath.ofText "classes.json") = .ok ["classes.json"] := by
    rfl
  exact holds_records_of_named_dump located rfl

theorem holds_records_codec_application : codecFiles.HoldsRecords (FilePath.ofText "app.json")
    (applicationNames.map namedRecord) := by
  have located : codecFiles.locate (FilePath.ofText "app.json") = .ok ["app.json"] := by
    rfl
  exact holds_records_of_named_dump located rfl

theorem of_json_named_record {name : String} (some : name ≠ "") (free : '/' ∉ name.toList)
    (index : Nat) : DumpedClass.ofJson index (namedRecord name) =
      .ok ⟨name, ClassKind.ofName name, true, []⟩ := by
  have named : Json.field? "name" [("name", .text name)] = Option.some (.text name) := rfl
  rw [namedRecord, DumpedClass.ofJson, named]
  dsimp only
  rw [if_neg some, Text.replace_char_of_not_mem free]
  rfl

theorem all_of_json_named_records {names : List String}
    (plain : ∀ name ∈ names,
      name ≠ "" ∧ '/' ∉ name.toList ∧ ClassKind.ofName name = .topLevel) (index : Nat) :
    DumpedClass.allOfJson index (names.map namedRecord) = .ok (namedClasses names) := by
  induction names generalizing index with
  | nil => rfl
  | cons name others ih =>
      obtain ⟨⟨some, free, kind⟩, plain⟩ := List.forall_mem_cons.1 plain
      rw [List.map_cons, DumpedClass.allOfJson, of_json_named_record some free, ih plain, kind]
      rfl

theorem all_of_json_codec :
    DumpedClass.allOfJson 0 (codecNames.map namedRecord) = .ok (namedClasses codecNames) ∧
      DumpedClass.allOfJson 0 (applicationNames.map namedRecord) =
        .ok (namedClasses applicationNames) ∧
      DumpedClass.allOfJson 0 [namedRecord "c.Main"] = .ok (namedClasses ["c.Main"]) := by
  have plain : ∀ name ∈ applicationNames,
      name ≠ "" ∧ '/' ∉ name.toList ∧ ClassKind.ofName name = .topLevel := by
    decide +kernel
  have inLibrary : ∀ name ∈ codecNames, name ∈ applicationNames := by decide
  refine ⟨all_of_json_named_records (fun name member => plain name (inLibrary name member)) 0,
    all_of_json_named_records plain 0, @all_of_json_named_records ["c.Main"] ?_ 0⟩
  intro name member
  rw [List.mem_singleton.1 member]
  exact plain _ List.mem_cons_self

theorem holds_library_codec_application : codecFiles.HoldsLibrary (FilePath.ofText "app.json")
    (codecNames.map namedRecord) [["a"]] := by
  have place : DumpedClass.packagePath ⟨"c.Main", .topLevel, true, []⟩ = ["c"] := by
    rfl
  refine ⟨_, _, _, holds_records_codec_application, ?_, all_of_json_codec.2.2, ?_⟩
  · apply (List.Perm.cons _ (List.Perm.swap _ _ [])).trans
    exact @List.perm_append_comm _ [namedRecord "c.Main"] (codecNames.map namedRecord)
  · intro dumped member _
    cases List.mem_singleton.1 member
    rw [place]
    constructor
    · intro segment inPath
      cases List.mem_singleton.1 inPath
      decide
    · decide

/-- A library of named classes is stored if its fingerprint can be saved.  What is looked at of
the fingerprint is evaluated together with that. -/
theorem exists_named_report {files : FileTree} {names : List String} {α : Type}
    {observe : Fingerprint → α} {seen : α}
    (metadata : files.readMetadata (FilePath.ofText codecArtifact.metadata) =
      .ok ⟨"codec", "1", .unknown, none, none⟩)
    (dump : files.readClassDump (FilePath.ofText codecArtifact.dump) = .ok (namedClasses names))
    (told : (profileLibrary
      ((namedClasses names).map (·.toDescriptor ({} : DetectionOptions).members))
      ⟨"codec", "1", .unknown, none, none⟩ ({} : DetectionOptions).hash).result.toOption.map
        (fun fingerprint => (observe fingerprint,
          (files.saveFingerprint (FilePath.ofText "profiles")
            fingerprint).1.result.toOption.isSome)) = some (seen, true)) :
    ∃ report stored,
      (files.profileArtifact (FilePath.ofText "profiles") {} codecArtifact).1.result =
        .ok report ∧
      report.isSkipped = false ∧ report.outcome.fingerprint? = some stored ∧
      report.classCount = stored.classCount ∧ observe stored = seen := by
  obtain ⟨fingerprint, found, facts⟩ := Option.map_eq_some_iff.1 told
  obtain ⟨same, written⟩ := Prod.mk.inj facts
  obtain ⟨path, saved⟩ := Option.isSome_iff_exists.1 written
  obtain ⟨warnings, done⟩ := FileTree.profile_artifact_of_saved metadata dump
    (toOption_eq_some_iff.1 found) (toOption_eq_some_iff.1 saved)
  exact ⟨_, fingerprint, done, rfl, rfl, rfl, same⟩

theorem exists_codec_report :
    ∃ report stored,
      (codecFiles.profileArtifact (FilePath.ofText "profiles") {} codecArtifact).1.result =
        .ok report ∧
      report.isSkipped = false ∧ report.classCount = 2 ∧
      report.outcome.fingerprint? = some stored ∧ stored.hashTrees.map (·.rootPath) = [["a"]] ∧
      stored.Shallow := by
  have dump :=
    FileTree.read_class_dump_of_holds_records holds_records_codec_dump all_of_json_codec.1
  obtain ⟨report, stored, done, kept, told, count, seen⟩ := @exists_named_report codecFiles
    codecNames _ (fun stored =>
      (stored.classCount, stored.hashTrees.map (·.rootPath), decide stored.Shallow))
    (2, [["a"]], true) rfl dump (by decide +kernel)
  simp only [Prod.mk.injEq] at seen
  obtain ⟨two, roots, shallow⟩ := seen
  exact ⟨report, stored, done, kept, count.trans two, told, roots, of_decide_eq_true shallow⟩

end Codec

/-- The fingerprint that a run has stored is read back if it is shallow.  Once it is, every
application that holds the records of the library lists it as found exactly, whatever else the
corpus holds, unless some member of the corpus has hash trees that no package has. -/
theorem FileTree.detects_stored_library {files : FileTree} {options : DetectionOptions}
    {profiles : String} {artifact : Artifact} {library : List Json}
    {report : ProfileReport} (ordered : files.Ordered)
    (done : (files.profileArtifact (FilePath.ofText profiles) options artifact).1.result =
      .ok report)
    (kept : report.isSkipped = false) (small : report.classCount < 10 ^ digitLimit)
    (dump : files.HoldsRecords (FilePath.ofText artifact.dump) library) :
    ∃ stored path, report.outcome.fingerprint? = some stored ∧
      report.outcome.path? = some path ∧
      ((∃ loaded, (files.profileArtifact (FilePath.ofText profiles) options
        artifact).2.readFingerprint (FilePath.ofText path.text) = .ok loaded) ↔ stored.Shallow) ∧
      ∀ loaded, (files.profileArtifact (FilePath.ofText profiles) options
          artifact).2.readFingerprint (FilePath.ofText path.text) = .ok loaded →
        loaded.hashTrees = stored.hashTrees ∧ loaded.Genuine ∧
        ∀ (later : FileTree) (application : String) (corpus : Corpus) (settings : MatchSettings),
          later.HoldsLibrary (FilePath.ofText application) library
            (loaded.hashTrees.map (·.rootPath)) →
          loaded ∈ corpus.fingerprints →
          (∃ matched,
            (later.matchApplication corpus settings options application).result = .ok matched ∧
              ∃ found ∈ matched.outcome.found, found.IsWhole report) ∨
            ((later.matchApplication corpus settings options application).result =
                .error (.score .tooLarge) ∧
              ∃ other ∈ corpus.fingerprints, ¬ other.Genuine) := by
  obtain ⟨classes, stored, path, read, profiled, told, described, written, holds⟩ :=
    exists_holds_of_stored ordered done kept small
  have records := all_of_json_of_read_class_dump dump read
  refine ⟨stored, path, told, written, holds.loads_iff, ?_⟩
  intro loaded readBack
  obtain ⟨sameDescription, sameTrees⟩ := holds.same loaded readBack
  have genuine : loaded.Genuine := by
    rw [Fingerprint.Genuine, sameTrees]
    exact profiled.built
  refine ⟨sameTrees, genuine, ?_⟩
  intro later application corpus settings present inCorpus
  have classCount : stored.classCount = report.classCount := by
    rw [ProfileReport.classCount, told]
    rfl
  rcases listed_or_exists_not_genuine records profiled sameDescription sameTrees present inCorpus
    with ⟨matched, paths, listed, found⟩ | fault
  · exact .inl ⟨matched, listed, _, found, described, rfl, rfl, classCount, classCount⟩
  · exact .inr fault

theorem exists_codec_loaded :
    ∃ report stored path loaded,
      (codecFiles.profileArtifact (FilePath.ofText "profiles") {} codecArtifact).1.result =
        .ok report ∧
      report.isSkipped = false ∧ report.classCount < 10 ^ digitLimit ∧
      report.outcome.fingerprint? = some stored ∧ report.outcome.path? = some path ∧
      (codecFiles.profileArtifact (FilePath.ofText "profiles") {}
        codecArtifact).2.readFingerprint (FilePath.ofText path.text) = .ok loaded ∧
      codecFiles.HoldsLibrary (FilePath.ofText "app.json") (codecNames.map namedRecord)
        (loaded.hashTrees.map (·.rootPath)) := by
  obtain ⟨report, stored, done, kept, count, told, roots, shallow⟩ := exists_codec_report
  have small : report.classCount < 10 ^ digitLimit := by
    rw [count]
    decide +kernel
  obtain ⟨_, again, path, _, _, toldAgain, _, written, holds⟩ :=
    FileTree.exists_holds_of_stored ordered_codec_files done kept small
  rw [told] at toldAgain
  cases toldAgain
  obtain ⟨loaded, readBack, _, sameTrees⟩ := holds.exists_loaded shallow
  refine ⟨report, stored, path, loaded, done, kept, small, told, written, readBack, ?_⟩
  rw [sameTrees, roots]
  exact holds_library_codec_application

theorem detects_codec :
    ∃ report path loaded matched,
      (codecFiles.profileArtifact (FilePath.ofText "profiles") {} codecArtifact).1.result =
        .ok report ∧
      report.isSkipped = false ∧
      codecFiles.HoldsRecords (FilePath.ofText codecArtifact.dump) (codecNames.map namedRecord) ∧
      report.outcome.path? = some path ∧
      (codecFiles.profileArtifact (FilePath.ofText "profiles") {}
        codecArtifact).2.readFingerprint (FilePath.ofText path.text) = .ok loaded ∧
      codecFiles.HoldsLibrary (FilePath.ofText "app.json") (codecNames.map namedRecord)
        (loaded.hashTrees.map (·.rootPath)) ∧
      (codecFiles.matchApplication ⟨[loaded], []⟩ {} {} "app.json").result = .ok matched ∧
      ∃ found ∈ matched.outcome.found, found.IsWhole report := by
  obtain ⟨report, _, path, loaded, done, kept, small, _, written, readBack, holds⟩ :=
    exists_codec_loaded
  obtain ⟨_, again, _, writtenAgain, _, detects⟩ :=
    FileTree.detects_stored_library ordered_codec_files done kept small holds_records_codec_dump
  rw [written] at writtenAgain
  cases writtenAgain
  obtain ⟨_, genuine, detects⟩ := detects loaded readBack
  rcases detects codecFiles "app.json" ⟨[loaded], []⟩ {} holds List.mem_cons_self with
    ⟨matched, result, listed⟩ | ⟨_, other, member, foreign⟩
  · exact ⟨report, path, loaded, matched, done, kept, holds_records_codec_dump, written, readBack,
      holds, result, listed⟩
  · cases List.mem_singleton.1 member
    exact absurd genuine foreign

def overcounted : Fingerprint :=
  ⟨⟨"broken", "1", .unknown, none, none⟩, ⟨⟨"", [], []⟩⟩,
    [⟨[], ⟨"", "", "", [], 1,
      [⟨"a", "74be16979710d4c4e7c6647856088456", "ba03bffb945bcf0ea1b4a8970e36aefa",
        ["d41d8cd98f00b204e9800998ecf8427e"], 10 ^ 400, []⟩]⟩, {}⟩]⟩

theorem exists_overcounted_too_large :
    ∃ tree, PackageTree.ofClasses ((namedClasses applicationNames).map
        (·.toDescriptor ({} : DetectionOptions).members)) = .ok tree ∧
      overcounted.match?
        (QueryIndex.ofTree (tree.wholeHashTree ({} : DetectionOptions).hash)) {} =
          .error .tooLarge := by
  have judged : (PackageTree.ofClasses ((namedClasses applicationNames).map
      (·.toDescriptor ({} : DetectionOptions).members))).toOption.map (fun tree =>
        (overcounted.match?
          (QueryIndex.ofTree (tree.wholeHashTree ({} : DetectionOptions).hash))
            {}).toOption.isSome) = some false := by
    decide +kernel
  obtain ⟨tree, found, fault⟩ := Option.map_eq_some_iff.1 judged
  refine ⟨tree, toOption_eq_some_iff.1 found, ?_⟩
  cases verdict : overcounted.match?
      (QueryIndex.ofTree (tree.wholeHashTree ({} : DetectionOptions).hash)) {} with
  | error error => rfl
  | ok found =>
      rw [verdict] at fault
      cases fault

theorem detection_fails_beside_overcounted :
    ∃ report path loaded,
      (codecFiles.profileArtifact (FilePath.ofText "profiles") {} codecArtifact).1.result =
        .ok report ∧
      report.isSkipped = false ∧
      codecFiles.HoldsRecords (FilePath.ofText codecArtifact.dump) (codecNames.map namedRecord) ∧
      report.outcome.path? = some path ∧
      (codecFiles.profileArtifact (FilePath.ofText "profiles") {}
        codecArtifact).2.readFingerprint (FilePath.ofText path.text) = .ok loaded ∧
      codecFiles.HoldsLibrary (FilePath.ofText "app.json") (codecNames.map namedRecord)
        (loaded.hashTrees.map (·.rootPath)) ∧
      (codecFiles.matchApplication ⟨[loaded, overcounted], []⟩ {} {} "app.json").result =
        .error (.score .tooLarge) := by
  obtain ⟨report, _, path, loaded, done, kept, _, _, written, readBack, holds⟩ :=
    exists_codec_loaded
  refine ⟨report, path, loaded, done, kept, holds_records_codec_dump, written, readBack, holds, ?_⟩
  have dump := FileTree.read_class_dump_of_holds_records holds_records_codec_application
    all_of_json_codec.2.1
  obtain ⟨tree, grown, tooLarge⟩ := exists_overcounted_too_large
  rw [FileTree.result_match_application dump grown]
  rw [match_corpus_eq_too_large (List.mem_cons_of_mem loaded List.mem_cons_self) tooLarge]

end LibraryDetection

import LibraryDetection.Report.Match
import LibraryDetection.Run.Profiling

/-!
# Finding libraries in applications

From the class dump of an application and a corpus to a report of the libraries in it.
-/

namespace LibraryDetection

set_option autoImplicit false

def HashOptions.account (options : HashOptions) : String :=
  "HashTreeConfig(filter_inner_classes=" ++ Json.display (.bool options.filterInnerClasses)
    ++ ", filter_duplicates=" ++ Json.display (.bool options.filterDuplicates) ++ ")"

def applicationIndex (options : DetectionOptions) (classes : List DumpedClass) :
    Except MalformedPath QueryIndex :=
  let descriptors := classes.map fun dumped => dumped.toDescriptor options.members
  match PackageTree.ofClasses descriptors with
  | .error malformed => .error malformed
  | .ok tree => .ok (QueryIndex.ofTree (tree.wholeHashTree options.hash))

def matchWarnings (index : QueryIndex) (corpus : Corpus) : List String :=
  (if index.tree.classCount = 0 then ["application contains no classes to match"] else [])
    ++ corpus.skipped.map (fun path => "fingerprint skipped: " ++ path.text)
    ++ (incompatible index corpus.fingerprints).map fun fingerprint =>
        "fingerprint hash options differ: " ++ fingerprint.label

/-- The entries on fingerprints under other options than the application. -/
def incompatibleLines (index : QueryIndex) (corpus : Corpus) : List String :=
  (incompatible index corpus.fingerprints).map fun fingerprint =>
    "Skipping " ++ fingerprint.label ++ ": fingerprint hash options "
      ++ fingerprint.options.account ++ " differ from query "
      ++ index.tree.options.account

def FileTree.matchApplication (files : FileTree) (corpus : Corpus) (settings : MatchSettings)
    (options : DetectionOptions) (application : String) : Run MatchReport := do
  let classes ← files.loadClassDump (FilePath.ofText application)
  let index ← Logged.ofExcept (fun malformed => .profile (.malformedPath malformed))
    (applicationIndex options classes)
  let found ← Logged.ofExcept .score (matchCorpus index corpus.fingerprints settings)
  Logged.write .info .run
    (application ++ ": " ++ toString found.length ++ " of " ++ toString corpus.size
      ++ " libraries matched")
  Logged.writeLines .warning .run (incompatibleLines index corpus)
  return ⟨application, corpus.size, settings,
    .matched index.tree.classCount (matchWarnings index corpus) found⟩

def reportedMatch (corpus : Corpus) (settings : MatchSettings) (application : String)
    (matched : Run MatchReport) : Run MatchReport :=
  match matched.result with
  | .ok _ => matched
  | .error failure =>
      if failure.isReported then
        ⟨matched.log ++ [⟨.error, .run, .message
          ("Failed to match " ++ application ++ ": " ++ failure.message)⟩],
          .ok ⟨application, corpus.size, settings, .failed failure.message⟩⟩
      else matched

def FileTree.matchApplications (files : FileTree) (corpus : Corpus) (settings : MatchSettings)
    (options : DetectionOptions) : List String → Run (List MatchReport)
  | [] => pure []
  | application :: applications => do
      let report ← reportedMatch corpus settings application
        (files.matchApplication corpus settings options application)
      let others ← files.matchApplications corpus settings options applications
      return report :: others

end LibraryDetection

import LibraryDetection.ClassDump.Signature
import LibraryDetection.Report.Profile
import LibraryDetection.Run.Corpus

/-!
# Profiling libraries

From a class dump and a metadata file to a stored fingerprint.  Nothing is written before
the fingerprint is known, and a batch tells the failure of a library in its report.
-/

namespace LibraryDetection

set_option autoImplicit false

/-- The choices that fingerprints depend on; a library and an application are to be read
under the same ones. -/
structure DetectionOptions where
  hash : HashOptions := {}
  members : MemberOptions := {}

/-- The paths of a library's class dump and of its metadata file, as they were given. -/
structure Artifact where
  dump : String
  metadata : String
  deriving DecidableEq, Repr

inductive Assessment
  | ready (library : ReadLibrary) (fingerprint : Fingerprint) (warnings : List String)
  | empty (library : ReadLibrary) (reason : String)

def logStatistics (statistics : DumpStatistics) : Run Unit :=
  Logged.writeLines .info .statistics statistics.account

def assessProfile (library : ReadLibrary) (profile : Profile) : Run Assessment :=
  match profile.result with
  | .ok fingerprint => do
      Logged.writeLines .warning .run profile.warnings
      return .ready library fingerprint profile.warnings
  | .error (.empty label) => do
      let reason := (ProfileError.empty label).message
      Logged.write .error .run ("Empty Hash Tree generated - SKIP (" ++ reason ++ ")")
      return .empty library reason
  | .error (.malformedPath malformed) => Logged.fail (.profile (.malformedPath malformed))

def FileTree.assess (files : FileTree) (options : DetectionOptions) (artifact : Artifact) :
    Run Assessment := do
  let dump := FilePath.ofText artifact.dump
  let description ←
    Logged.ofExcept .metadata (files.readMetadata (FilePath.ofText artifact.metadata))
  Logged.write .info .run ("Process library: " ++ dump.name)
  Logged.write .info .run
    ("Library description: " ++ description.label ++ " (" ++ description.category.label ++ ")")
  let classes ← files.loadClassDump dump
  let statistics := DumpStatistics.ofClasses classes
  logStatistics statistics
  let descriptors := classes.map fun dumped => dumped.toDescriptor options.members
  assessProfile ⟨description, statistics⟩ (profileLibrary descriptors description options.hash)

def storedReport (artifact : Artifact) (library : ReadLibrary) (fingerprint : Fingerprint)
    (warnings : List String) (saved : Run FilePath) : Run ProfileReport := do
  let path ← saved
  Logged.writeElapsed .info .run
  return ⟨artifact.dump, .stored library fingerprint path warnings⟩

/-- Profiles a library and stores its fingerprint below `profiles`; with the files after
it. -/
def FileTree.profileArtifact (files : FileTree) (profiles : FilePath)
    (options : DetectionOptions) (artifact : Artifact) : Run ProfileReport × FileTree :=
  let assessed := files.assess options artifact
  match assessed.result with
  | .error failure => (⟨assessed.log, .error failure⟩, files)
  | .ok (.empty library reason) =>
      (⟨assessed.log, .ok ⟨artifact.dump, .skipped library reason⟩⟩, files)
  | .ok (.ready library fingerprint warnings) =>
      let (saved, left) := files.saveFingerprint profiles fingerprint
      (assessed >>= fun _ => storedReport artifact library fingerprint warnings saved, left)

def reportedProfile (artifact : Artifact) (profiled : Run ProfileReport) : Run ProfileReport :=
  match profiled.result with
  | .ok _ => profiled
  | .error failure =>
      if failure.isReported then
        ⟨profiled.log ++ [⟨.error, .run, .message
          ("Failed to profile " ++ artifact.dump ++ ": " ++ failure.message)⟩],
          .ok ⟨artifact.dump, .failed failure.message⟩⟩
      else profiled

def FileTree.profileArtifacts (profiles : FilePath) (options : DetectionOptions) :
    List Artifact → FileTree → Run (List ProfileReport) × FileTree
  | [], files => (pure [], files)
  | artifact :: artifacts, files =>
      let (profiled, left) := files.profileArtifact profiles options artifact
      let first := reportedProfile artifact profiled
      match first.result with
      | .error failure => (⟨first.log, .error failure⟩, left)
      | .ok report =>
          let (others, last) := profileArtifacts profiles options artifacts left
          (first >>= fun _ => others >>= fun reports => pure (report :: reports), last)

/-- Each folder below with a metadata file is a library; its dump lies beside. -/
def FileTree.findArtifacts (files : FileTree) (libraries : FilePath) :
    Except AccessError (List (FilePath × FilePath)) :=
  match files.search libraries (· = "library.xml") with
  | .error error => .error error
  | .ok found => .ok (found.map fun metadata =>
      (metadata.parent.child "classes.json", metadata))

end LibraryDetection

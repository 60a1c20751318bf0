import LibraryDetection.CommandLine.ArgumentPath
import LibraryDetection.CommandLine.Completion
import LibraryDetection.Report.Schema

/-!
# Executing commands

What each command does to a file tree, in the environment that it is given.
-/

namespace LibraryDetection.CommandLine

set_option autoImplicit false

open LibraryDetection.Text

def batchExitCode (failed : Bool) : ExitCode := if failed then .failure else .success

def executeProfile (files : FileTree) (artifact : Artifact) (profiles : String)
    (options : DetectionOptions) : Completion :=
  let (profiled, left) := files.profileArtifact (FilePath.ofText profiles) options artifact
  Completion.ofRun left profiled fun report =>
    (if report.isSkipped then .skipped else .success, .profile report)

def executeProfileAll (files : FileTree) (libraries profiles : String)
    (options : DetectionOptions) : Completion :=
  match files.findArtifacts (FilePath.ofText libraries) with
  | .error error => Completion.fail files [] (.access error)
  | .ok [] => Completion.complain files [] ("no library.xml found below " ++ libraries)
  | .ok found =>
      let artifacts := found.map fun pair => (⟨pair.1.text, pair.2.text⟩ : Artifact)
      let (profiled, left) :=
        FileTree.profileArtifacts (FilePath.ofText profiles) options artifacts files
      Completion.ofRun left profiled fun reports =>
        (batchExitCode (reports.any ProfileReport.hasFailed), .profiles reports)

/-- The settings of a search: those of the environment, unless the command line gives others.
The environment has to be right by itself, also in a value that the command line replaces. -/
def Search.settings (search : Search) (environment : MatchSettings.Environment) :
    Except SettingsError MatchSettings :=
  match MatchSettings.ofEnvironment environment with
  | .error error => .error error
  | .ok base =>
      MatchSettings.make (search.minScore.getD base.minScore)
        (search.pathAware.getD base.pathAware) (search.pathAwareWeight.getD base.pathAwareWeight)

def Search.run (search : Search) (files : FileTree) (settings : MatchSettings) :
    Run (List MatchReport) := do
  let corpus ← files.loadCorpus (FilePath.ofText search.profiles)
  files.matchApplications corpus settings search.options search.applications

def executeSearch (files : FileTree) (environment : MatchSettings.Environment)
    (search : Search) : Completion :=
  match search.settings environment with
  | .error error =>
      Completion.complain files [] ("invalid configuration: " ++ error.message)
  | .ok settings =>
      Completion.ofRun files (search.run files settings) fun reports =>
        (batchExitCode (reports.any MatchReport.hasFailed), .searches search.format reports)

def executeStatistics (files : FileTree) (dump : String) : Completion :=
  Completion.ofRun files (files.loadClassDump (FilePath.ofText dump)) fun classes =>
    (.success, .statistics (DumpStatistics.ofClasses classes))

def Command.execute (files : FileTree) (environment : MatchSettings.Environment) :
    Command → Completion
  | .profile artifact profiles options => executeProfile files artifact profiles options
  | .profileAll libraries profiles options => executeProfileAll files libraries profiles options
  | .search wanted => executeSearch files environment wanted
  | .statistics dump => executeStatistics files dump
  | .schema => Completion.done files [] .success (.text ReportSchema.printed)

def versionText : String := "libmatch, version 0.1.0"

def usageLine : String := "Usage: libmatch [OPTIONS] COMMAND [ARGS]..."

def helpText : String :=
  join "\n"
    [usageLine, "",
      "Detects third-party libraries in compiled apps by structural fingerprints.", "",
      "Options:",
      "  -v, --version",
      "  --log-level [debug|info|warning|error]",
      "  --help", "",
      "Commands:",
      "  match        Find known libraries in application class dumps.",
      "  profile      Fingerprint a library from its class dump.",
      "  profile-all  Fingerprint every library below a directory.",
      "  schema       Print the JSON schema of match reports.",
      "  stats        Print class hierarchy statistics of a class dump."]

def UsageError.text (error : UsageError) : String :=
  usageLine ++ "\n\nError: " ++ error.message ++ "\n"

def Request.fulfil (files : FileTree) (environment : MatchSettings.Environment) :
    Request → Except UsageError Completion
  | .help => .ok (Completion.done files [] .success (.text helpText))
  | .version => .ok (Completion.done files [] .success (.text versionText))
  | .command level wanted =>
      match wanted.badPath? files with
      | some word => .error (.badPath word)
      | none => .ok ((wanted.execute files environment).above level)

end LibraryDetection.CommandLine

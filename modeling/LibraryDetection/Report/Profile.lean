import LibraryDetection.ClassDump.Statistics
import LibraryDetection.Fingerprint.Basic
import LibraryDetection.Store.FilePath

/-!
# Profile reports

What became of a library that was to be profiled: its fingerprint was stored, it held no
classes and was skipped, or it failed.
-/

namespace LibraryDetection

set_option autoImplicit false

structure ReadLibrary where
  description : LibraryDescription
  statistics : DumpStatistics

inductive ProfileOutcome
  | stored (library : ReadLibrary) (fingerprint : Fingerprint) (path : FilePath)
      (warnings : List String)
  | skipped (library : ReadLibrary) (reason : String)
  | failed (error : String)

structure ProfileReport where
  source : String
  outcome : ProfileOutcome

namespace ProfileOutcome

def library? : ProfileOutcome → Option ReadLibrary
  | .stored library _ _ _ => some library
  | .skipped library _ => some library
  | .failed _ => none

def fingerprint? : ProfileOutcome → Option Fingerprint
  | .stored _ fingerprint _ _ => some fingerprint
  | _ => none

def path? : ProfileOutcome → Option FilePath
  | .stored _ _ path _ => some path
  | _ => none

def warnings : ProfileOutcome → List String
  | .stored _ _ _ warnings => warnings
  | _ => []

def reason? : ProfileOutcome → Option String
  | .skipped _ reason => some reason
  | _ => none

def error? : ProfileOutcome → Option String
  | .failed error => some error
  | _ => none

end ProfileOutcome

namespace ProfileReport

def isSkipped (report : ProfileReport) : Bool := report.outcome.reason?.isSome

def hasFailed (report : ProfileReport) : Bool := report.outcome.error?.isSome

def classCount (report : ProfileReport) : Int :=
  (report.outcome.fingerprint?.map (·.classCount)).getD 0

def packageCount (report : ProfileReport) : Nat :=
  (report.outcome.fingerprint?.map (·.packageTree.packageCount)).getD 0

def treeCount (report : ProfileReport) : Nat :=
  (report.outcome.fingerprint?.map (·.hashTrees.length)).getD 0

/-- The form of a report; `elapsed` is the time that was taken, which a failure does not
tell. -/
def toJson (elapsed : Json) (report : ProfileReport) : Json :=
  let outcome := report.outcome
  .object
    [("source", .text report.source),
      ("library", Json.ofOption (·.description.toJson) outcome.library?),
      ("skipped", .bool report.isSkipped),
      ("reason", Json.ofOption .text outcome.reason?),
      ("output_path", Json.ofOption (fun path => .text path.text) outcome.path?),
      ("root_package",
        Json.ofOption .text (outcome.fingerprint?.bind (·.packageTree.rootPackage?))),
      ("classes", .whole report.classCount),
      ("packages", .whole report.packageCount),
      ("hash_trees", .whole report.treeCount),
      ("stats", Json.ofOption (·.statistics.toJson) outcome.library?),
      ("warnings", Json.texts outcome.warnings),
      ("error", Json.ofOption .text outcome.error?),
      ("timing_ms", if report.hasFailed then .null else elapsed)]

end ProfileReport

end LibraryDetection

import LibraryDetection.Fingerprint.Record
import LibraryDetection.Matching.Ranking

/-!
# Match reports

The libraries that were found in an application, or why it could not be read, in a form
for programs and in one for people.
-/

namespace LibraryDetection

set_option autoImplicit false

open LibraryDetection.Text

inductive MatchOutcome
  | matched (classCount : Int) (warnings : List String) (found : List LibraryMatch)
  | failed (error : String)

structure MatchReport where
  application : String
  /-- The number of libraries that were looked for. -/
  corpusSize : Nat
  settings : MatchSettings
  outcome : MatchOutcome

namespace MatchOutcome

def classCount : MatchOutcome → Int
  | .matched classCount _ _ => classCount
  | .failed _ => 0

def warnings : MatchOutcome → List String
  | .matched _ warnings _ => warnings
  | .failed _ => []

def found : MatchOutcome → List LibraryMatch
  | .matched _ _ found => found
  | .failed _ => []

def error? : MatchOutcome → Option String
  | .matched _ _ _ => none
  | .failed error => some error

end MatchOutcome

def toldScore (score : Float) : Float := Number.roundPlaces 4 score

namespace LibraryMatch

def toJson (found : LibraryMatch) : Json :=
  .object
    [("library", found.description.toJson),
      ("score", .real (toldScore found.score)),
      ("strategy", .text found.strategy.label),
      ("matched_classes", .whole found.matchedClasses),
      ("library_classes", .whole found.classCount),
      ("path_agnostic_score", .real (toldScore found.looseScore)),
      ("path_aware_score",
        Json.ofOption (fun score => .real (toldScore score)) found.alignedScore),
      ("matched_packages", .whole found.matchedPackages),
      ("location", Json.ofOption .text found.location)]

def placeText (found : LibraryMatch) : String :=
  match found.location with
  | none => ""
  | some "" => ""
  | some location => " at " ++ location

def line (found : LibraryMatch) : String :=
  "  " ++ found.description.label ++ " [" ++ found.description.category.label ++ "]"
    ++ "  score=" ++ Number.fixedText 3 (toldScore found.score)
    ++ " (" ++ found.strategy.label ++ ")"
    ++ "  classes=" ++ toString found.matchedClasses ++ "/" ++ toString found.classCount
    ++ found.placeText

end LibraryMatch

namespace MatchReport

def hasFailed (report : MatchReport) : Bool := report.outcome.error?.isSome

/-- The form of a report; `elapsed` is the time that was taken, which a failure does not
tell. -/
def toJson (elapsed : Json) (report : MatchReport) : Json :=
  let outcome := report.outcome
  .object
    [("schema_version", .text schemaVersion),
      ("meta", .object
        [("app", .text report.application),
          ("app_classes", .whole outcome.classCount),
          ("corpus_size", .whole report.corpusSize),
          ("min_score", .real report.settings.minScore),
          ("path_aware", .bool report.settings.pathAware),
          ("warnings", Json.texts outcome.warnings),
          ("error", Json.ofOption .text outcome.error?),
          ("timing_ms", if report.hasFailed then .null else elapsed)]),
      ("matches", .list (outcome.found.map LibraryMatch.toJson))]

def body (outcome : MatchOutcome) : List String :=
  match outcome with
  | .failed error => ["  error: " ++ error]
  | .matched _ _ [] => ["  no libraries found"]
  | .matched _ _ found => found.map LibraryMatch.line

def lines (report : MatchReport) : List String :=
  (report.application ++ " (" ++ toString report.outcome.classCount ++ " classes)")
    :: body report.outcome
    ++ report.outcome.warnings.map fun warning => "  warning: " ++ warning

def text (report : MatchReport) : String := join "\n" report.lines

end MatchReport

end LibraryDetection

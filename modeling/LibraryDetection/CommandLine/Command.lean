import LibraryDetection.CommandLine.Option
import LibraryDetection.Number.Literal
import LibraryDetection.Run.Matching

/-!
# Commands

What a command line asks for.  The options in front of the command's name are those of
the program, all others those of the command.
-/

namespace LibraryDetection.CommandLine

set_option autoImplicit false

inductive ReportFormat
  | json
  | text
  deriving DecidableEq, Repr

/-- A search for libraries in applications.  A value that is not given is taken from the
environment. -/
structure Search where
  applications : List String
  profiles : String
  minScore : Option Float
  pathAware : Option Bool
  pathAwareWeight : Option Float
  format : ReportFormat
  options : DetectionOptions

inductive Command
  | profile (artifact : Artifact) (profiles : String) (options : DetectionOptions)
  | profileAll (libraries profiles : String) (options : DetectionOptions)
  | search (search : Search)
  | statistics (dump : String)
  | schema

inductive Request
  | help
  | version
  | command (level : LogLevel) (command : Command)

def helpForm : OptionForm := ⟨.help, "--help", none, false⟩

def programForms : List OptionForm :=
  [helpForm, ⟨.version, "--version", some 'v', false⟩, ⟨.logLevel, "--log-level", none, true⟩]

def detectionForms : List OptionForm :=
  [helpForm,
    ⟨.profiles, "--profiles-dir", some 'p', true⟩,
    ⟨.filterInnerClasses, "--filter-inner-classes", none, false⟩,
    ⟨.filterDuplicates, "--filter-duplicates", none, false⟩,
    ⟨.fuzzy, "--fuzzy", none, false⟩,
    ⟨.allMembers, "--all-members", none, false⟩]

def profileForms : List OptionForm :=
  ⟨.description, "--description", some 'd', true⟩ :: detectionForms

def searchForms : List OptionForm :=
  detectionForms ++
    [⟨.minScore, "--min-score", none, true⟩,
      ⟨.pathAware, "--path-aware", none, false⟩,
      ⟨.noPathAware, "--no-path-aware", none, false⟩,
      ⟨.pathAwareWeight, "--path-aware-weight", none, true⟩,
      ⟨.format, "--format", none, true⟩,
      ⟨.workers, "--workers", none, true⟩]

def meaning {α : Type} (scanned : Scanned) (setting : Setting) (name : String)
    (read : String → Option α) : Except UsageError (Option α) :=
  match scanned.value? setting with
  | none => .ok none
  | some value =>
      match read value with
      | some found => .ok (some found)
      | none => .error (.badValue name value)

def detectionOptions (scanned : Scanned) : DetectionOptions :=
  { hash := ⟨scanned.has .filterInnerClasses, scanned.has .filterDuplicates⟩
    members := ⟨!scanned.has .allMembers, scanned.has .fuzzy⟩ }

def profilesFolder (scanned : Scanned) : String := (scanned.value? .profiles).getD "profiles"

def formatOf? : String → Option ReportFormat
  | "json" => some .json
  | "text" => some .text
  | _ => none

/-- Of the two opposite options the last one that was given decides; without either of them the
environment does. -/
def pathAwareChoice (scanned : Scanned) : Option Bool :=
  (scanned.given.reverse.find? fun option =>
    option.setting = .pathAware || option.setting = .noPathAware).map
    fun option => option.setting = .pathAware

def onlyWord (name : String) : List String → Except UsageError String
  | [] => .error (.missingArgument name)
  | [word] => .ok word
  | _ :: word :: _ => .error (.extraArgument word)

def profileCommand (scanned : Scanned) : Except UsageError Command := do
  let dump ← onlyWord "CLASSES_JSON" scanned.words
  match scanned.value? .description with
  | none => .error (.missingOption "--description")
  | some metadata =>
      .ok (.profile ⟨dump, metadata⟩ (profilesFolder scanned) (detectionOptions scanned))

def profileAllCommand (scanned : Scanned) : Except UsageError Command := do
  let libraries ← onlyWord "LIBS_DIR" scanned.words
  return .profileAll libraries (profilesFolder scanned) (detectionOptions scanned)

def searchCommand (scanned : Scanned) : Except UsageError Command := do
  let minScore ← meaning scanned .minScore "--min-score" Number.real?
  let weight ← meaning scanned .pathAwareWeight "--path-aware-weight" Number.real?
  let format ← meaning scanned .format "--format" formatOf?
  let _ ← meaning scanned .workers "--workers" Number.whole?
  if scanned.words.isEmpty then .error (.missingArgument "APP_JSON...")
  else .ok (.search
    { applications := scanned.words
      profiles := profilesFolder scanned
      minScore
      pathAware := pathAwareChoice scanned
      pathAwareWeight := weight
      format := format.getD .json
      options := detectionOptions scanned })

def statisticsCommand (scanned : Scanned) : Except UsageError Command := do
  return .statistics (← onlyWord "CLASSES_JSON" scanned.words)

def schemaCommand (scanned : Scanned) : Except UsageError Command :=
  match scanned.words with
  | [] => .ok .schema
  | word :: _ => .error (.extraArgument word)

def commandNamed? : String → Option (List OptionForm × (Scanned → Except UsageError Command))
  | "profile" => some (profileForms, profileCommand)
  | "profile-all" => some (detectionForms, profileAllCommand)
  | "match" => some (searchForms, searchCommand)
  | "stats" => some ([helpForm], statisticsCommand)
  | "schema" => some ([helpForm], schemaCommand)
  | _ => none

def commandRequest (level : LogLevel) : List String → Except UsageError Request
  | [] => .error .missingCommand
  | name :: words =>
      match commandNamed? name with
      | none => .error (.unknownCommand name)
      | some (forms, make) =>
          match scan forms true words with
          | .error error => .error error
          | .ok scanned =>
              if scanned.has .help then .ok .help
              else (make scanned).map (Request.command level)

def instantRequest? (scanned : Scanned) : Option Request :=
  match scanned.given.find? fun option =>
      option.setting = .help || option.setting = .version with
  | none => none
  | some ⟨.help, _⟩ => some .help
  | some _ => some .version

/-- What a command line asks for.  The options before the name of a command are those of the
program; the first of them that asks for help or for the version decides, and then no command is
looked at. -/
def request (words : List String) : Except UsageError Request :=
  match scan programForms false words with
  | .error error => .error error
  | .ok scanned =>
      match instantRequest? scanned with
      | some found => .ok found
      | none =>
          match meaning scanned .logLevel "--log-level" LogLevel.ofName? with
          | .error error => .error error
          | .ok level => commandRequest (level.getD .warning) scanned.words

end LibraryDetection.CommandLine

import LibraryDetection.CommandLine.Command

/-!
# Completed commands

A command ends with an exit code, with what it prints, with its log and with the files
after it.
-/

namespace LibraryDetection.CommandLine

set_option autoImplicit false

open LibraryDetection.Text

inductive Printed
  | text (text : String)
  | profile (report : ProfileReport)
  | profiles (reports : List ProfileReport)
  | searches (format : ReportFormat) (reports : List MatchReport)
  | statistics (statistics : DumpStatistics)

/-- The text that is printed; `elapsed` is the time that was taken.  A single report keeps
all characters as they are. -/
def Printed.render (elapsed : Json) : Printed → String
  | .text content => content
  | .profile report => Json.write Json.reportStyle (report.toJson elapsed)
  | .profiles reports =>
      Json.write Json.listStyle (.list (reports.map (ProfileReport.toJson elapsed)))
  | .searches .text reports => join "\n\n" (reports.map MatchReport.text)
  | .searches .json [report] => Json.write Json.reportStyle (report.toJson elapsed)
  | .searches .json reports =>
      Json.write Json.listStyle (.list (reports.map (MatchReport.toJson elapsed)))
  | .statistics counted => Json.write Json.reportStyle counted.toJson

inductive ExitCode
  | success
  /-- Something failed, if only a part of a batch. -/
  | failure
  /-- No fingerprint was written. -/
  | skipped
  deriving DecidableEq, Repr

def ExitCode.value : ExitCode → Nat
  | .success => 0
  | .failure => 2
  | .skipped => 3

structure Completion where
  exitCode : ExitCode
  printed : Option Printed
  log : List LogEntry
  /-- The message of a failure. -/
  complaint : Option String
  files : FileTree

namespace Completion

def done (files : FileTree) (log : List LogEntry) (exitCode : ExitCode) (printed : Printed) :
    Completion := ⟨exitCode, some printed, log, none, files⟩

def complain (files : FileTree) (log : List LogEntry) (message : String) : Completion :=
  ⟨.failure, none, log, some message, files⟩

def fail (files : FileTree) (log : List LogEntry) (failure : RunFailure) : Completion :=
  complain files (log ++ [⟨.debug, .commandLine, .message "CLI error"⟩]) failure.message

def ofRun {α : Type} (files : FileTree) (run : Run α) (finish : α → ExitCode × Printed) :
    Completion :=
  match run.result with
  | .ok value => done files run.log (finish value).1 (finish value).2
  | .error failure => fail files run.log failure

def above (level : LogLevel) (completion : Completion) : Completion :=
  { completion with log := completion.log.filter fun entry => level.rank ≤ entry.level.rank }

def output (elapsed : Json) (completion : Completion) : String :=
  match completion.printed with
  | none => ""
  | some printed => printed.render elapsed ++ "\n"

def logLine (time elapsed : String) (entry : LogEntry) : String :=
  time ++ " " ++ padRight 7 entry.level.label ++ " " ++ entry.source.label ++ ": "
    ++ entry.text.render elapsed ++ "\n"

def errorOutput (time elapsed : String) (completion : Completion) : String :=
  join "" (completion.log.map (logLine time elapsed))
    ++ (match completion.complaint with
      | none => ""
      | some message => "Error: " ++ message ++ "\n")

end Completion

end LibraryDetection.CommandLine

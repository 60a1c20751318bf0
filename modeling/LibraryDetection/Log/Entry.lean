/-!
# Log entries

What a run tells beside its result: lines with a level and the part of the program that
they come from.
-/

namespace LibraryDetection

set_option autoImplicit false

inductive LogLevel
  | debug
  | info
  | warning
  | error
  deriving DecidableEq, Repr

namespace LogLevel

def label : LogLevel → String
  | .debug => "DEBUG"
  | .info => "INFO"
  | .warning => "WARNING"
  | .error => "ERROR"

def rank : LogLevel → Nat
  | .debug => 0
  | .info => 1
  | .warning => 2
  | .error => 3

def ofName? : String → Option LogLevel
  | "debug" => some .debug
  | "info" => some .info
  | "warning" => some .warning
  | "error" => some .error
  | _ => none

end LogLevel

inductive LogSource
  | dump
  | statistics
  | run
  | store
  | commandLine
  deriving DecidableEq, Repr

def LogSource.label : LogSource → String
  | .dump => "libmatch.loader"
  | .statistics => "libmatch.stats"
  | .run => "libmatch.pipeline"
  | .store => "libmatch.store"
  | .commandLine => "libmatch.cli"

inductive LogText
  | message (text : String)
  /-- How long profiling a library took. -/
  | elapsed
  deriving DecidableEq, Repr

def LogText.render (elapsed : String) : LogText → String
  | .message text => text
  | .elapsed => "Processing time: " ++ elapsed ++ " ms"

structure LogEntry where
  level : LogLevel
  source : LogSource
  text : LogText
  deriving DecidableEq, Repr

end LibraryDetection

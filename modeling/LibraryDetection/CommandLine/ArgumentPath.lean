import LibraryDetection.CommandLine.Command

/-!
# Paths in arguments

Before a command is executed the paths in its arguments are looked up: files that are
read have to be there, and a folder must not be a file.
-/

namespace LibraryDetection.CommandLine

set_option autoImplicit false

open LibraryDetection.Text

def endsAsFolder (word : String) : Bool :=
  match (split '/' word).getLast? with
  | some "" => true
  | some "." => true
  | _ => false

def entryAt? (files : FileTree) (word : String) : Option FileEntry :=
  if word = "" then none
  else match files.entry? (FilePath.ofText word) with
    | .ok (some (.file bytes)) => if endsAsFolder word then none else some (.file bytes)
    | .ok found => found
    | .error _ => none

inductive PathNeed
  | file
  | folder
  /-- A folder, or nothing yet. -/
  | noFile
  deriving DecidableEq, Repr

def PathNeed.metBy (need : PathNeed) (found : Option FileEntry) : Bool :=
  match need, found with
  | .file, some (.file _) => true
  | .folder, some (.folder _) => true
  | .noFile, some (.folder _) => true
  | .noFile, none => true
  | _, _ => false

namespace Command

def needs : Command → List (String × PathNeed)
  | .profile artifact profiles _ =>
      [(artifact.dump, .file), (artifact.metadata, .file), (profiles, .noFile)]
  | .profileAll libraries profiles _ => [(libraries, .folder), (profiles, .noFile)]
  | .search wanted =>
      wanted.applications.map (fun word => (word, .file)) ++ [(wanted.profiles, .noFile)]
  | .statistics dump => [(dump, .file)]
  | .schema => []

def badPath? (files : FileTree) (command : Command) : Option String :=
  (command.needs.find? fun need => !need.2.metBy (entryAt? files need.1)).map (·.1)

end Command

end LibraryDetection.CommandLine

import LibraryDetection.CommandLine.Execution

/-!
# The program

Reads the files that a command names, executes the command on them, writes back what has
changed and prints what the command prints.
-/

namespace LibraryDetection.Program

set_option autoImplicit false

open CommandLine

def pathTo (names : List String) : String := "/" ++ Text.join "/" names

def kindAt? (path : String) : IO (Option IO.FS.FileType) := do
  let kind := do return (← ((← IO.currentDir) / path).metadata).type
  return (← kind.toBaseIO).toOption

partial def readEntry? (path : String) : IO (Option FileEntry) := do
  match ← kindAt? path with
  | none => return none
  | some .dir =>
      let mut entry := FileEntry.emptyFolder
      for child in ← ((← IO.currentDir) / path).readDir do
        if let some found ← readEntry? (path ++ "/" ++ child.fileName) then
          entry := FileEntry.put found [child.fileName] entry
      return some entry
  | some _ => return some (.file (← IO.FS.readBinFile path).toList)

def resolve (names : List String) : List String :=
  names.foldl (fun place name => if name = ".." then place.dropLast else place ++ [name]) []

def addWay (root : FileEntry) (place : List String) : IO FileEntry := do
  let mut tree := root
  for depth in List.range place.length do
    let names := place.take depth
    if (tree.get? names).isNone then
      match ← kindAt? (pathTo names) with
      | none => return tree
      | some .dir => tree := FileEntry.put .emptyFolder names tree
      | some _ => tree := FileEntry.put (.file []) names tree
  return tree

/-- The files that a command works on: everything at and below the paths in its arguments, and
the folders on the way to them. -/
def snapshot (workingFolder : List String) (command : Command) : IO FileTree := do
  let mut root ← addWay .emptyFolder (workingFolder ++ ["."])
  for need in command.needs do
    let path := FilePath.ofText need.1
    let start := if path.anchoring = .relative then workingFolder else []
    let place := resolve (start ++ path.names)
    root ← addWay root place
    if let some entry ← readEntry? (pathTo place) then
      root := FileEntry.put entry place root
  return ⟨root, workingFolder⟩

def writeChanges (before after : FileEntry) : IO Unit := do
  for (names, entry) in after.descendants [] do
    match entry, before.get? names with
    | .folder _, some _ => pure ()
    | .folder _, none => IO.FS.createDir (pathTo names)
    | .file bytes, some (.file known) =>
        if bytes ≠ known then IO.FS.writeBinFile (pathTo names) ⟨bytes.toArray⟩
    | .file bytes, _ => IO.FS.writeBinFile (pathTo names) ⟨bytes.toArray⟩

def environment : IO MatchSettings.Environment := do
  let names := ["LIBMATCH_MIN_SCORE", "LIBMATCH_PATH_AWARE", "LIBMATCH_PATH_AWARE_WEIGHT"]
  let found ← names.mapM fun name => do return (name, ← IO.getEnv name)
  return found.filterMap fun entry => entry.2.map fun value => (entry.1, value)

def milliseconds (nanoseconds : Nat) : Float :=
  Number.roundPlaces 2 (nanoseconds.toFloat / 1000000.0)

def fulfil (request : Request) : IO (Except UsageError Nat) := do
  let workingFolder := (FilePath.ofText (← IO.currentDir).toString).names
  let files ← match request with
    | .command _ command => snapshot workingFolder command
    | _ => pure ⟨.emptyFolder, []⟩
  let values ← environment
  let started ← IO.monoNanosNow
  match ← IO.lazyPure fun _ => request.fulfil files values with
  | .error error => return .error error
  | .ok completion =>
      writeChanges files.root completion.files.root
      let now ← IO.monoNanosNow
      let elapsed := milliseconds (now - started)
      let stamp := "[" ++ toString (now / 1000000) ++ "]"
      (← IO.getStderr).putStr (completion.errorOutput stamp (Number.fixedText 2 elapsed))
      (← IO.getStdout).putStr (completion.output (.real elapsed))
      return .ok completion.exitCode.value

end LibraryDetection.Program

open LibraryDetection LibraryDetection.CommandLine in
def main (arguments : List String) : IO UInt32 := do
  let outcome ← match request arguments with
    | .error error => pure (.error error)
    | .ok found => Program.fulfil found
  match outcome with
  | .ok code => return code.toUInt32
  | .error error =>
      (← IO.getStderr).putStr error.text
      return 2

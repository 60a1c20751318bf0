import LibraryDetection.Collection.Sorted
import LibraryDetection.Store.FilePath
import LibraryDetection.Text.Newline
import LibraryDetection.Text.Quoted
import LibraryDetection.Text.Utf8

/-!
# File trees

Files and folders as a value.  A path is followed name by name from the root or from the
working folder; two points lead back to the folder above.  Each operation fails with the
first fault on the way, and then the tree is as it was.
-/

namespace LibraryDetection

set_option autoImplicit false

open LibraryDetection.Text

inductive FileEntry
  | file (bytes : List UInt8)
  /-- The entries in the order of their names. -/
  | folder (entries : List (String × FileEntry))
  deriving Inhabited

namespace FileEntry

def emptyFolder : FileEntry := .folder []

def isFolder : FileEntry → Bool
  | .folder _ => true
  | .file _ => false

def changeEntry (name : String) (change : FileEntry → FileEntry) :
    List (String × FileEntry) → List (String × FileEntry)
  | [] => [(name, change emptyFolder)]
  | (other, entry) :: rest =>
      if other = name then (name, change entry) :: rest
      else if name < other then (name, change emptyFolder) :: (other, entry) :: rest
      else (other, entry) :: changeEntry name change rest

def get? : List String → FileEntry → Option FileEntry
  | [], entry => some entry
  | name :: rest, .folder entries =>
      match entries.lookup name with
      | some entry => get? rest entry
      | none => none
  | _ :: _, .file _ => none

def put (new : FileEntry) : List String → FileEntry → FileEntry
  | [], _ => new
  | name :: rest, .folder entries => .folder (changeEntry name (put new rest) entries)
  | _ :: _, .file bytes => .file bytes

def remove : List String → FileEntry → FileEntry
  | [name], .folder entries => .folder (entries.filter fun entry => entry.1 ≠ name)
  | name :: rest, .folder entries =>
      if (entries.lookup name).isSome then .folder (changeEntry name (remove rest) entries)
      else .folder entries
  | _, entry => entry

mutual

def descendants (names : List String) : FileEntry → List (List String × FileEntry)
  | .file _ => []
  | .folder entries => descendantsOf names entries

def descendantsOf (names : List String) :
    List (String × FileEntry) → List (List String × FileEntry)
  | [] => []
  | (name, entry) :: rest =>
      (names ++ [name], entry) :: (descendants (names ++ [name]) entry
        ++ descendantsOf names rest)

end

end FileEntry

inductive FileFault
  | missing
  | exists
  | notFolder
  | isFolder
  | nameTooLong
  deriving DecidableEq, Repr

def FileFault.code : FileFault → Nat
  | .missing => 2
  | .exists => 17
  | .notFolder => 20
  | .isFolder => 21
  | .nameTooLong => 36

def FileFault.text : FileFault → String
  | .missing => "No such file or directory"
  | .exists => "File exists"
  | .notFolder => "Not a directory"
  | .isFolder => "Is a directory"
  | .nameTooLong => "File name too long"

structure FileError where
  fault : FileFault
  path : FilePath
  deriving DecidableEq, Repr

def FileError.message (error : FileError) : String :=
  "[Errno " ++ toString error.fault.code ++ "] " ++ error.fault.text ++ ": "
    ++ quoted error.path.text

/-- Why a path could not be followed or the bytes there could not be read as a text. -/
inductive AccessError
  | file (error : FileError)
  /-- The path holds a character that no path may hold. -/
  | nullCharacter
  | encoding (fault : Utf8.Fault)
  deriving DecidableEq, Repr

def AccessError.message : AccessError → String
  | .file error => error.message
  | .nullCharacter => "embedded null byte"
  | .encoding fault => fault.message

structure FileTree where
  root : FileEntry
  /-- The names from the root to the folder that relative paths start from. -/
  workingFolder : List String
  deriving Inhabited

namespace FileTree

def longestName : Nat := 255

def longestPath : Nat := 4095

def follow (root : FileEntry) (here : List String) : List String → Except FileFault (List String)
  | [] => .ok here
  | name :: rest =>
      match root.get? here with
      | none => .error .missing
      | some (.file _) => .error .notFolder
      | some (.folder _) =>
          if longestName < Utf8.size name then .error .nameTooLong
          else follow root (if name = ".." then here.dropLast else here ++ [name]) rest

def startOf (tree : FileTree) (path : FilePath) : List String :=
  if path.anchoring = .relative then tree.workingFolder else []

def hasNull (path : FilePath) : Bool := path.names.any (·.toList.contains (Char.ofNat 0))

/-- Where a path leads.  The folder that the last name belongs to has to be there, but nothing
need stand under that name; a path with the null character or of too many bytes leads nowhere.
-/
def locate (tree : FileTree) (path : FilePath) : Except AccessError (List String) :=
  if hasNull path then .error .nullCharacter
  else if longestPath < Utf8.size path.text then .error (.file ⟨.nameTooLong, path⟩)
  else match follow tree.root (tree.startOf path) path.names with
    | .ok place => .ok place
    | .error fault => .error (.file ⟨fault, path⟩)

def entry? (tree : FileTree) (path : FilePath) : Except AccessError (Option FileEntry) :=
  (tree.locate path).map fun place => tree.root.get? place

def isFolder (tree : FileTree) (path : FilePath) : Except AccessError Bool :=
  match tree.entry? path with
  | .ok found => .ok (found.any FileEntry.isFolder)
  | .error (.file ⟨.nameTooLong, path⟩) => .error (.file ⟨.nameTooLong, path⟩)
  | .error _ => .ok false

def readBytes (tree : FileTree) (path : FilePath) : Except AccessError (List UInt8) :=
  match tree.entry? path with
  | .error error => .error error
  | .ok none => .error (.file ⟨.missing, path⟩)
  | .ok (some (.folder _)) => .error (.file ⟨.isFolder, path⟩)
  | .ok (some (.file bytes)) => .ok bytes

/-- The text of a file.  Its bytes have to encode one, and whatever ends a line is read as a
line feed. -/
def readChars (tree : FileTree) (path : FilePath) : Except AccessError (List Char) :=
  match tree.readBytes path with
  | .error error => .error error
  | .ok bytes =>
      match Utf8.decode bytes with
      | .ok chars => .ok (lineFeeds chars)
      | .error fault => .error (.encoding fault)

def put (tree : FileTree) (place : List String) (entry : FileEntry) : FileTree :=
  { tree with root := FileEntry.put entry place tree.root }

def writeBytes (tree : FileTree) (path : FilePath) (bytes : List UInt8) :
    Except AccessError FileTree :=
  match tree.locate path with
  | .error error => .error error
  | .ok place =>
      match tree.root.get? place with
      | some (.folder _) => .error (.file ⟨.isFolder, path⟩)
      | _ => .ok (tree.put place (.file bytes))

def writeText (tree : FileTree) (path : FilePath) (text : String) :
    Except AccessError FileTree :=
  tree.writeBytes path (Utf8.encode text)

def makeFolder (tree : FileTree) (path : FilePath) : Except AccessError FileTree :=
  match tree.locate path with
  | .error error => .error error
  | .ok place =>
      match tree.root.get? place with
      | some _ => .error (.file ⟨.exists, path⟩)
      | none => .ok (tree.put place .emptyFolder)

def acceptFolder (tree : FileTree) (path : FilePath) (error : AccessError) :
    Except AccessError FileTree :=
  match tree.isFolder path with
  | .ok true => .ok tree
  | _ => .error error

/-- Makes a folder and those above it that are missing; `depth` bounds the way up.  The
folders made before a failure stay. -/
def makeFoldersWithin : Nat → FileTree → FilePath → Except AccessError FileTree × FileTree
  | depth, tree, path =>
      match tree.makeFolder path with
      | .ok made => (.ok made, made)
      | .error (.file ⟨.missing, place⟩) =>
          match depth with
          | 0 => (.error (.file ⟨.missing, place⟩), tree)
          | depth + 1 =>
              match makeFoldersWithin depth tree path.parent with
              | (.error error, left) => (.error error, left)
              | (.ok above, _) =>
                  match above.makeFolder path with
                  | .ok made => (.ok made, made)
                  | .error (.file ⟨.missing, place⟩) =>
                      (.error (.file ⟨.missing, place⟩), above)
                  | .error error => (above.acceptFolder path error, above)
      | .error .nullCharacter => (.error .nullCharacter, tree)
      | .error error => (tree.acceptFolder path error, tree)

/-- Makes a folder and those above it that are missing; also tells the tree after it. -/
def makeFolders (tree : FileTree) (path : FilePath) : Except AccessError FileTree × FileTree :=
  makeFoldersWithin path.names.length tree path

def tooDeep? (folder : FilePath) (below : List (List String × FileEntry)) : Option FilePath :=
  (below.find? fun item =>
    item.2.isFolder && longestPath < Utf8.size (folder.below item.1).text).map
      fun item => folder.below item.1

/-- All paths below a folder whose last name passes; none where there is no folder.  Every
folder below is listed on the way. -/
def search (tree : FileTree) (folder : FilePath) (passes : String → Bool) :
    Except AccessError (List FilePath) :=
  match tree.isFolder folder with
  | .error error => .error error
  | .ok false => .ok []
  | .ok true =>
      match tree.entry? folder with
      | .ok (some entry) =>
          let below := entry.descendants []
          match tooDeep? folder below with
          | some deep => .error (.file ⟨.nameTooLong, deep⟩)
          | none =>
              let found := below.filter fun item => passes (item.1.getLast?.getD "")
              .ok (sortBy FilePath.listedBefore (found.map fun item => folder.below item.1))
      | _ => .ok []

end FileTree

end LibraryDetection

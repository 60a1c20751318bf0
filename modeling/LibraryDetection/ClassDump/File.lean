import LibraryDetection.ClassDump.Reader
import LibraryDetection.Json.Reader
import LibraryDetection.Store.FileTree

/-!
# Class dump files
-/

namespace LibraryDetection

set_option autoImplicit false

inductive DumpFileError
  | unreadable (path : FilePath) (error : FileError)
  | notUtf8 (path : FilePath) (fault : Text.Utf8.Fault)
  | notJson (path : FilePath) (account : String)
  | form (fault : DumpFault)
  /-- The path cannot be told to the system. -/
  | badPath (error : AccessError)
  /-- A number in the file is too long to be read. -/
  | hugeNumber (account : String)

namespace DumpFileError

def message : DumpFileError → String
  | .unreadable path error => "cannot read " ++ path.text ++ ": " ++ error.message
  | .notUtf8 path fault => path.text ++ " is not UTF-8 text: " ++ fault.message
  | .notJson path account => path.text ++ " is not valid JSON: " ++ account
  | .form fault => fault.message
  | .badPath error => error.message
  | .hugeNumber account => account

/-- Whether the failure is one of the dump, which a batch of artifacts survives. -/
def isReported : DumpFileError → Bool
  | .badPath _ => false
  | .hugeNumber _ => false
  | _ => true

def ofAccess (path : FilePath) : AccessError → DumpFileError
  | .file error => .unreadable path error
  | .encoding fault => .notUtf8 path fault
  | .nullCharacter => .badPath .nullCharacter

def ofJsonFault (path : FilePath) (chars : List Char) (fault : Json.Fault) : DumpFileError :=
  match fault.cause with
  | .digits _ => .hugeNumber (fault.message chars)
  | _ => .notJson path (fault.message chars)

end DumpFileError

/-- The classes of the dump at a path: the bytes are decoded, read as JSON, and read as a dump.
A path that cannot be told to the system and a number that is too long fail it in ways that a
batch does not survive. -/
def FileTree.readClassDump (tree : FileTree) (path : FilePath) :
    Except DumpFileError (List DumpedClass) :=
  match tree.readChars path with
  | .error error => .error (.ofAccess path error)
  | .ok chars =>
      match Json.read chars with
      | .error fault => .error (.ofJsonFault path chars fault)
      | .ok dump =>
          match LibraryDetection.readClassDump dump with
          | .error fault => .error (.form fault)
          | .ok classes => .ok classes

end LibraryDetection

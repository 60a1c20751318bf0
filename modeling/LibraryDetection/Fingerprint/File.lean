import LibraryDetection.Fingerprint.Restore
import LibraryDetection.Json.Strict
import LibraryDetection.Json.Writer
import LibraryDetection.Store.FileTree

/-!
# Fingerprint files

A fingerprint is stored as its record on one line.
-/

namespace LibraryDetection

set_option autoImplicit false

open Validation

inductive FingerprintFileError
  | unreadable (path : FilePath) (error : FileError)
  | notUtf8 (path : FilePath) (fault : Text.Utf8.Fault)
  | invalid (path : FilePath) (violations : List Violation)
  | inconsistent (error : RestoreError)
  | badPath (error : AccessError)
  deriving DecidableEq

namespace FingerprintFileError

/-- Stands for the list of violations as a validation library words it.  An error keeps the
violations themselves, each with its rule and its place; their wording is left open. -/
def violationsWording : String := "not a valid record"

def message : FingerprintFileError → String
  | .unreadable path error => "cannot read " ++ path.text ++ ": " ++ error.message
  | .notUtf8 path fault => path.text ++ ": not a JSON fingerprint file: " ++ fault.message
  | .invalid path _ => path.text ++ ": invalid fingerprint file: " ++ violationsWording
  | .inconsistent error => error.message
  | .badPath error => error.message

def isReported : FingerprintFileError → Bool
  | .badPath _ => false
  | _ => true

def ofAccess (path : FilePath) : AccessError → FingerprintFileError
  | .file error => .unreadable path error
  | .encoding fault => .notUtf8 path fault
  | .nullCharacter => .badPath .nullCharacter

end FingerprintFileError

/-- The record in the text of a file.  A text that is not JSON, that holds half of a surrogate
pair or that nests too deeply is refused as a whole, before any field is looked at. -/
def FingerprintRecord.ofChars (chars : List Char) : Checked FingerprintRecord :=
  match Json.readStrictly? chars with
  | some value => fingerprintRecord value
  | none => .violates .validJson

def FingerprintRecord.text (record : FingerprintRecord) : String :=
  Json.write Json.recordStyle record.toJson

/-- The fingerprint in the file at a path: the bytes are decoded, the text is read as a record,
and the record is restored.  Each step fails in a way of its own. -/
def FileTree.readFingerprint (tree : FileTree) (path : FilePath) :
    Except FingerprintFileError Fingerprint :=
  match tree.readChars path with
  | .error error => .error (.ofAccess path error)
  | .ok chars =>
      match FingerprintRecord.ofChars chars with
      | .invalid violations => .error (.invalid path violations)
      | .valid record =>
          match record.restore with
          | .error error => .error (.inconsistent error)
          | .ok fingerprint => .ok fingerprint

end LibraryDetection

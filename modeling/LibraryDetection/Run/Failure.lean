import LibraryDetection.ClassDump.File
import LibraryDetection.Fingerprint.File
import LibraryDetection.Library.Metadata
import LibraryDetection.Log.Logged
import LibraryDetection.Matching.Verdict

/-!
# Failures of a run

What can keep a run from its result.  A batch goes on after a failure of one library or
of one application, and stops at any other.
-/

namespace LibraryDetection

set_option autoImplicit false

inductive RunFailure
  | metadata (error : MetadataError)
  | dump (error : DumpFileError)
  | profile (error : ProfileError)
  /-- There is no folder of fingerprints. -/
  | noProfiles (folder : FilePath)
  | fingerprint (error : FingerprintFileError)
  /-- A fingerprint has no record. -/
  | record (violations : List Validation.Violation)
  /-- A file or a folder cannot be reached or made. -/
  | access (error : AccessError)
  | score (error : ScoreError)

namespace RunFailure

def message : RunFailure → String
  | .metadata error => error.message
  | .dump error => error.message
  | .profile error => error.message
  | .noProfiles folder => "profiles directory not found: " ++ folder.text
  | .fingerprint error => error.message
  | .record _ => "a class has an unknown kind"
  | .access error => error.message
  | .score error => error.message

def isReported : RunFailure → Bool
  | .metadata error => error.isReported
  | .dump error => error.isReported
  | .profile _ => true
  | .noProfiles _ => true
  | .fingerprint error => error.isReported
  | .record _ => false
  | .access _ => false
  | .score _ => false

end RunFailure

abbrev Run (α : Type) := Logged RunFailure α

def FileTree.loadClassDump (files : FileTree) (path : FilePath) : Run (List DumpedClass) := do
  let classes ← Logged.ofExcept .dump (files.readClassDump path)
  Logged.write .debug .dump
    ("Loaded " ++ toString classes.length ++ " classes from " ++ path.text)
  return classes

end LibraryDetection

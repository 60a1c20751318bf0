import LibraryDetection.Run.Failure

/-!
# Corpora

All fingerprints below a folder.  A fingerprint is stored in the folder of its category;
a file that cannot be read is left out of the corpus, and told.
-/

namespace LibraryDetection

set_option autoImplicit false

structure Corpus where
  fingerprints : List Fingerprint
  /-- The files that could not be read. -/
  skipped : List FilePath

namespace Corpus

def empty : Corpus := ⟨[], []⟩

def size (corpus : Corpus) : Nat := corpus.fingerprints.length

end Corpus

def isFingerprintName (name : String) : Bool :=
  Text.startsWith ".lib".toList.reverse name.toList.reverse

def FileTree.corpusOf (files : FileTree) : List FilePath → Run Corpus
  | [] => pure Corpus.empty
  | path :: paths =>
      match files.readFingerprint path with
      | .ok fingerprint => do
          let others ← files.corpusOf paths
          return { others with fingerprints := fingerprint :: others.fingerprints }
      | .error error =>
          if error.isReported then do
            Logged.write .warning .store ("Skipping fingerprint: " ++ error.message)
            let others ← files.corpusOf paths
            return { others with skipped := path :: others.skipped }
          else Logged.fail (.fingerprint error)

def FileTree.fingerprintPaths (files : FileTree) (folder : FilePath) :
    Except RunFailure (List FilePath) :=
  match files.isFolder folder with
  | .error error => .error (.access error)
  | .ok false => .error (.noProfiles folder)
  | .ok true =>
      match files.search folder isFingerprintName with
      | .error error => .error (.access error)
      | .ok paths => .ok paths

def FileTree.loadCorpus (files : FileTree) (folder : FilePath) : Run Corpus := do
  let paths ← Logged.ofExcept id (files.fingerprintPaths folder)
  let corpus ← files.corpusOf paths
  Logged.write .info .store
    ("Loaded " ++ toString corpus.size ++ " fingerprints from " ++ folder.text ++ " ("
      ++ toString corpus.skipped.length ++ " skipped)")
  return corpus

/-- Stores a fingerprint below a folder and tells its path; with the files after it. -/
def FileTree.saveFingerprint (files : FileTree) (profiles : FilePath)
    (fingerprint : Fingerprint) : Run FilePath × FileTree :=
  let path := fingerprint.description.fingerprintPath profiles
  match files.makeFolders path.parent with
  | (.error error, left) => (Logged.fail (.access error), left)
  | (.ok ready, _) =>
      match fingerprint.toRecord with
      | .invalid violations => (Logged.fail (.record violations), ready)
      | .valid record =>
          match ready.writeText path record.text with
          | .error error => (Logged.fail (.access error), ready)
          | .ok written =>
              (do
                Logged.write .info .store ("Serialized library fingerprint to " ++ path.text)
                return path, written)

end LibraryDetection

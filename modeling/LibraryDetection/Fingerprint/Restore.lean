import LibraryDetection.Fingerprint.Record

/-!
# Fingerprints from records

A record is taken back once the content hash of each of its classes is that of the
signatures beside it and no package path is malformed.
-/

namespace LibraryDetection

set_option autoImplicit false

inductive RestoreFault
  | contentMismatch (className : String)
  | malformedPath (malformed : MalformedPath)
  deriving DecidableEq

def RestoreFault.text : RestoreFault → String
  | .contentMismatch className => "content hash mismatch for " ++ className
  | .malformedPath malformed => malformed.message

structure RestoreError where
  label : String
  fault : RestoreFault
  deriving DecidableEq

def RestoreError.message (error : RestoreError) : String :=
  error.label ++ ": " ++ error.fault.text

def StoredClass.toDescriptor (stored : StoredClass) : Except RestoreFault ClassDescriptor :=
  let descriptor :=
    ClassDescriptor.make stored.package stored.name stored.signatures stored.kind
  if descriptor.contentHash = stored.contentHash then .ok descriptor
  else .error (.contentMismatch descriptor.name)

def StoredClass.allToDescriptors :
    List StoredClass → Except RestoreFault (List ClassDescriptor)
  | [] => .ok []
  | stored :: rest =>
      match stored.toDescriptor with
      | .error fault => .error fault
      | .ok descriptor =>
          match StoredClass.allToDescriptors rest with
          | .error fault => .error fault
          | .ok descriptors => .ok (descriptor :: descriptors)

namespace FingerprintRecord

def packageTree (record : FingerprintRecord) : Except RestoreFault PackageTree :=
  match StoredClass.allToDescriptors record.classes with
  | .error fault => .error fault
  | .ok descriptors =>
      match PackageTree.ofClasses descriptors with
      | .error malformed => .error (.malformedPath malformed)
      | .ok tree => .ok tree

/-- The fingerprint of a record.  The package tree is built anew from the classes, whose content
hashes are checked on the way; the hash trees are kept as they stand. -/
def restore (record : FingerprintRecord) : Except RestoreError Fingerprint :=
  match record.packageTree with
  | .error fault => .error ⟨record.library.label, fault⟩
  | .ok tree => .ok ⟨record.library, tree, record.hashTrees⟩

end FingerprintRecord

end LibraryDetection

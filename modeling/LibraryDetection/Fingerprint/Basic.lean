import LibraryDetection.HashTree.Build
import LibraryDetection.Library.Description

/-!
# Library fingerprints

What is kept of a library version: its description, the package tree of its classes and
a hash tree for each of its roots.
-/

namespace LibraryDetection

set_option autoImplicit false

structure Fingerprint where
  description : LibraryDescription
  packageTree : PackageTree
  hashTrees : List HashTree

namespace Fingerprint

def label (fingerprint : Fingerprint) : String := fingerprint.description.label

def classCount (fingerprint : Fingerprint) : Int :=
  total HashTree.classCount fingerprint.hashTrees

/-- The options that the hash trees were made under.  Those of the first one stand for all, and
without any tree they are the default ones. -/
def options (fingerprint : Fingerprint) : HashOptions :=
  match fingerprint.hashTrees with
  | [] => {}
  | tree :: _ => tree.options

end Fingerprint

inductive ProfileError
  | malformedPath (malformed : MalformedPath)
  /-- No class is left to hash. -/
  | empty (label : String)
  deriving DecidableEq

def ProfileError.message : ProfileError → String
  | .malformedPath malformed => malformed.message
  | .empty label => label ++ ": empty hash tree generated"

structure Profile where
  warnings : List String
  result : Except ProfileError Fingerprint

/-- A library whose classes begin under several top-level packages calls for a warning, which
lists the roots. -/
def rootWarnings (description : LibraryDescription) (tree : PackageTree) : List String :=
  if tree.hasMultipleRoots then
    [description.label ++ ": library contains multiple root packages ("
      ++ Text.join ", " (tree.topLevelRoots.map PackagePath.dotted) ++ ")"]
  else []

/-- The fingerprint of a library with the given classes: the package tree of those that are not
synthetic, and a hash tree for each root with a class that counts.  Without such a root there is
no fingerprint. -/
def profileLibrary (classes : List ClassDescriptor) (description : LibraryDescription)
    (options : HashOptions) : Profile :=
  match PackageTree.ofClasses classes with
  | .error malformed => ⟨[], .error (.malformedPath malformed)⟩
  | .ok tree =>
      let hashTrees := tree.hashTrees options
      ⟨rootWarnings description tree,
        if hashTrees.isEmpty then .error (.empty description.label)
        else .ok ⟨description, tree, hashTrees⟩⟩

end LibraryDetection

import LibraryDetection.Collection.Sorted
import LibraryDetection.Text.Fields
import LibraryDetection.Library.Description

/-!
# File paths

A path is kept in its normal form: the mark of an absolute path, and the names along
the way without empty ones and without single points.  Two slashes in front are told
from one.
-/

namespace LibraryDetection

set_option autoImplicit false

open LibraryDetection.Text

inductive Anchoring
  | relative
  | absolute
  /-- Exactly two slashes in front. -/
  | doubled
  deriving DecidableEq, Repr, Inhabited

def Anchoring.text : Anchoring → String
  | .relative => ""
  | .absolute => "/"
  | .doubled => "//"

structure FilePath where
  anchoring : Anchoring
  names : List String
  deriving DecidableEq, Repr, Inhabited

namespace FilePath

def anchoringOf : List Char → Anchoring
  | '/' :: '/' :: '/' :: _ => .absolute
  | '/' :: '/' :: _ => .doubled
  | '/' :: _ => .absolute
  | _ => .relative

def isName (name : String) : Bool := name ≠ "" && name ≠ "."

def ofText (text : String) : FilePath :=
  ⟨anchoringOf text.toList, (split '/' text).filter isName⟩

def text (path : FilePath) : String :=
  if path.anchoring = .relative ∧ path.names = [] then "."
  else path.anchoring.text ++ join "/" path.names

def append (directory path : FilePath) : FilePath :=
  if path.anchoring = .relative then ⟨directory.anchoring, directory.names ++ path.names⟩
  else path

def child (directory : FilePath) (text : String) : FilePath := directory.append (ofText text)

def below (directory : FilePath) (names : List String) : FilePath :=
  ⟨directory.anchoring, directory.names ++ names⟩

def parent (path : FilePath) : FilePath := ⟨path.anchoring, path.names.dropLast⟩

def name (path : FilePath) : String := path.names.getLast?.getD ""

def namesLe : List String → List String → Bool
  | [], _ => true
  | _ :: _, [] => false
  | a :: as, b :: bs => if a = b then namesLe as bs else textLe a b

def listedBefore (a b : FilePath) : Bool :=
  namesLe (a.anchoring.text :: a.names) (b.anchoring.text :: b.names)

theorem append_relative {directory path : FilePath} (relative : path.anchoring = .relative) :
    directory.append path = ⟨directory.anchoring, directory.names ++ path.names⟩ := by
  simp [append, relative]

end FilePath

namespace LibraryDescription

def fileName (description : LibraryDescription) : String :=
  replaceChar ' ' '-' description.name ++ "_" ++ description.version ++ ".lib"

def fingerprintPath (profiles : FilePath) (description : LibraryDescription) : FilePath :=
  (profiles.child description.category.label).child description.fileName

end LibraryDescription

end LibraryDetection

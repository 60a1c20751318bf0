import LibraryDetection.Digest.Structural

/-!
# Class descriptors

What detection keeps of a class: its place, its simple name, the set of its member
signatures, its kind, and the digest of that set.
-/

namespace LibraryDetection

set_option autoImplicit false

open LibraryDetection.Text

inductive ClassKind
  | topLevel
  | inner
  | anonymous
  | synthetic
  | interface
  | enumeration
  /-- A label that names none of the six kinds. -/
  | other (label : String)
  deriving DecidableEq, Repr, Inhabited

namespace ClassKind

def all : List ClassKind :=
  [.topLevel, .inner, .anonymous, .synthetic, .interface, .enumeration]

def label : ClassKind → String
  | .topLevel => "top_level"
  | .inner => "inner"
  | .anonymous => "anonymous"
  | .synthetic => "synthetic"
  | .interface => "interface"
  | .enumeration => "enum"
  | .other label => label

def known? (label : String) : Option ClassKind := all.find? (·.label = label)

def ofLabel (label : String) : ClassKind := (known? label).getD (.other label)

theorem label_of_label (label : String) : (ofLabel label).label = label := by
  rw [ofLabel]
  cases found : known? label with
  | none => rfl
  | some kind => simpa using List.find?_some found

theorem known?_label {kind : ClassKind} (member : kind ∈ all) :
    known? kind.label = some kind := by
  revert member kind
  decide

end ClassKind

abbrev PackagePath := List String

namespace PackagePath

def dotted (path : PackagePath) : String := join "." path

def ofDotted (name : String) : PackagePath := if name = "" then [] else split '.' name

end PackagePath

structure ClassDescriptor where
  package : PackagePath
  simpleName : String
  /-- The member signatures in rising order, each once. -/
  signatures : List String
  kind : ClassKind
  contentHash : String
  deriving DecidableEq, Repr

namespace ClassDescriptor

def make (package : PackagePath) (simpleName : String) (signatures : List String)
    (kind : ClassKind) : ClassDescriptor :=
  { package, simpleName, kind
    signatures := textSet signatures
    contentHash := Digest.contentHash signatures }

/-- The full name; a class of the default package has no other than its simple one. -/
def name (descriptor : ClassDescriptor) : String :=
  if descriptor.package.isEmpty then descriptor.simpleName
  else PackagePath.dotted descriptor.package ++ "." ++ descriptor.simpleName

def listedBefore (a b : ClassDescriptor) : Bool :=
  if a.simpleName = b.simpleName then textLe a.contentHash b.contentHash
  else textLe a.simpleName b.simpleName

end ClassDescriptor

end LibraryDetection

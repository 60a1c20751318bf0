import LibraryDetection.Package.Descriptor

/-!
# Dumped classes

A class as the extractor of an artifact reports it: its full dotted name, its kind and
its members.
-/

namespace LibraryDetection

set_option autoImplicit false

open LibraryDetection.Text

structure Member where
  signature : String
  isPublic : Bool := true
  isSynthetic : Bool := false
  isBridge : Bool := false
  isMethod : Bool := true
  deriving DecidableEq, Repr

structure DumpedClass where
  /-- Dotted, with a dollar sign before the name of a nested class. -/
  name : String
  kind : ClassKind
  isPublic : Bool
  members : List Member
  deriving DecidableEq, Repr

namespace DumpedClass

def packagePath (dumped : DumpedClass) : PackagePath := (split '.' dumped.name).dropLast

def simpleName (dumped : DumpedClass) : String := afterLast '.' dumped.name

def isInner (dumped : DumpedClass) : Bool := dumped.simpleName.toList.contains '$'

def methods (dumped : DumpedClass) : List Member := dumped.members.filter (·.isMethod)

end DumpedClass

end LibraryDetection

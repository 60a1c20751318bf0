import LibraryDetection.Package.Tree

/-!
# Root packages

The dominant root of a tree is the package where its classes begin: the way down from
the root leads there without passing a class or a choice.  Where classes begin in
several top-level packages, each of those has a dominant root of its own.
-/

namespace LibraryDetection.PackageTree

set_option autoImplicit false

def hasMultipleRoots (tree : PackageTree) : Bool :=
  1 < tree.root.children.length && tree.root.classes.isEmpty

def rootPath (tree : PackageTree) : PackagePath := tree.root.descent

/-- The dotted name of the dominant root.  A tree with several roots has no single one, and so
no such name. -/
def rootPackage? (tree : PackageTree) : Option String :=
  if tree.hasMultipleRoots then none else some tree.rootPath.dotted

/-- The dominant roots: one for every top-level package where classes begin in several of them,
and the one of the tree otherwise. -/
def topLevelRoots (tree : PackageTree) : List PackagePath :=
  if tree.hasMultipleRoots then
    tree.root.children.map fun child => child.segment :: child.descent
  else [tree.rootPath]

end LibraryDetection.PackageTree

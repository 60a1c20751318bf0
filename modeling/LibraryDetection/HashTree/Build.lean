import LibraryDetection.Collection.Total
import LibraryDetection.HashTree.Node
import LibraryDetection.Package.Roots

/-!
# Hashing a package tree

Sub-packages are hashed first, and those without a class that counts are left out.
-/

namespace LibraryDetection

set_option autoImplicit false

open LibraryDetection.Text

def HashOptions.includes (options : HashOptions) (descriptor : ClassDescriptor) : Bool :=
  !(options.filterInnerClasses
    && (descriptor.kind = .inner || descriptor.kind = .anonymous))

/-- The hashes of the classes of one package that count, in rising order; without duplicates
each hash stands once. -/
def HashOptions.classHashes (options : HashOptions) (classes : List ClassDescriptor) :
    List String :=
  let hashes := (classes.filter options.includes).map (·.contentHash)
  if options.filterDuplicates then textSet hashes else sortTexts hashes

namespace HashNode

/-- A node over its own class hashes and its children.  Its digests and its count are worked out
here and nowhere else, so that they agree with what the node holds. -/
def make (segment : String) (classHashes : List String) (children : List HashNode) :
    HashNode :=
  let ownHash := Digest.nodeHash classHashes
  { segment, classHashes, children
    nodeHash := ownHash
    subtreeHash := Digest.subtreeHash ownHash (children.map (·.subtreeHash))
    classCount := classHashes.length + total HashNode.classCount children }

mutual

def ofPackage (options : HashOptions) : PackageNode → HashNode
  | ⟨segment, classes, children⟩ =>
      make segment (options.classHashes classes) (ofPackages options children)

/-- The nodes of the packages that hold a class that counts.  A package without one at or below
it leaves no trace in a hash tree. -/
def ofPackages (options : HashOptions) : List PackageNode → List HashNode
  | [] => []
  | child :: others =>
      let node := ofPackage options child
      if 0 < node.classCount then node :: ofPackages options others
      else ofPackages options others

end

end HashNode

structure AbsentPackage where
  path : PackagePath
  deriving DecidableEq, Repr

def AbsentPackage.message (absent : AbsentPackage) : String :=
  "Package " ++ quoted absent.path.dotted ++ " not in tree"

namespace PackageTree

def hashTreeAt (tree : PackageTree) (options : HashOptions) (path : PackagePath) :
    Except AbsentPackage HashTree :=
  match tree.find? path with
  | some node => .ok ⟨path, HashNode.ofPackage options node, options⟩
  | none => .error ⟨path⟩

def hashTree (tree : PackageTree) (options : HashOptions) : Except AbsentPackage HashTree :=
  tree.hashTreeAt options tree.rootPath

def wholeHashTree (tree : PackageTree) (options : HashOptions) : HashTree :=
  ⟨[], HashNode.ofPackage options tree.root, options⟩

/-- One hash tree for each root at or below which a class counts, in the order of the roots. -/
def hashTrees (tree : PackageTree) (options : HashOptions) : List HashTree :=
  (tree.topLevelRoots.filterMap fun path => (tree.hashTreeAt options path).toOption).filter
    fun hashed => 0 < hashed.classCount

theorem hash_tree_at_nil (tree : PackageTree) (options : HashOptions) :
    tree.hashTreeAt options [] = .ok (tree.wholeHashTree options) := rfl

end PackageTree

end LibraryDetection

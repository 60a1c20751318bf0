import LibraryDetection.Package.Path

/-!
# Hash trees

The digests of a package and of everything below it.  A hash tree knows the package
path of its root and the options it was made under.
-/

namespace LibraryDetection

set_option autoImplicit false

/-- Options that change hashes; trees made under different options are not compared. -/
structure HashOptions where
  /-- Inner and anonymous classes are left out. -/
  filterInnerClasses : Bool := false
  /-- Equal classes of a package count once. -/
  filterDuplicates : Bool := false
  deriving DecidableEq, Repr, Inhabited

structure HashNode where
  segment : String
  nodeHash : String
  subtreeHash : String
  classHashes : List String
  classCount : Int
  children : List HashNode
  deriving Inhabited, Repr

namespace HashNode

def directCount (node : HashNode) : Nat := node.classHashes.length

mutual

/-- Every node at and below one at `path`, each before its children, and siblings in their
order.  The segment of the node itself has no part in the paths. -/
def walk (path : PackagePath) : HashNode → List (PackagePath × HashNode)
  | ⟨segment, nodeHash, subtreeHash, classHashes, classCount, children⟩ =>
      (path, ⟨segment, nodeHash, subtreeHash, classHashes, classCount, children⟩)
        :: walkAll path children

def walkAll (path : PackagePath) : List HashNode → List (PackagePath × HashNode)
  | [] => []
  | child :: others => walk (path ++ [child.segment]) child ++ walkAll path others

end

def find? : PackagePath → HashNode → Option HashNode
  | [], node => some node
  | segment :: rest, node =>
      match node.children.find? (·.segment = segment) with
      | some child => find? rest child
      | none => none

end HashNode

structure HashTree where
  rootPath : PackagePath
  root : HashNode
  options : HashOptions
  deriving Inhabited, Repr

namespace HashTree

def subtreeHash (tree : HashTree) : String := tree.root.subtreeHash

def classCount (tree : HashTree) : Int := tree.root.classCount

def rootPackage (tree : HashTree) : String := tree.rootPath.dotted

def nodes (tree : HashTree) : List (PackagePath × HashNode) := tree.root.walk tree.rootPath

def below? (start path : PackagePath) : Option PackagePath :=
  match start, path with
  | [], rest => some rest
  | _ :: _, [] => none
  | expected :: start, segment :: rest =>
      if expected = segment then below? start rest else none

def find? (tree : HashTree) (path : PackagePath) : Option HashNode :=
  match below? tree.rootPath path with
  | some rest => tree.root.find? rest
  | none => none

def occupied (tree : HashTree) : List HashNode :=
  (tree.nodes.map (·.2)).filter fun node => !node.classHashes.isEmpty

/-- The bag of the node hashes of all packages with classes of their own.  The hash of an empty
package, which any two such packages share, would be no evidence. -/
def nodeHashBag (tree : HashTree) : List String := tree.occupied.map (·.nodeHash)

def classHashBag (tree : HashTree) : List String :=
  tree.nodes.flatMap fun entry => entry.2.classHashes

end HashTree

end LibraryDetection

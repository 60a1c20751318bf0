import LibraryDetection.HashTree.Node
import LibraryDetection.Collection.Bag

/-!
# Query indexes

What is looked up in the hash tree of an application: where a subtree stands, which
packages and classes there are, and which packages stand at a given depth.
-/

namespace LibraryDetection

set_option autoImplicit false

def firstEntries {α β : Type} [DecidableEq α] : List (α × β) → List (α × β)
  | [] => []
  | (key, value) :: rest =>
      (key, value) :: (firstEntries rest).filter fun entry => entry.1 ≠ key

structure QueryIndex where
  tree : HashTree
  /-- The path of the first node with a subtree hash. -/
  subtreePaths : List (String × PackagePath)
  nodeBag : List String
  classBag : List String
  /-- The nodes with a class at or below them, with their paths. -/
  counted : List (PackagePath × HashNode)

namespace QueryIndex

def ofTree (tree : HashTree) : QueryIndex :=
  { tree
    subtreePaths := firstEntries (tree.nodes.map fun entry => (entry.2.subtreeHash, entry.1))
    nodeBag := tree.nodeHashBag
    classBag := tree.classHashBag
    counted := tree.nodes.filter fun entry => entry.2.classCount ≠ 0 }

def subtreePath? (index : QueryIndex) (hash : String) : Option PackagePath :=
  index.subtreePaths.lookup hash

def atDepth (index : QueryIndex) (depth : Nat) : List (PackagePath × HashNode) :=
  index.counted.filter fun entry => entry.1.length = depth

def depths (index : QueryIndex) : List Nat :=
  sortBy (fun a b => decide (a ≤ b)) (distinct (index.counted.map fun entry => entry.1.length))

end QueryIndex

end LibraryDetection

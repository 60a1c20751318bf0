import LibraryDetection.Matching.Index

/-!
# Evidence without paths

How much of a library an application holds, package names set aside: whole packages
count first, the largest first, and the classes of the others one by one against the
classes of the application that are still free.
-/

namespace LibraryDetection

set_option autoImplicit false

/-- What is left of the query to be matched, and what has been matched of the references.  The
classes of packages that were not found wait until all packages have had their turn. -/
structure Tally where
  freeNodes : List String
  freeClasses : List String
  loose : List String
  matchedClasses : Nat
  matchedPackages : Nat
  deriving DecidableEq, Repr

namespace Tally

def start (index : QueryIndex) : Tally := ⟨index.nodeBag, index.classBag, [], 0, 0⟩

/-- A package whose hash is still free is found as a whole and takes its classes out of the
query.  The classes of any other package are put aside. -/
def take (tally : Tally) (node : HashNode) : Tally :=
  if node.nodeHash ∈ tally.freeNodes then
    { tally with
      freeNodes := tally.freeNodes.erase node.nodeHash
      freeClasses := Bag.without tally.freeClasses node.classHashes
      matchedClasses := tally.matchedClasses + node.directCount
      matchedPackages := tally.matchedPackages + 1 }
  else { tally with loose := tally.loose ++ node.classHashes }

def total (tally : Tally) : Nat × Nat :=
  (tally.matchedClasses + Bag.sharedSize tally.loose tally.freeClasses,
    tally.matchedPackages)

end Tally

def largerFirst (a b : HashNode) : Bool :=
  if a.directCount = b.directCount then textLe a.nodeHash b.nodeHash
  else b.directCount < a.directCount

/-- The packages with classes of their own in the order in which they are looked for. -/
def packagesBySize (trees : List HashTree) : List HashNode :=
  sortBy largerFirst (trees.flatMap HashTree.occupied)

/-- The number of classes and of packages of the trees that the query holds.  Whole packages are
looked for before single classes, the largest first. -/
def looseEvidence (trees : List HashTree) (index : QueryIndex) : Nat × Nat :=
  ((packagesBySize trees).foldl Tally.take (Tally.start index)).total

end LibraryDetection

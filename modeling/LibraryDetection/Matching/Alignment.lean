import LibraryDetection.Collection.Total
import LibraryDetection.Matching.Index

/-!
# Alignment

The number of classes of a library that stand at the same place in an application.
Two packages are laid over each other, their sub-packages are paired, and each pair is
aligned in turn.  Names need not agree.
-/

namespace LibraryDetection

set_option autoImplicit false

variable {α : Type}

def takeFirst (passes : α → Bool) : List α → Option (α × List α)
  | [] => none
  | head :: tail =>
      if passes head then some (head, tail)
      else (takeFirst passes tail).map fun found => (found.1, head :: found.2)

structure Pairing (α : Type) where
  pairs : List (α × HashNode)
  references : List α
  queries : List HashNode

/-- Goes through the references in order and gives each the first free query that fits.  A
reference that finds none is left for the next rule. -/
def pairWhere (fits : α → HashNode → Bool) : List α → List HashNode → Pairing α
  | [], queries => ⟨[], [], queries⟩
  | reference :: others, queries =>
      match takeFirst (fits reference) queries with
      | some (query, left) =>
          let rest := pairWhere fits others left
          ⟨(reference, query) :: rest.pairs, rest.references, rest.queries⟩
      | none =>
          let rest := pairWhere fits others queries
          ⟨rest.pairs, reference :: rest.references, rest.queries⟩

abbrev PairRule := HashNode → HashNode → Bool

/-- The rules in the order in which they are tried: equal subtrees, equal names, and equal
classes where there are any. -/
def pairRules : List PairRule :=
  [fun reference query => reference.subtreeHash = query.subtreeHash,
    fun reference query => reference.segment = query.segment,
    fun reference query =>
      !reference.classHashes.isEmpty && reference.nodeHash = query.nodeHash]

/-- The rules one after the other, each on what is left by those before it. -/
def pairByRules (node : α → HashNode) : List PairRule → List α → List HashNode → Pairing α
  | [], references, queries => ⟨[], references, queries⟩
  | rule :: rules, references, queries =>
      let first := pairWhere (fun reference query => rule (node reference) query)
        references queries
      let rest := pairByRules node rules first.references first.queries
      ⟨first.pairs ++ rest.pairs, rest.references, rest.queries⟩

def biggerFirst (a b : HashNode) : Bool :=
  if a.classCount = b.classCount then textLe a.segment b.segment
  else b.classCount < a.classCount

/-- The pairs by the rules, and behind them the largest of the references that are left with the
largest of the queries that are left, and so on down. -/
def pairsOf (node : α → HashNode) (references : List α) (queries : List HashNode) :
    List (α × HashNode) :=
  let pairing := pairByRules node pairRules references queries
  pairing.pairs ++
    (sortBy (fun a b => biggerFirst (node a) (node b)) pairing.references).zip
      (sortBy biggerFirst pairing.queries)

def pairChildren (references queries : List HashNode) : List (HashNode × HashNode) :=
  pairsOf id references queries

namespace HashNode

def sharedClasses (reference query : HashNode) : Nat :=
  if reference.nodeHash = query.nodeHash then reference.directCount
  else Bag.sharedSize reference.classHashes query.classHashes

mutual

/-- The number of reference classes that stand at the same place under a query node.  Equal
subtrees are not looked into, all of their classes count; otherwise the classes of the two
packages are compared, and their children are paired and aligned in turn. -/
def align : HashNode → HashNode → Int
  | ⟨segment, nodeHash, subtreeHash, classHashes, classCount, children⟩, query =>
      if subtreeHash = query.subtreeHash then classCount
      else
        let own :=
          sharedClasses ⟨segment, nodeHash, subtreeHash, classHashes, classCount, children⟩ query
        own + total (fun pair => pair.1.2 pair.2)
          (pairsOf Prod.fst (aligners children) query.children)

def aligners : List HashNode → List (HashNode × (HashNode → Int))
  | [] => []
  | child :: others => (child, fun query => align child query) :: aligners others

end

end HashNode

structure Anchor where
  matched : Int
  path : Option PackagePath
  deriving DecidableEq, Repr

/-- Looks through the candidates for a better alignment; of equal ones the earlier is kept.  The
search ends at one that reaches all classes of the reference, since none can be better. -/
def bestAnchor (reference : HashTree) : Anchor → List (PackagePath × HashNode) → Anchor
  | best, [] => best
  | best, (path, node) :: rest =>
      let score := reference.root.align node
      if best.matched < score then
        if score = reference.classCount then ⟨score, some path⟩
        else bestAnchor reference ⟨score, some path⟩ rest
      else bestAnchor reference best rest

/-- The counted nodes at the depth of the reference.  The one at its own path comes first, and
so is kept among equals. -/
def anchorCandidates (reference : HashTree) (index : QueryIndex) :
    List (PackagePath × HashNode) :=
  let candidates := index.atDepth reference.rootPath.length
  (candidates.filter fun entry => entry.1 = reference.rootPath)
    ++ candidates.filter fun entry => entry.1 ≠ reference.rootPath

def anchor (reference : HashTree) (index : QueryIndex) : Anchor :=
  bestAnchor reference ⟨0, none⟩ (anchorCandidates reference index)

/-- The classes aligned of all trees together, with the first place that was found for one of
the trees. -/
def alignTrees (index : QueryIndex) : List HashTree → Anchor
  | [] => ⟨0, none⟩
  | tree :: trees =>
      let first := anchor tree index
      let rest := alignTrees index trees
      ⟨first.matched + rest.matched, first.path.or rest.path⟩

end LibraryDetection

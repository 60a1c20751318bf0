import LibraryDetection.Package.Path

/-!
# Package trees

Classes grouped by the segments of their package paths.  The tree starts at a root with
the empty segment; below it every package stands among its siblings in the order of the
segments, and no segment stands twice.
-/

namespace LibraryDetection

set_option autoImplicit false

open LibraryDetection.Text

structure PackageNode where
  segment : String
  classes : List ClassDescriptor
  children : List PackageNode
  deriving Inhabited, Repr

namespace PackageNode

def bare (segment : String) : PackageNode := ⟨segment, [], []⟩

/-- Changes the child with a segment.  A child that was not there is put at its place in the
order of the segments. -/
def changeChild (segment : String) (change : PackageNode → PackageNode) :
    List PackageNode → List PackageNode
  | [] => [change (bare segment)]
  | child :: others =>
      if child.segment = segment then change child :: others
      else if segment < child.segment then change (bare segment) :: child :: others
      else child :: changeChild segment change others

/-- Puts a class at a path below the package; an equal class is not put there twice. -/
def insert (descriptor : ClassDescriptor) : PackagePath → PackageNode → PackageNode
  | [], node => { node with classes := node.classes.insert descriptor }
  | segment :: rest, node =>
      { node with
        children := changeChild segment (insert descriptor rest) node.children }

def find? : PackagePath → PackageNode → Option PackageNode
  | [], node => some node
  | segment :: rest, node =>
      match node.children.find? (·.segment = segment) with
      | some child => find? rest child
      | none => none

def isLeaf (node : PackageNode) : Bool := node.children.isEmpty

mutual

def classCount : PackageNode → Nat
  | ⟨_, classes, children⟩ => classes.length + classCountAll children

def classCountAll : List PackageNode → Nat
  | [] => 0
  | child :: others => classCount child + classCountAll others

end

mutual

/-- Every package at and below one at `path`, each before its sub-packages, and those in their
order. -/
def walk (path : PackagePath) : PackageNode → List (PackagePath × PackageNode)
  | ⟨segment, classes, children⟩ => (path, ⟨segment, classes, children⟩) :: walkAll path children

def walkAll (path : PackagePath) : List PackageNode → List (PackagePath × PackageNode)
  | [] => []
  | child :: others => walk (path ++ [child.segment]) child ++ walkAll path others

end

mutual

/-- The way down from a package as long as it holds no classes and one sub-package. -/
def descent : PackageNode → PackagePath
  | ⟨_, classes, children⟩ => if classes.isEmpty then descentAll children else []

def descentAll : List PackageNode → PackagePath
  | [only] => only.segment :: descent only
  | _ => []

end

end PackageNode

structure PackageTree where
  root : PackageNode
  deriving Inhabited, Repr

namespace PackageTree

def empty : PackageTree := ⟨PackageNode.bare ""⟩

/-- Adds a class of any kind to the tree in hand.  Its path is looked at before the tree is
touched. -/
def addInPlace (descriptor : ClassDescriptor) : EStateM MalformedPath PackageTree Unit := do
  match descriptor.malformed? with
  | some malformed => throw malformed
  | none => modify fun tree => ⟨tree.root.insert descriptor descriptor.package⟩

def add (tree : PackageTree) (descriptor : ClassDescriptor) :
    Except MalformedPath PackageTree :=
  match addInPlace descriptor tree with
  | .ok _ grown => .ok grown
  | .error malformed _ => .error malformed

def addAll (tree : PackageTree) : List ClassDescriptor → Except MalformedPath PackageTree
  | [] => .ok tree
  | descriptor :: rest =>
      match tree.add descriptor with
      | .error malformed => .error malformed
      | .ok grown => grown.addAll rest

/-- The tree of the classes that are not synthetic; the first malformed path fails it. -/
def ofClasses (classes : List ClassDescriptor) : Except MalformedPath PackageTree :=
  empty.addAll (classes.filter (·.kind ≠ .synthetic))

def find? (tree : PackageTree) (path : PackagePath) : Option PackageNode :=
  tree.root.find? path

def nodes (tree : PackageTree) : List (PackagePath × PackageNode) := tree.root.walk []

def holds (tree : PackageTree) (name : String) : Bool :=
  match tree.find? (PackagePath.ofDotted name) with
  | some node => !node.classes.isEmpty
  | none => false

def occupied (tree : PackageTree) : List (PackagePath × PackageNode) :=
  tree.nodes.filter fun entry => !entry.2.classes.isEmpty

def packages (tree : PackageTree) : List String :=
  sortTexts (tree.occupied.map fun entry => PackagePath.dotted entry.1)

def classes (tree : PackageTree) : List ClassDescriptor :=
  tree.nodes.flatMap fun entry => sortBy ClassDescriptor.listedBefore entry.2.classes

def classCount (tree : PackageTree) : Nat := tree.root.classCount

def packageCount (tree : PackageTree) : Nat := tree.occupied.length

def leafCount (tree : PackageTree) : Nat :=
  (tree.nodes.filter fun entry => !entry.1.isEmpty && entry.2.isLeaf).length

/-- One line for a package: indented by its depth, with the number of its own classes. -/
def outlineLine (path : PackagePath) (node : PackageNode) : String :=
  String.ofList (List.replicate (2 * (path.length - 1)) ' ') ++ node.segment
    ++ (if node.classes.isEmpty then "" else " (" ++ toString node.classes.length ++ ")")

def outline (tree : PackageTree) : String :=
  join "\n" ((tree.nodes.filter fun entry => !entry.1.isEmpty).map
    fun entry => outlineLine entry.1 entry.2)

end PackageTree

end LibraryDetection

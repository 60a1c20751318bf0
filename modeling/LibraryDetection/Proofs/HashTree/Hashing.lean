import LibraryDetection.HashTree.Build
import LibraryDetection.Proofs.Digest.Structural
import LibraryDetection.Proofs.Package.Members

/-!
# Hashed package trees

Every node of a hash tree carries the digests and the count of what it holds.  The nodes
that are kept stand where their packages do, and the hashes say nothing about the order in
which the classes of a package came.
-/

namespace LibraryDetection

set_option autoImplicit false

open LibraryDetection.Text

theorem HashOptions.class_hashes_nil (options : HashOptions) : options.classHashes [] = [] := by
  unfold HashOptions.classHashes
  split <;> rfl

namespace HashNode

@[induction_eliminator]
theorem induct {motive : HashNode → Prop}
    (node : ∀ segment nodeHash subtreeHash classHashes classCount children,
      (∀ child ∈ children, motive child) →
        motive ⟨segment, nodeHash, subtreeHash, classHashes, classCount, children⟩) :
    ∀ hashed, motive hashed
  | ⟨segment, nodeHash, subtreeHash, classHashes, classCount, children⟩ =>
      node segment nodeHash subtreeHash classHashes classCount children
        fun child _ => induct node child
termination_by hashed => hashed
decreasing_by
  have smaller := List.sizeOf_lt_of_mem (by assumption : child ∈ children)
  simp only [HashNode.mk.sizeOf_spec]
  omega

inductive Every (property : HashNode → Prop) : HashNode → Prop
  | node {node : HashNode} (here : property node)
      (within : ∀ child ∈ node.children, child.Every property) : node.Every property

namespace Every

variable {property : HashNode → Prop} {node : HashNode}

theorem here (every : node.Every property) : property node := by
  cases every
  assumption

theorem within (every : node.Every property) : ∀ child ∈ node.children, child.Every property := by
  cases every
  assumption

theorem imp {weaker : HashNode → Prop} (every : node.Every property)
    (implies : ∀ inner, property inner → weaker inner) : node.Every weaker := by
  induction every with
  | node here _ ih => exact .node (implies _ here) ih

end Every

/-- The node and all nodes below it were made from what they hold, so that their digests and
counts are those of `make`. -/
def Hashed (node : HashNode) : Prop :=
  node.Every fun inner => inner = make inner.segment inner.classHashes inner.children

namespace Hashed

variable {node : HashNode}

theorem remade (hashed : node.Hashed) :
    node = make node.segment node.classHashes node.children := by
  have own := Every.here hashed
  exact own

theorem within (hashed : node.Hashed) : ∀ child ∈ node.children, child.Hashed :=
  Every.within hashed

theorem node_hash_eq (hashed : node.Hashed) :
    node.nodeHash = Digest.nodeHash node.classHashes := by
  rw [hashed.remade]
  rfl

theorem subtree_hash_eq (hashed : node.Hashed) :
    node.subtreeHash =
      Digest.subtreeHash node.nodeHash (node.children.map (·.subtreeHash)) := by
  rw [hashed.remade]
  rfl

theorem class_count_eq (hashed : node.Hashed) :
    node.classCount = node.classHashes.length + total HashNode.classCount node.children := by
  rw [hashed.remade]
  rfl

end Hashed

theorem of_packages_eq (options : HashOptions) (children : List PackageNode) :
    ofPackages options children =
      (children.map (ofPackage options)).filter fun node => decide (0 < node.classCount) := by
  induction children with
  | nil => rfl
  | cons child others ih =>
      rw [ofPackages, ih, List.map_cons, List.filter_cons]
      simp only [decide_eq_true_eq]

theorem mem_of_packages (options : HashOptions) (children : List PackageNode) (node : HashNode) :
    node ∈ ofPackages options children ↔
      ∃ child ∈ children, ofPackage options child = node ∧ 0 < node.classCount := by
  rw [of_packages_eq, List.mem_filter, List.mem_map, decide_eq_true_eq]
  constructor
  · rintro ⟨⟨child, member, made⟩, counted⟩
    exact ⟨child, member, made, counted⟩
  · rintro ⟨child, member, made, counted⟩
    exact ⟨⟨child, member, made⟩, counted⟩

theorem of_package_eq (options : HashOptions) (package : PackageNode) :
    ofPackage options package =
      make package.segment (options.classHashes package.classes)
        (ofPackages options package.children) := by
  cases package
  rw [ofPackage]

theorem flatMap_of_packages {β : Type} (options : HashOptions) (children : List PackageNode)
    (expand : HashNode → List β) :
    (ofPackages options children).flatMap expand =
      children.flatMap fun child =>
        if 0 < (ofPackage options child).classCount then expand (ofPackage options child)
        else [] := by
  induction children with
  | nil => rfl
  | cons child others ih =>
      rw [ofPackages, List.flatMap_cons, ← ih]
      split <;> simp [*]

theorem segment_of_package (options : HashOptions) (package : PackageNode) :
    (ofPackage options package).segment = package.segment := by
  rw [of_package_eq]
  rfl

theorem class_hashes_of_package (options : HashOptions) (package : PackageNode) :
    (ofPackage options package).classHashes = options.classHashes package.classes := by
  rw [of_package_eq]
  rfl

theorem hashed_of_package (options : HashOptions) (package : PackageNode) :
    (ofPackage options package).Hashed := by
  induction package with
  | node segment classes children ih =>
      rw [ofPackage]
      refine .node rfl ?_
      intro child member
      obtain ⟨origin, isChild, rfl, _⟩ := (mem_of_packages options children child).1 member
      exact ih origin isChild

theorem class_hashes_eq_of_perm (options : HashOptions) {left right : List ClassDescriptor}
    (same : left.Perm right) : options.classHashes left = options.classHashes right := by
  have hashes : ((left.filter options.includes).map (·.contentHash)).Perm
      ((right.filter options.includes).map (·.contentHash)) := (same.filter _).map _
  rw [HashOptions.classHashes, HashOptions.classHashes]
  split
  · apply text_set_eq_of_mem_iff
    intro text
    exact hashes.mem_iff
  · exact sort_texts_eq_of_perm hashes

theorem of_packages_eq_of_forall₂ (options : HashOptions) {left right : List PackageNode}
    (pairs : List.Forall₂ (fun a b => ofPackage options a = ofPackage options b) left right) :
    ofPackages options left = ofPackages options right := by
  induction pairs with
  | nil => rfl
  | cons pair _ ih => rw [ofPackages, ofPackages, pair, ih]

/-- Packages that hold the same classes at every path are hashed to the same node. -/
theorem of_package_eq_of_classes_at (options : HashOptions) {left right : PackageNode}
    (leftFormed : left.WellFormed) (rightFormed : right.WellFormed)
    (segments : left.segment = right.segment)
    (same : ∀ path member, member ∈ left.classesAt path ↔ member ∈ right.classesAt path) :
    ofPackage options left = ofPackage options right := by
  induction left generalizing right with
  | node segment classes children ih =>
      have own : classes.Perm right.classes := by
        apply (List.perm_ext_iff_of_nodup leftFormed.distinct rightFormed.distinct).2
        intro member
        exact same [] member
      have below : ofPackages options children = ofPackages options right.children := by
        apply of_packages_eq_of_forall₂
        apply (PackageNode.forall₂_children leftFormed rightFormed same).imp
        rintro child other ⟨isChild, isOther, named, alike⟩
        exact ih child isChild (leftFormed.within child isChild) (rightFormed.within other isOther)
          named alike
      have hashes := class_hashes_eq_of_perm options own
      simp only at segments
      rw [of_package_eq, of_package_eq options right]
      simp only [segments, hashes, below]

theorem Hashed.class_count_nonneg {node : HashNode} (hashed : node.Hashed) :
    0 ≤ node.classCount := by
  induction node with
  | node segment nodeHash subtreeHash classHashes classCount children ih =>
      have rest : 0 ≤ total HashNode.classCount children :=
        total_nonneg fun child member => ih child member (hashed.within child member)
      have sum := hashed.class_count_eq
      simp only at sum ⊢
      omega

theorem le_total_of_mem {children : List HashNode} (nonneg : ∀ node ∈ children, 0 ≤ node.classCount)
    {child : HashNode} (member : child ∈ children) :
    child.classCount ≤ total HashNode.classCount children := by
  obtain ⟨front, back, rfl⟩ := List.append_of_mem member
  have before : 0 ≤ total HashNode.classCount front :=
    total_nonneg fun node inFront => nonneg node (List.mem_append_left _ inFront)
  have behind : 0 ≤ total HashNode.classCount back :=
    total_nonneg fun node inBack =>
      nonneg node (List.mem_append_right _ (List.mem_cons_of_mem child inBack))
  rw [total_append, total]
  omega

theorem walk_all_eq_flatMap (path : PackagePath) (children : List HashNode) :
    walkAll path children = children.flatMap fun child => child.walk (path ++ [child.segment]) := by
  induction children with
  | nil => rfl
  | cons child others ih => rw [walkAll, ih, List.flatMap_cons]

theorem walk_eq (path : PackagePath) (node : HashNode) :
    node.walk path =
      (path, node) :: node.children.flatMap fun child => child.walk (path ++ [child.segment]) := by
  cases node
  rw [walk, walk_all_eq_flatMap]

theorem mem_walk_iff {path : PackagePath} {node : HashNode} {entry : PackagePath × HashNode} :
    entry ∈ node.walk path ↔
      entry = (path, node) ∨
        ∃ child ∈ node.children, entry ∈ child.walk (path ++ [child.segment]) := by
  rw [walk_eq, List.mem_cons, List.mem_flatMap]

theorem mem_walk_self (path : PackagePath) (node : HashNode) : (path, node) ∈ node.walk path :=
  mem_walk_iff.2 (.inl rfl)

theorem map_snd_walk_eq (path other : PackagePath) (node : HashNode) :
    (node.walk path).map (·.2) = (node.walk other).map (·.2) := by
  induction node generalizing path other with
  | node segment nodeHash subtreeHash classHashes classCount children ih =>
      rw [walk_eq path, walk_eq other, List.map_cons, List.map_cons, List.map_flatMap,
        List.map_flatMap]
      congr 1
      apply List.flatMap_congr
      intro child isChild
      exact ih child isChild _ _

theorem every_iff_forall_mem_walk {property : HashNode → Prop} (path : PackagePath)
    (node : HashNode) : node.Every property ↔ ∀ entry ∈ node.walk path, property entry.2 := by
  induction node generalizing path with
  | node segment nodeHash subtreeHash classHashes classCount children ih =>
      constructor
      · intro every entry member
        rcases mem_walk_iff.1 member with rfl | ⟨child, isChild, below⟩
        · exact every.here
        · have within := (ih child isChild (path ++ [child.segment])).1
          exact within (every.within child isChild) entry below
      · intro holds
        refine .node (holds _ (mem_walk_self path _)) ?_
        intro child isChild
        refine (ih child isChild (path ++ [child.segment])).2 ?_
        intro entry below
        exact holds entry (mem_walk_iff.2 (.inr ⟨child, isChild, below⟩))

theorem Every.of_mem_walk {property : HashNode → Prop} {node : HashNode}
    (every : node.Every property) {path : PackagePath} {entry : PackagePath × HashNode}
    (member : entry ∈ node.walk path) : entry.2.Every property := by
  induction node generalizing path with
  | node segment nodeHash subtreeHash classHashes classCount children ih =>
      rcases mem_walk_iff.1 member with rfl | ⟨child, isChild, below⟩
      · exact every
      · exact ih child isChild (every.within child isChild) below

theorem Hashed.of_mem_walk {node : HashNode} (hashed : node.Hashed) {path : PackagePath}
    {entry : PackagePath × HashNode} (member : entry ∈ node.walk path) : entry.2.Hashed :=
  Every.of_mem_walk hashed member

theorem Hashed.class_count_eq_length {node : HashNode} (hashed : node.Hashed)
    (path : PackagePath) :
    node.classCount = ((node.walk path).flatMap fun entry => entry.2.classHashes).length := by
  induction node generalizing path with
  | node segment nodeHash subtreeHash classHashes classCount children ih =>
      have below : ∀ nodes : List HashNode, (∀ child ∈ nodes, child ∈ children) →
          total HashNode.classCount nodes =
            ((nodes.flatMap fun child => child.walk (path ++ [child.segment])).flatMap
              fun entry => entry.2.classHashes).length := by
        intro nodes part
        induction nodes with
        | nil => rfl
        | cons child others rest =>
            have isChild := part child List.mem_cons_self
            have first := ih child isChild (hashed.within child isChild) (path ++ [child.segment])
            have others := rest fun node member => part node (List.mem_cons_of_mem child member)
            rw [total, first, others, List.flatMap_cons, List.flatMap_append, List.length_append]
            omega
      have sum := hashed.class_count_eq
      have rest := below children fun child member => member
      rw [walk_eq, List.flatMap_cons, List.length_append]
      simp only at sum ⊢
      omega

end HashNode

namespace HashTree

def Built (hashed : HashTree) : Prop :=
  ∃ (tree : PackageTree) (options : HashOptions) (path : PackagePath),
    tree.hashTreeAt options path = .ok hashed

variable {hashed : HashTree}

theorem hash_tree_at_eq_ok_iff (tree : PackageTree) (options : HashOptions) (path : PackagePath) :
    tree.hashTreeAt options path = .ok hashed ↔
      ∃ package, tree.find? path = some package ∧
        hashed = ⟨path, HashNode.ofPackage options package, options⟩ := by
  rw [PackageTree.hashTreeAt]
  cases tree.find? path with
  | none => simp
  | some package => simp [eq_comm]

theorem built_whole_hash_tree (tree : PackageTree) (options : HashOptions) :
    (tree.wholeHashTree options).Built :=
  ⟨tree, options, [], rfl⟩

theorem Built.hashed_root (built : hashed.Built) : hashed.root.Hashed := by
  obtain ⟨tree, options, path, made⟩ := built
  obtain ⟨package, _, rfl⟩ := (hash_tree_at_eq_ok_iff tree options path).1 made
  exact HashNode.hashed_of_package options package

theorem Built.hashed_of_mem (built : hashed.Built) {entry : PackagePath × HashNode}
    (member : entry ∈ hashed.nodes) : entry.2.Hashed :=
  built.hashed_root.of_mem_walk member

theorem Built.class_count_eq_length (built : hashed.Built) :
    hashed.classCount = hashed.classHashBag.length :=
  built.hashed_root.class_count_eq_length hashed.rootPath

theorem total_class_count_eq_length {trees : List HashTree}
    (built : ∀ tree ∈ trees, tree.Built) :
    total HashTree.classCount trees = (trees.flatMap (·.classHashBag)).length := by
  induction trees with
  | nil => rfl
  | cons tree trees ih =>
      rw [List.forall_mem_cons] at built
      rw [total, built.1.class_count_eq_length, ih built.2, List.flatMap_cons, List.length_append,
        Int.natCast_add]

theorem flatMap_occupied (tree : HashTree) :
    tree.occupied.flatMap (·.classHashes) = tree.classHashBag := by
  rw [classHashBag, occupied]
  induction tree.nodes with
  | nil => rfl
  | cons entry others ih =>
      rw [List.map_cons, List.filter_cons, List.flatMap_cons]
      split
      · rw [List.flatMap_cons, ih]
      · rename_i free
        have none : entry.2.classHashes = [] := by simpa using free
        rw [ih, none, List.nil_append]

end HashTree

end LibraryDetection

import LibraryDetection.Proofs.HashTree.Flat

/-!
# Look-ups in hash trees

A look-up by path finds what the walk over the tree meets at that path, and the walk meets the
root and every child of what it meets.  In the hash tree of everything a package is therefore
found as the root of its own hash tree, unless it counts no class and was left out.
-/

namespace LibraryDetection

set_option autoImplicit false

namespace HashNode

theorem find?_child {node child : HashNode} (distinct : node.DistinctChildren)
    (isChild : child ∈ node.children) :
    node.children.find? (·.segment = child.segment) = some child := by
  have present : (node.children.find? (·.segment = child.segment)).isSome := by
    rw [List.find?_isSome]
    exact ⟨child, isChild, by simp⟩
  obtain ⟨found, isFound⟩ := Option.isSome_iff_exists.1 present
  have named : found.segment = child.segment := by
    simpa using List.find?_some isFound
  have same : found = child :=
    List.inj_on_of_nodup_map distinct (List.mem_of_find?_eq_some isFound) isChild named
  rw [isFound, same]

theorem find?_append (path rest : PackagePath) (node : HashNode) :
    node.find? (path ++ rest) = (node.find? path).bind fun found => found.find? rest := by
  induction path generalizing node with
  | nil => simp [find?]
  | cons segment path ih =>
      rw [List.cons_append, find?, find?]
      cases node.children.find? (·.segment = segment) with
      | none => rfl
      | some child => exact ih child

theorem find?_cons_segment {node child : HashNode} (distinct : node.DistinctChildren)
    (isChild : child ∈ node.children) (rest : PackagePath) :
    node.find? (child.segment :: rest) = child.find? rest := by
  rw [find?, find?_child distinct isChild]

theorem mem_walk_iff_find? {node found : HashNode} (distinct : node.Every DistinctChildren)
    (start path : PackagePath) :
    (path, found) ∈ node.walk start ↔
      ∃ rest, path = start ++ rest ∧ node.find? rest = some found := by
  induction node generalizing start with
  | node segment nodeHash subtreeHash classHashes classCount children ih =>
      rw [mem_walk_iff]
      constructor
      · intro member
        cases member with
        | inl here =>
            obtain ⟨atStart, isRoot⟩ := Prod.mk.inj here
            exact ⟨[], by simp [atStart], by simp [find?, isRoot]⟩
        | inr below =>
            obtain ⟨child, isChild, inChild⟩ := below
            obtain ⟨rest, isPath, present⟩ :=
              (ih child isChild (distinct.within child isChild) _).1 inChild
            refine ⟨child.segment :: rest, by simp [isPath], ?_⟩
            rw [find?_cons_segment distinct.here isChild]
            exact present
      · intro present
        obtain ⟨rest, isPath, present⟩ := present
        cases rest with
        | nil =>
            rw [find?, Option.some.injEq] at present
            simp [isPath, present]
        | cons first rest =>
            rw [find?] at present
            split at present
            · rename_i child isFound
              have isChild := List.mem_of_find?_eq_some isFound
              have named : child.segment = first := by
                simpa using List.find?_some isFound
              right
              refine ⟨child, isChild, ?_⟩
              apply (ih child isChild (distinct.within child isChild) _).2
              exact ⟨rest, by simp [isPath, named], present⟩
            · cases present

end HashNode

namespace HashTree

theorem below?_eq_some_iff (start path rest : PackagePath) :
    below? start path = some rest ↔ path = start ++ rest := by
  induction start generalizing path with
  | nil => simp [below?, eq_comm]
  | cons expected start ih =>
      cases path with
      | nil => simp [below?]
      | cons segment path =>
          by_cases same : expected = segment
          · simp [below?, same, ih]
          · simp [below?, same, Ne.symm same]

theorem find?_eq_some_iff {tree : HashTree} (distinct : tree.root.Every HashNode.DistinctChildren)
    (path : PackagePath) (node : HashNode) :
    tree.find? path = some node ↔ (path, node) ∈ tree.nodes := by
  rw [nodes, HashNode.mem_walk_iff_find? distinct, find?]
  simp only [← below?_eq_some_iff]
  cases below? tree.rootPath path with
  | none => simp
  | some rest => simp

/-- The nodes with their absolute paths: the root stands at the path of the tree, and a child
at the path of its parent and its own segment. -/
inductive NodeAt (tree : HashTree) : PackagePath → HashNode → Prop
  | root : tree.NodeAt tree.rootPath tree.root
  | child {path : PackagePath} {parent inner : HashNode} (atParent : tree.NodeAt path parent)
      (isChild : inner ∈ parent.children) : tree.NodeAt (path ++ [inner.segment]) inner

theorem NodeAt.of_mem_walk {tree : HashTree} {path : PackagePath} {node : HashNode}
    (atNode : tree.NodeAt path node) {entry : PackagePath × HashNode}
    (member : entry ∈ node.walk path) : tree.NodeAt entry.1 entry.2 := by
  induction node generalizing path with
  | node segment nodeHash subtreeHash classHashes classCount children ih =>
      cases HashNode.mem_walk_iff.1 member with
      | inl here =>
          rw [here]
          exact atNode
      | inr below =>
          obtain ⟨child, isChild, inChild⟩ := below
          exact ih child isChild (.child atNode isChild) inChild

theorem node_at_iff_mem_nodes (tree : HashTree) (path : PackagePath) (node : HashNode) :
    tree.NodeAt path node ↔ (path, node) ∈ tree.nodes := by
  constructor
  · intro atNode
    induction atNode with
    | root => exact HashNode.mem_walk_self _ _
    | @child path parent inner _ isChild inWalk =>
        apply HashNode.mem_walk_trans inWalk
        exact HashNode.mem_walk_iff.2 (.inr ⟨inner, isChild, HashNode.mem_walk_self _ _⟩)
  · intro inWalk
    exact NodeAt.root.of_mem_walk inWalk

section Made

variable {packages : PackageTree} {options : HashOptions} {root : PackagePath}
  {hashed : HashTree}

theorem ordered_children_root (wellFormed : packages.root.WellFormed)
    (made : packages.hashTreeAt options root = .ok hashed) :
    hashed.root.Every HashNode.OrderedChildren := by
  obtain ⟨package, present, rfl⟩ := (hash_tree_at_eq_ok_iff packages options root).1 made
  exact HashNode.ordered_children_of_package options
    (PackageNode.well_formed_of_find? wellFormed present)

theorem distinct_children_root (wellFormed : packages.root.WellFormed)
    (made : packages.hashTreeAt options root = .ok hashed) :
    hashed.root.Every HashNode.DistinctChildren :=
  (ordered_children_root wellFormed made).imp fun _ ordered => ordered.distinct

theorem rising_nodes (wellFormed : packages.root.WellFormed)
    (made : packages.hashTreeAt options root = .ok hashed) :
    hashed.nodes.Pairwise fun a b => a.1 < b.1 := by
  obtain ⟨package, present, rfl⟩ := (hash_tree_at_eq_ok_iff packages options root).1 made
  have packageFormed := PackageNode.well_formed_of_find? wellFormed present
  exact List.pairwise_map.1 (HashNode.rising_of_package options packageFormed root)

end Made

end HashTree

namespace PackageTree

variable {classes : List ClassDescriptor} {tree : PackageTree} (options : HashOptions)

theorem hash_tree_at_eq_error_iff (tree : PackageTree) (path : PackagePath)
    (absent : AbsentPackage) :
    tree.hashTreeAt options path = .error absent ↔ tree.find? path = none ∧ absent = ⟨path⟩ := by
  rw [hashTreeAt]
  cases tree.find? path with
  | none => simp [eq_comm]
  | some package => simp

theorem mem_nodes_whole_hash_tree_iff (wellFormed : tree.root.WellFormed) {path : PackagePath}
    {package : PackageNode} (present : tree.find? path = some package) (node : HashNode) :
    (path, node) ∈ (tree.wholeHashTree options).nodes ↔
      node = HashNode.ofPackage options package ∧ (0 < node.classCount ∨ path = []) := by
  have atPath : ∀ inner, (path, inner) ∈ tree.root.walk [] ↔ inner = package := by
    intro inner
    have found : tree.root.find? path = some package := present
    simp [PackageNode.mem_walk_iff wellFormed, found, eq_comm]
  have atRoot : path = [] → package = tree.root := by
    intro empty
    rw [empty] at present
    exact (Option.some.inj present).symm
  have nodes : (tree.wholeHashTree options).nodes =
      (HashNode.ofPackage options tree.root).walk [] := rfl
  rw [nodes, HashNode.mem_walk_of_package_iff]
  constructor
  · intro member
    cases member with
    | inl here =>
        obtain ⟨empty, isRoot⟩ := Prod.mk.inj here
        exact ⟨by rw [isRoot, atRoot empty], .inr empty⟩
    | inr below =>
        obtain ⟨⟨place, inner⟩, isPackage, counted, same⟩ := below
        obtain ⟨rfl, rfl⟩ := Prod.mk.inj same
        rw [(atPath inner).1 isPackage] at counted ⊢
        exact ⟨rfl, .inl (of_decide_eq_true counted)⟩
  · intro kept
    obtain ⟨rfl, counted⟩ := kept
    cases counted with
    | inl counted =>
        right
        exact ⟨(path, package), (atPath package).2 rfl, decide_eq_true counted, rfl⟩
    | inr empty =>
        left
        rw [atRoot empty, empty]

theorem find?_whole_hash_tree (wellFormed : tree.root.WellFormed) {path : PackagePath}
    {package : PackageNode} (present : tree.find? path = some package) :
    (tree.wholeHashTree options).find? path =
      if 0 < (HashNode.ofPackage options package).classCount ∨ path = [] then
        some (HashNode.ofPackage options package)
      else none := by
  have distinct := HashNode.distinct_children_of_package options wellFormed
  ext node
  rw [HashTree.find?_eq_some_iff distinct, mem_nodes_whole_hash_tree_iff options wellFormed present]
  split
  · rename_i kept
    constructor
    · intro member
      exact congrArg some member.1.symm
    · intro same
      cases same
      exact ⟨rfl, kept⟩
  · rename_i dropped
    constructor
    · intro member
      obtain ⟨rfl, counted⟩ := member
      exact absurd counted dropped
    · intro same
      cases same

/-- Look-ups before and after hashing, in a package tree and in the hash trees of its packages. -/
structure LooksUpAlike (tree : PackageTree) (options : HashOptions) : Prop where
  /-- Hashing fails exactly at the paths without a package, and names the path. -/
  error_iff : ∀ path absent, tree.hashTreeAt options path = .error absent ↔
    tree.find? path = none ∧ absent = ⟨path⟩
  /-- A package that counts, and the root in any case, is found in the hash tree of everything
  as it is hashed on its own; any other is not found. -/
  whole : ∀ path hashed, tree.hashTreeAt options path = .ok hashed →
    ∃ all, tree.hashTreeAt options [] = .ok all ∧
      all.find? path = if 0 < hashed.classCount ∨ path = [] then some hashed.root else none
  /-- A look-up finds exactly what is met on the way with a stack. -/
  find?_iff : ∀ root hashed, tree.hashTreeAt options root = .ok hashed → ∀ path node,
    hashed.find? path = some node ↔
      (path, node) ∈ HashNode.unstack [(hashed.rootPath, hashed.root)]

theorem hash_tree_at_looks_up_alike (made : ofClasses classes = .ok tree) :
    tree.LooksUpAlike options := by
  have wellFormed := well_formed_of_of_classes made
  constructor
  case error_iff => exact hash_tree_at_eq_error_iff options tree
  case whole =>
    intro path hashed atPath
    obtain ⟨package, present, rfl⟩ := (HashTree.hash_tree_at_eq_ok_iff tree options path).1 atPath
    exact ⟨tree.wholeHashTree options, rfl, find?_whole_hash_tree options wellFormed present⟩
  case find?_iff =>
    intro root hashed atRoot path node
    obtain ⟨package, present, rfl⟩ := (HashTree.hash_tree_at_eq_ok_iff tree options root).1 atRoot
    have packageFormed := PackageNode.well_formed_of_find? wellFormed present
    have distinct := HashNode.distinct_children_of_package options packageFormed
    rw [HashTree.find?_eq_some_iff distinct, HashNode.unstack_eq, List.flatMap_singleton]
    rfl

theorem hash_tree_at_looks_up_alike_layered :
    ∃ tree, ofClasses layeredClasses = .ok tree ∧ tree.LooksUpAlike ⟨true, true⟩ := by
  have made : ∃ tree, ofClasses layeredClasses = .ok tree := ⟨_, rfl⟩
  obtain ⟨tree, made⟩ := made
  exact ⟨tree, made, hash_tree_at_looks_up_alike ⟨true, true⟩ made⟩

/-- Of two packages below `com.app` the one with nothing but inner classes is left out. -/
example : ((ofClasses layeredClasses).toOption.map fun tree =>
      [["com", "app", "ui"], ["com", "app", "gen"], ["com", "boot"]].map fun path =>
        ((tree.find? path).isSome, ((tree.wholeHashTree ⟨true, true⟩).find? path).isSome)) =
    some [(true, true), (true, false), (false, false)] := rfl

end PackageTree

end LibraryDetection

import LibraryDetection.Proofs.Collection.Bag
import LibraryDetection.Proofs.Matching.Anchor
import LibraryDetection.Proofs.Matching.Index
import Mathlib.Data.Set.Card

/-!
# Tables of query indexes

The tables of an index against the hash tree they were made of.  A subtree hash is a key when
some node has it, and leads to the first place of such a node; under a depth stand the nodes
that count a class, in the order of their paths.  One walk with a stack fills both tables, and
what they hold after some of the nodes is told by one invariant that every node keeps.
-/

namespace LibraryDetection

set_option autoImplicit false

section Keys

variable {α β : Type} [DecidableEq α]

def keepFirst (entries : List (α × β)) (key : α) (value : β) : List (α × β) :=
  if key ∈ entries.map Prod.fst then entries else entries ++ [(key, value)]

def putUnder (key : α) (item : β) : List (α × List β) → List (α × List β)
  | [] => [(key, [item])]
  | (here, items) :: rest =>
      if here = key then (here, items ++ [item]) :: rest
      else (here, items) :: putUnder key item rest

theorem keep_first_first_entries (entries : List (α × β)) (key : α) (value : β) :
    keepFirst (firstEntries entries) key value = firstEntries (entries ++ [(key, value)]) := by
  simp only [keepFirst, mem_keys_first_entries, first_entries_concat]

theorem lookup_put_under (key other : α) (item : β) (groups : List (α × List β)) :
    (putUnder key item groups).lookup other =
      if other = key then some ((groups.lookup key).getD [] ++ [item])
      else groups.lookup other := by
  induction groups with
  | nil =>
      rw [putUnder, List.lookup_cons]
      by_cases same : other = key
      · simp [same]
      · rw [beq_false_of_ne same, if_neg same]
  | cons group rest ih =>
      obtain ⟨here, items⟩ := group
      rw [putUnder]
      by_cases same : other = key
      · subst same
        by_cases atHere : here = other
        · simp [atHere]
        · have missed : (other == here) = false := beq_false_of_ne (Ne.symm atHere)
          rw [if_neg atHere, List.lookup_cons, List.lookup_cons, missed, ih]
      · rw [if_neg same] at ih ⊢
        by_cases atHere : here = key
        · have missed : (other == here) = false := beq_false_of_ne (atHere ▸ same)
          rw [if_pos atHere, List.lookup_cons, List.lookup_cons, missed]
        · rw [if_neg atHere, List.lookup_cons, List.lookup_cons, ih]

end Keys

namespace QueryIndex

/-- What a walk fills: the places of subtree hashes, and the nodes by the lengths of their
paths. -/
structure Tables where
  places : List (String × PackagePath)
  layers : List (Nat × List (PackagePath × HashNode))

namespace Tables

def enter (tables : Tables) (entry : PackagePath × HashNode) : Tables where
  places := keepFirst tables.places entry.2.subtreeHash entry.1
  layers :=
    if entry.2.classCount ≠ 0 then putUnder entry.1.length entry tables.layers
    else tables.layers

def ofWalk (tree : HashTree) : Tables :=
  (HashNode.unstack [(tree.rootPath, tree.root)]).foldl enter ⟨[], []⟩

def layer (nodes : List (PackagePath × HashNode)) (depth : Nat) : List (PackagePath × HashNode) :=
  (nodes.filter fun entry => entry.2.classCount ≠ 0).filter fun entry => entry.1.length = depth

structure Filled (tables : Tables) (met : List (PackagePath × HashNode)) : Prop where
  places : tables.places = firstEntries (met.map fun entry => (entry.2.subtreeHash, entry.1))
  layers : ∀ depth, (tables.layers.lookup depth).getD [] = layer met depth
  /-- A depth is a key only once a node stands under it. -/
  nonempty : ∀ depth, tables.layers.lookup depth ≠ some []

variable {tables : Tables} {met : List (PackagePath × HashNode)}

theorem filled_nil : Filled ⟨[], []⟩ [] where
  places := rfl
  layers _ := rfl
  nonempty := by simp

theorem Filled.enter (filled : tables.Filled met) (entry : PackagePath × HashNode) :
    (tables.enter entry).Filled (met ++ [entry]) := by
  constructor
  case places =>
    rw [Tables.enter, filled.places, keep_first_first_entries, List.map_append]
    rfl
  case layers =>
    intro depth
    have before := filled.layers depth
    by_cases counted : entry.2.classCount = 0
    · simp [Tables.enter, layer, counted, before]
    · -- The node comes last under its own depth, and no other depth changes.
      by_cases here : depth = entry.1.length
      · subst here
        simp [Tables.enter, layer, counted, lookup_put_under, before]
      · simp [Tables.enter, layer, counted, lookup_put_under, here, Ne.symm here, before]
  case nonempty =>
    intro depth
    have before := filled.nonempty depth
    simp only [Tables.enter]
    split
    · rw [lookup_put_under]
      split
      · simp
      · exact before
    · exact before

theorem Filled.foldl (filled : tables.Filled met) (entries : List (PackagePath × HashNode)) :
    (entries.foldl Tables.enter tables).Filled (met ++ entries) := by
  induction entries generalizing met tables with
  | nil =>
      rw [List.append_nil]
      exact filled
  | cons entry rest ih =>
      have later := ih (filled.enter entry)
      rw [List.append_assoc] at later
      exact later

theorem filled_of_walk (tree : HashTree) : (ofWalk tree).Filled tree.nodes := by
  rw [ofWalk, HashNode.unstack_root]
  exact filled_nil.foldl tree.nodes

end Tables

end QueryIndex

namespace HashTree

def placesOf (tree : HashTree) (hash : String) : Set PackagePath :=
  {path | ∃ node, tree.NodeAt path node ∧ node.subtreeHash = hash}

def occupiedPlaces (tree : HashTree) : Set PackagePath :=
  {path | ∃ node, tree.NodeAt path node ∧ node.classHashes ≠ []}

variable {tree : HashTree}

theorem mem_places_of_iff {hash : String} {path : PackagePath} :
    path ∈ tree.placesOf hash ↔
      (hash, path) ∈ tree.nodes.map fun entry => (entry.2.subtreeHash, entry.1) := by
  rw [List.mem_map]
  constructor
  · intro isPlace
    obtain ⟨node, atPath, rfl⟩ := isPlace
    exact ⟨(path, node), (tree.node_at_iff_mem_nodes path node).1 atPath, rfl⟩
  · intro isPlace
    obtain ⟨⟨place, node⟩, inWalk, same⟩ := isPlace
    obtain ⟨rfl, rfl⟩ := Prod.mk.inj same
    exact ⟨node, (tree.node_at_iff_mem_nodes _ node).2 inWalk, rfl⟩

theorem length_node_hash_bag (rising : tree.nodes.Pairwise fun a b => a.1 < b.1) :
    tree.nodeHashBag.length = tree.occupiedPlaces.ncard := by
  let entries := tree.nodes.filter fun entry => !entry.2.classHashes.isEmpty
  have once : (entries.map (·.1)).Nodup := List.pairwise_map.2 ((rising.filter _).imp ne_of_lt)
  have places : tree.occupiedPlaces = (entries.map (·.1)).toFinset := by
    ext path
    simp [occupiedPlaces, entries, node_at_iff_mem_nodes]
  rw [places, Set.ncard_coe_finset, List.toFinset_card_of_nodup once, List.length_map,
    nodeHashBag, List.length_map, occupied, List.filter_map, List.length_map]
  rfl

end HashTree

namespace QueryIndex

structure Faithful (index : QueryIndex) (tree : HashTree) : Prop where
  keysOnce : (index.subtreePaths.map Prod.fst).Nodup
  mem_keys_iff : ∀ hash, hash ∈ index.subtreePaths.map Prod.fst ↔ (tree.placesOf hash).Nonempty
  /-- A hash leads to the least path of the nodes that have it. -/
  least : ∀ hash path, (hash, path) ∈ index.subtreePaths →
    index.subtreePath? hash = some path ∧ IsLeast (tree.placesOf hash) path
  found : ∀ hash path, (hash, path) ∈ index.subtreePaths →
    ∃ node, tree.find? path = some node ∧ node.subtreeHash = hash
  /-- The nodes at a depth rise by their paths, so that none is there twice. -/
  rising : ∀ depth, ((index.atDepth depth).map Prod.fst).Pairwise (· < ·)
  mem_at_depth_iff : ∀ depth path node, (path, node) ∈ index.atDepth depth ↔
    tree.NodeAt path node ∧ 0 < node.classCount ∧ path.length = depth
  mem_depths_iff : ∀ depth, depth ∈ index.depths ↔
    ∃ path node, tree.NodeAt path node ∧ 0 < node.classCount ∧ path.length = depth
  nodeTotal : ((Bag.counts index.nodeBag).map Prod.snd).sum = tree.occupiedPlaces.ncard
  classTotal : (((Bag.counts index.classBag).map Prod.snd).sum : Int) = tree.classCount
  /-- The tables are those that one walk over the nodes with a stack fills. -/
  places : (Tables.ofWalk tree).places = index.subtreePaths
  layers : ∀ depth, (Tables.ofWalk tree).layers.lookup depth =
    if depth ∈ index.depths then some (index.atDepth depth) else none

theorem mem_depths_iff_at_depth (index : QueryIndex) (depth : Nat) :
    depth ∈ index.depths ↔ index.atDepth depth ≠ [] := by
  rw [depths, mem_sort_by, mem_distinct, atDepth, List.mem_map, ne_eq, List.filter_eq_nil_iff]
  simp

variable {tree : HashTree}

theorem mem_keys_subtree_paths (tree : HashTree) (hash : String) :
    hash ∈ (ofTree tree).subtreePaths.map Prod.fst ↔ (tree.placesOf hash).Nonempty := by
  rw [ofTree, mem_keys_first_entries]
  constructor
  · intro isKey
    obtain ⟨⟨key, path⟩, isEntry, rfl⟩ := List.mem_map.1 isKey
    exact ⟨path, HashTree.mem_places_of_iff.2 isEntry⟩
  · intro some
    obtain ⟨path, isPlace⟩ := some
    exact List.mem_map_of_mem (f := Prod.fst) (HashTree.mem_places_of_iff.1 isPlace)

theorem subtree_path?_of_mem_subtree_paths {hash : String} {path : PackagePath}
    (listed : (hash, path) ∈ (ofTree tree).subtreePaths) :
    (ofTree tree).subtreePath? hash = some path := by
  rw [subtreePath?, ofTree, lookup_first_entries]
  exact lookup_of_mem_first_entries listed

theorem is_least_of_subtree_path? (rising : tree.nodes.Pairwise fun a b => a.1 < b.1)
    {hash : String} {path : PackagePath} (found : (ofTree tree).subtreePath? hash = some path) :
    IsLeast (tree.placesOf hash) path := by
  rw [subtreePath?, ofTree, lookup_first_entries] at found
  have least := is_least_of_lookup (List.pairwise_map.2 rising) found
  have places : tree.placesOf hash = {other | (hash, other) ∈
      tree.nodes.map fun entry => (entry.2.subtreeHash, entry.1)} := by
    ext other
    exact HashTree.mem_places_of_iff
  rw [places]
  exact least

theorem lookup_layers_of_walk (tree : HashTree) (depth : Nat) :
    (Tables.ofWalk tree).layers.lookup depth =
      if depth ∈ (ofTree tree).depths then some ((ofTree tree).atDepth depth) else none := by
  have filled := Tables.filled_of_walk tree
  have held : ((Tables.ofWalk tree).layers.lookup depth).getD [] = (ofTree tree).atDepth depth :=
    filled.layers depth
  have nonempty := filled.nonempty depth
  simp only [mem_depths_iff_at_depth, ← held]
  cases found : (Tables.ofWalk tree).layers.lookup depth with
  | none => simp
  | some nodes =>
      rw [found] at nonempty
      have some : nodes ≠ [] := fun empty => nonempty (by rw [empty])
      simp [some]

theorem mem_at_depth_of_tree (built : tree.Built) (depth : Nat) (path : PackagePath)
    (node : HashNode) :
    (path, node) ∈ (ofTree tree).atDepth depth ↔
      tree.NodeAt path node ∧ 0 < node.classCount ∧ path.length = depth := by
  rw [HashTree.at_depth_of_tree built, HashTree.countedAt, List.mem_filter,
    HashTree.node_at_iff_mem_nodes, decide_eq_true_eq]

variable {packages : PackageTree} {options : HashOptions} {root : PackagePath}

/-- The index of a hash tree is faithful to it, whatever package the tree is rooted at.  Every
package tree that is grown from classes is well-formed. -/
theorem faithful_of_tree (wellFormed : packages.root.WellFormed)
    (made : packages.hashTreeAt options root = .ok tree) : (ofTree tree).Faithful tree := by
  have built : tree.Built := ⟨packages, options, root, made⟩
  have rising := HashTree.rising_nodes wellFormed made
  have inLayer := mem_at_depth_of_tree built
  have least : ∀ hash path, (hash, path) ∈ (ofTree tree).subtreePaths →
      (ofTree tree).subtreePath? hash = some path ∧ IsLeast (tree.placesOf hash) path := by
    intro hash path listed
    have found := subtree_path?_of_mem_subtree_paths listed
    exact ⟨found, is_least_of_subtree_path? rising found⟩
  constructor
  case keysOnce => exact nodup_keys_first_entries _
  case mem_keys_iff => exact mem_keys_subtree_paths tree
  case least => exact least
  case found =>
    intro hash path listed
    obtain ⟨node, atPath, isHash⟩ := (least hash path listed).2.1
    have distinct := HashTree.distinct_children_root wellFormed made
    have inWalk := (tree.node_at_iff_mem_nodes path node).1 atPath
    exact ⟨node, (HashTree.find?_eq_some_iff distinct path node).2 inWalk, isHash⟩
  case rising =>
    intro depth
    exact List.pairwise_map.2 ((HashTree.rising_counted wellFormed made).filter _)
  case mem_at_depth_iff => exact inLayer
  case mem_depths_iff =>
    intro depth
    rw [mem_depths_iff_at_depth, ← List.length_pos_iff, List.length_pos_iff_exists_mem]
    simp only [Prod.exists, inLayer]
  case nodeTotal =>
    rw [Bag.sum_counts]
    exact HashTree.length_node_hash_bag rising
  case classTotal =>
    rw [Bag.sum_counts]
    exact built.class_count_eq_length.symm
  case places => exact (Tables.filled_of_walk tree).places
  case layers => exact lookup_layers_of_walk tree

def codecTwice : PackageNode :=
  ⟨"com", [], [⟨"a", [], [⟨"c", codecIn [["com", "a", "c"]], []⟩]⟩,
    ⟨"b", codecIn [["com", "b"]], []⟩]⟩

def codecTwiceHashed : HashTree := ⟨["com"], HashNode.ofPackage {} codecTwice, {}⟩

theorem faithful_codec_twice :
    (PackageNode.mk "" [] [codecTwice]).WellFormed ∧
      PackageTree.hashTreeAt ⟨⟨"", [], [codecTwice]⟩⟩ {} ["com"] = .ok codecTwiceHashed ∧
        (ofTree codecTwiceHashed).Faithful codecTwiceHashed := by
  have grown : PackageTree.ofClasses (codecIn [["com", "b"], ["com", "a", "c"]]) =
      .ok ⟨⟨"", [], [codecTwice]⟩⟩ := rfl
  have wellFormed := PackageTree.well_formed_of_of_classes grown
  have made : PackageTree.hashTreeAt ⟨⟨"", [], [codecTwice]⟩⟩ {} ["com"] =
      .ok codecTwiceHashed := rfl
  exact ⟨wellFormed, made, faithful_of_tree wellFormed made⟩

/-- The hash of the class's package leads to the longer path, which comes first. -/
example :
    (ofTree codecTwiceHashed).subtreePaths.map Prod.snd =
        [["com"], ["com", "a"], ["com", "a", "c"]] ∧
      ((ofTree codecTwiceHashed).atDepth 2).map Prod.fst = [["com", "a"], ["com", "b"]] := by
  decide +kernel

end QueryIndex

end LibraryDetection

import LibraryDetection.Proofs.Matching.Exact

/-!
# Exact verdicts and evidence

An exact verdict asks for a place for each hash tree and lets several trees stand at one
place; the evidence without paths takes each package of the application once.  The two
agree as long as the application holds the packages of all trees together, which it does
when the trees stand apart from each other.
-/

namespace LibraryDetection

set_option autoImplicit false

open LibraryDetection.Digest

def occupiedAmong (entries : List (PackagePath × HashNode)) : List HashNode :=
  (entries.map (·.2)).filter fun node => !node.classHashes.isEmpty

theorem occupied_among_append (front back : List (PackagePath × HashNode)) :
    occupiedAmong (front ++ back) = occupiedAmong front ++ occupiedAmong back := by
  simp only [occupiedAmong, List.map_append, List.filter_append]

theorem package_bag_le_of_subperm {part whole : List (PackagePath × HashNode)}
    (held : part.Subperm whole) :
    packageBag (occupiedAmong part) ≤ packageBag (occupiedAmong whole) := by
  obtain ⟨middle, same, inside⟩ := held
  have reordered : (occupiedAmong middle).Perm (occupiedAmong part) := (same.map _).filter _
  rw [← package_bag_perm reordered]
  have kept : (occupiedAmong middle).Sublist (occupiedAmong whole) := (inside.map _).filter _
  exact Multiset.coe_le.2 (kept.map _).subperm

theorem package_bag_flatMap {α : Type} (entries : α → List (PackagePath × HashNode))
    (items : List α) :
    packageBag (occupiedAmong (items.flatMap entries)) =
      (items.map fun item => packageBag (occupiedAmong (entries item))).sum := by
  rw [packageBag, occupiedAmong, List.map_flatMap, List.filter_flatMap, List.map_flatMap,
    coe_flatMap]
  rfl

namespace HashNode

def packagesBelow (node : HashNode) : Multiset String := packageBag (occupiedAmong (node.walk []))

theorem package_bag_walk (path : PackagePath) (node : HashNode) :
    packageBag (occupiedAmong (node.walk path)) =
      packageBag (occupiedAmong [([], node)]) +
        (node.children.map fun child =>
          packageBag (occupiedAmong (child.walk (path ++ [child.segment])))).sum := by
  rw [walk_eq, ← package_bag_flatMap, ← package_bag_append, ← occupied_among_append]
  rfl

theorem package_bag_walk_eq (path other : PackagePath) (node : HashNode) :
    packageBag (occupiedAmong (node.walk path)) = packageBag (occupiedAmong (node.walk other)) := by
  rw [occupiedAmong, occupiedAmong, map_snd_walk_eq path other]

theorem packages_below_eq (node : HashNode) :
    node.packagesBelow = packageBag (occupiedAmong [([], node)]) +
      (node.children.map packagesBelow).sum := by
  have below : (node.children.map fun child =>
        packageBag (occupiedAmong (child.walk ([] ++ [child.segment])))) =
      node.children.map packagesBelow := by
    apply List.map_congr_left
    intro child _
    exact package_bag_walk_eq _ _ child
  rw [packagesBelow, package_bag_walk, below]

theorem package_bag_own_eq {left right : HashNode}
    (classes : left.classHashes.Perm right.classHashes)
    (sameHash : left.nodeHash = right.nodeHash) :
    packageBag (occupiedAmong [([], left)]) = packageBag (occupiedAmong [([], right)]) := by
  simp only [occupiedAmong, List.map_cons, List.map_nil, List.filter_cons, List.filter_nil,
    classes.isEmpty_eq]
  split
  · simp only [packageBag, List.map_cons, List.map_nil, sameHash]
  · rfl

theorem Isomorphic.packages_below_eq {left right : HashNode} (isomorphic : left.Isomorphic right)
    (leftHashed : left.Hashed) (rightHashed : right.Hashed) :
    left.packagesBelow = right.packagesBelow := by
  induction left generalizing right with
  | node segment nodeHash subtreeHash classHashes classCount children ih =>
      have sameHash := (isomorphic.hashes_eq leftHashed rightHashed).1
      cases isomorphic with
      | @node _ _ partners classes order pairs =>
          have below :
              (children.map packagesBelow).sum = (right.children.map packagesBelow).sum := by
            refine (map_perm_of_pairs order pairs ?_).sum_eq
            intro child isChild partner inRight alike
            exact ih child isChild alike (leftHashed.within child isChild)
              (rightHashed.within partner inRight)
          rw [HashNode.packages_below_eq, HashNode.packages_below_eq right, below,
            package_bag_own_eq classes sameHash]

end HashNode

/-- Each tree has a place in the query, and no place is at or below another one. -/
structure FoundApart (trees : List HashTree) (query : HashTree)
    (places : List (PackagePath × HashNode)) : Prop where
  hashes : List.Forall₂ (fun tree entry => entry.2.subtreeHash = tree.subtreeHash) trees places
  inQuery : ∀ entry ∈ places, entry ∈ query.nodes
  apart : places.Pairwise fun a b => PackagePath.Apart a.1 b.1

namespace HashTree

variable {query : HashTree} {places : List (PackagePath × HashNode)}

theorem package_bag_occupied (tree : HashTree) :
    (tree.nodeHashBag : Multiset String) = tree.root.packagesBelow :=
  HashNode.package_bag_walk_eq tree.rootPath [] tree.root

theorem package_bags_eq (trees : List HashTree) :
    packageBags trees = (trees.map fun tree => tree.root.packagesBelow).sum := by
  rw [packageBags]
  congr 1
  apply List.map_congr_left
  intro tree _
  exact package_bag_occupied tree

theorem sum_packages_below_le (distinct : query.root.Every HashNode.DistinctChildren)
    (inQuery : ∀ entry ∈ places, entry ∈ query.nodes)
    (apart : places.Pairwise fun a b => PackagePath.Apart a.1 b.1) :
    (places.map fun entry => entry.2.packagesBelow).sum ≤
      (query.nodeHashBag : Multiset String) := by
  have eachNodup : ∀ entry ∈ places, ((entry.2.walk entry.1).map (·.1)).Nodup := by
    intro entry member
    exact HashNode.nodup_walk (distinct.of_mem_walk (inQuery entry member)) entry.1
  have nodup := List.Nodup.of_map _ (HashNode.nodup_flatMap_walk eachNodup apart)
  have contained : (places.flatMap fun entry => entry.2.walk entry.1) ⊆ query.nodes := by
    intro inner member
    obtain ⟨entry, isPlace, below⟩ := List.mem_flatMap.1 member
    exact HashNode.mem_walk_trans (inQuery entry isPlace) below
  have bags : (places.map fun entry => entry.2.packagesBelow) =
      places.map fun entry => packageBag (occupiedAmong (entry.2.walk entry.1)) := by
    apply List.map_congr_left
    intro entry _
    exact HashNode.package_bag_walk_eq _ _ entry.2
  rw [bags, ← package_bag_flatMap]
  exact package_bag_le_of_subperm (nodup.subperm contained)

/-- Packages of trees that were made of texts without collisions have different hashes, or the
same classes. -/
theorem distinguished_of_made_of {texts : List String} {trees : List HashTree}
    (free : CollisionFree texts) (treesMade : ∀ tree ∈ trees, tree.root.MadeOf texts)
    (queryMade : query.root.MadeOf texts) :
    Distinguished (trees.flatMap occupied) query.occupied := by
  intro node inTrees other inQuery sameHash
  obtain ⟨tree, isTree, member⟩ := List.mem_flatMap.1 inTrees
  obtain ⟨entry, inTree, rfl⟩ := exists_entry_of_mem_occupied member
  obtain ⟨partner, inNodes, rfl⟩ := exists_entry_of_mem_occupied inQuery
  have entryMade := (treesMade tree isTree).of_mem_walk inTree
  have partnerMade := queryMade.of_mem_walk inNodes
  exact ⟨sameHash,
    HashNode.class_hashes_perm_of_node_hash_eq free entryMade partnerMade sameHash⟩

theorem total_class_count_eq {trees : List HashTree} (built : ∀ tree ∈ trees, tree.Built) :
    total HashTree.classCount trees = (classBags trees).card := by
  rw [total_class_count_eq_length built, classBags, ← coe_flatMap, Multiset.coe_card]

theorem length_node_hash_bags_eq (trees : List HashTree) :
    (trees.flatMap nodeHashBag).length = (packageBags trees).card := by
  rw [packageBags, ← coe_flatMap, Multiset.coe_card]

end HashTree

namespace Fingerprint

/-- The evidence without paths finds every class and every package of the fingerprint, as an
exact verdict says of it. -/
def WhollyCounted (fingerprint : Fingerprint) (query : HashTree) : Prop :=
  ((looseEvidence fingerprint.hashTrees (QueryIndex.ofTree query)).1 : Int) =
      fingerprint.classCount ∧
    (looseEvidence fingerprint.hashTrees (QueryIndex.ofTree query)).2 = fingerprint.packageCount

variable {fingerprint : Fingerprint} {classes queryClasses : List ClassDescriptor}
  {options : HashOptions} {query : HashTree}

theorem distinguished_of_collision_free (profiled : fingerprint.ProfiledFrom classes options)
    (digests : ∀ descriptor ∈ classes, IsDigest descriptor.contentHash)
    (made : query.MadeFrom queryClasses options)
    (free : CollisionFree (fingerprint.jointMessages query)) :
    Distinguished (fingerprint.hashTrees.flatMap HashTree.occupied) query.occupied := by
  apply HashTree.distinguished_of_made_of free
  · intro tree isTree
    exact made_of_of_mem_hash_trees profiled digests isTree
  · exact made_of_query made

theorem loose_evidence_of_collision_free (profiled : fingerprint.ProfiledFrom classes options)
    (digests : ∀ descriptor ∈ classes, IsDigest descriptor.contentHash)
    (made : query.MadeFrom queryClasses options)
    (free : CollisionFree (fingerprint.jointMessages query)) :
    looseEvidence fingerprint.hashTrees (QueryIndex.ofTree query) =
      ((HashTree.classBags fingerprint.hashTrees ∩ query.classHashBag).card,
        (HashTree.packageBags fingerprint.hashTrees ∩ query.nodeHashBag).card) :=
  loose_evidence_of_distinguished (distinguished_of_collision_free profiled digests made free)

theorem wholly_counted_iff_le (built : ∀ tree ∈ fingerprint.hashTrees, tree.Built)
    (agree : Distinguished (fingerprint.hashTrees.flatMap HashTree.occupied) query.occupied) :
    fingerprint.WhollyCounted query ↔
      HashTree.packageBags fingerprint.hashTrees ≤ (query.nodeHashBag : Multiset String) := by
  have allClasses : fingerprint.classCount = (HashTree.classBags fingerprint.hashTrees).card :=
    HashTree.total_class_count_eq built
  have allPackages : fingerprint.packageCount = (HashTree.packageBags fingerprint.hashTrees).card :=
    HashTree.length_node_hash_bags_eq _
  rw [WhollyCounted, loose_evidence_of_distinguished agree, allClasses, allPackages]
  constructor
  · rintro ⟨_, packages⟩
    have whole := Multiset.eq_of_le_of_card_le Multiset.inter_le_left packages.ge
    rw [← whole]
    exact Multiset.inter_le_right
  · intro held
    have heldClasses : HashTree.classBags fingerprint.hashTrees ≤
        (query.classHashBag : Multiset String) := by
      rw [← HashTree.class_bag_flatMap_occupied, ← HashTree.class_bag_occupied]
      apply Tally.class_bag_le_of_package_bag_le agree
      rw [HashTree.package_bag_flatMap_occupied]
      exact held
    rw [← Multiset.inf_eq_inter, ← Multiset.inf_eq_inter, inf_eq_left.2 held,
      inf_eq_left.2 heldClasses]
    exact ⟨rfl, rfl⟩

theorem package_bags_le_of_found_apart (profiled : fingerprint.ProfiledFrom classes options)
    (digests : ∀ descriptor ∈ classes, IsDigest descriptor.contentHash)
    (made : query.MadeFrom queryClasses options)
    (free : CollisionFree (fingerprint.jointMessages query))
    {places : List (PackagePath × HashNode)}
    (placed : FoundApart fingerprint.hashTrees query places) :
    HashTree.packageBags fingerprint.hashTrees ≤ (query.nodeHashBag : Multiset String) := by
  have pairs : List.Forall₂
      (fun (tree : HashTree) (entry : PackagePath × HashNode) =>
        tree.root.packagesBelow = entry.2.packagesBelow) fingerprint.hashTrees places := by
    apply forall₂_imp_of_mem _ placed.hashes
    intro tree isTree entry isPlace same
    have inQuery := placed.inQuery entry isPlace
    have alike := subtree_hash_eq_iff_isomorphic profiled digests made free isTree inQuery
    exact (alike.1 same).packages_below_eq (profiled.built tree isTree).hashed_root
      (made.built.hashed_of_mem inQuery)
  rw [HashTree.package_bags_eq, map_eq_of_forall₂ pairs]
  exact HashTree.sum_packages_below_le made.distinct placed.inQuery placed.apart

theorem class_count_le_of_wholly_counted (queryBuilt : query.Built)
    (agree : Distinguished (fingerprint.hashTrees.flatMap HashTree.occupied) query.occupied)
    (whole : fingerprint.WhollyCounted query) : fingerprint.classCount ≤ query.classCount := by
  have found := congrArg Prod.fst (loose_evidence_of_distinguished agree)
  have part : HashTree.classBags fingerprint.hashTrees ∩ query.classHashBag ≤
      (query.classHashBag : Multiset String) := Multiset.inter_le_right
  have bound := Multiset.card_le_card part
  rw [Multiset.coe_card] at bound
  have counted := queryBuilt.class_count_eq_length
  have claimed := whole.1
  simp only at found
  omega

theorem found_apart_of_single {tree : HashTree} {paths : List PackagePath}
    (single : fingerprint.hashTrees = [tree])
    (found : exactPaths? (QueryIndex.ofTree query) fingerprint.hashTrees = some paths) :
    ∃ places, FoundApart fingerprint.hashTrees query places := by
  rw [single] at found ⊢
  obtain ⟨path, place⟩ :=
    (exists_exact_paths_iff _ _).1 ⟨paths, found⟩ tree List.mem_cons_self
  obtain ⟨entry, inQuery, _, same⟩ := QueryIndex.exists_node_of_subtree_path? place
  refine ⟨[entry], .cons same .nil, ?_, List.pairwise_singleton _ _⟩
  intro other member
  rw [List.mem_singleton.1 member]
  exact inQuery

/-- An exact verdict agrees with the evidence without paths exactly when the query holds the
packages of all trees together, as it does for trees that stand apart and for a single one;
then it claims no more classes than the query has. -/
theorem exact_agrees_iff_held (profiled : fingerprint.ProfiledFrom classes options)
    (digests : ∀ descriptor ∈ classes, IsDigest descriptor.contentHash)
    (made : query.MadeFrom queryClasses options)
    (free : CollisionFree (fingerprint.jointMessages query)) {settings : MatchSettings}
    {found : LibraryMatch}
    (result : fingerprint.match? (QueryIndex.ofTree query) settings = .ok (some found))
    (isExact : found.strategy = .exact) :
    (fingerprint.WhollyCounted query ↔
        HashTree.packageBags fingerprint.hashTrees ≤ (query.nodeHashBag : Multiset String)) ∧
      (fingerprint.WhollyCounted query → found.matchedClasses ≤ query.classCount) ∧
      ((∃ places, FoundApart fingerprint.hashTrees query places) →
        fingerprint.WhollyCounted query) ∧
      (fingerprint.hashTrees.length = 1 → fingerprint.WhollyCounted query) := by
  have agree := distinguished_of_collision_free profiled digests made free
  have held := wholly_counted_iff_le profiled.built agree
  obtain ⟨paths, places, rfl⟩ := exists_exact_paths_of_match? result isExact
  have fromPlaces : (∃ places, FoundApart fingerprint.hashTrees query places) →
      fingerprint.WhollyCounted query := by
    rintro ⟨places, placed⟩
    exact held.2 (package_bags_le_of_found_apart profiled digests made free placed)
  refine ⟨held, ?_, fromPlaces, ?_⟩
  · intro whole
    exact class_count_le_of_wholly_counted made.built agree whole
  · intro one
    obtain ⟨tree, single⟩ := List.length_eq_one_iff.1 one
    exact fromPlaces (found_apart_of_single single places)

def ofCodecPackages (segments : List String) : Fingerprint :=
  ⟨⟨"codec", "1", .unknown, none, none⟩, codecPackages segments,
    (codecPackages segments).hashTrees {}⟩

def oneCodec : HashTree := (codecPackages ["c"]).wholeHashTree {}

theorem one_codec_made_from : oneCodec.MadeFrom (codecIn [["c"]]) {} :=
  ⟨⟨codecPackages ["c"], [], rfl, rfl⟩, is_digest_of_mem_codec_in _⟩

def codecPair : HashTree := (codecPackages ["c", "d"]).wholeHashTree {}

theorem made_from_codec_pair : codecPair.MadeFrom (codecIn [["c"], ["d"]]) {} :=
  ⟨⟨codecPackages ["c", "d"], [], rfl, rfl⟩, is_digest_of_mem_codec_in _⟩

theorem profiled_from_of_codec_packages :
    (ofCodecPackages ["a", "b"]).ProfiledFrom (codecIn [["a"], ["b"]]) {} :=
  ⟨(ofCodecPackages ["a", "b"]).description, rfl⟩

theorem found_apart_codec_pair :
    FoundApart (ofCodecPackages ["a", "b"]).hashTrees codecPair
      (codecPair.nodes.filter fun entry => entry.1.length = 1) := by
  have paths : (codecPair.nodes.filter fun entry => entry.1.length = 1).map Prod.fst =
      [["c"], ["d"]] := by
    decide +kernel
  have apart : [["c"], ["d"]].Pairwise PackagePath.Apart := by
    unfold PackagePath.Apart
    decide
  rw [← paths] at apart
  exact ⟨.cons rfl (.cons rfl .nil), fun entry member => List.mem_of_mem_filter member,
    List.pairwise_map.1 apart⟩

theorem codec_pair_wholly_counted :
    (ofCodecPackages ["a", "b"]).hashTrees.length = 2 ∧
      (∃ places, FoundApart (ofCodecPackages ["a", "b"]).hashTrees codecPair places) ∧
      (ofCodecPackages ["a", "b"]).WhollyCounted codecPair := by
  have free : CollisionFree ((ofCodecPackages ["a", "b"]).jointMessages codecPair) := by
    decide +kernel
  have placed : ∀ tree ∈ (ofCodecPackages ["a", "b"]).hashTrees, ∃ entry ∈ codecPair.nodes,
      entry.2.subtreeHash = tree.subtreeHash := by
    intro tree member
    refine ⟨_, List.mem_cons_of_mem _ List.mem_cons_self, ?_⟩
    rcases List.mem_cons.1 member with rfl | last
    · rfl
    · cases List.mem_singleton.1 last
      rfl
  obtain ⟨found, result, isExact⟩ :=
    (match?_exact_iff profiled_from_of_codec_packages rfl {}).2 placed
  have agreement := exact_agrees_iff_held profiled_from_of_codec_packages
    (is_digest_of_mem_codec_in _) made_from_codec_pair free result isExact
  exact ⟨rfl, ⟨_, found_apart_codec_pair⟩, agreement.2.2.1 ⟨_, found_apart_codec_pair⟩⟩

/-- Two equal trees are both found at the only package of a query, which claims two classes
of one. -/
theorem exact_of_shared_place :
    (ofCodecPackages ["a", "b"]).ProfiledFrom (codecIn [["a"], ["b"]]) {} ∧
      oneCodec.MadeFrom (codecIn [["c"]]) {} ∧
      (∃ found, (ofCodecPackages ["a", "b"]).match? (QueryIndex.ofTree oneCodec) {} =
          .ok (some found) ∧ found.strategy = .exact ∧ found.matchedClasses = 2) ∧
      oneCodec.classCount = 1 ∧
      looseEvidence (ofCodecPackages ["a", "b"]).hashTrees (QueryIndex.ofTree oneCodec) =
        (1, 1) := by
  have profiled := profiled_from_of_codec_packages
  have placed : ∀ tree ∈ (ofCodecPackages ["a", "b"]).hashTrees, ∃ entry ∈ oneCodec.nodes,
      entry.2.subtreeHash = tree.subtreeHash := by
    intro tree member
    refine ⟨_, List.mem_cons_of_mem _ List.mem_cons_self, ?_⟩
    rcases List.mem_cons.1 member with rfl | last
    · rfl
    · cases List.mem_singleton.1 last
      rfl
  obtain ⟨found, result, isExact⟩ := (match?_exact_iff profiled rfl {}).2 placed
  obtain ⟨paths, _, same⟩ := exists_exact_paths_of_match? result isExact
  refine ⟨profiled, one_codec_made_from, ⟨found, result, isExact, ?_⟩, rfl, by decide +kernel⟩
  rw [same]
  rfl

end Fingerprint

end LibraryDetection

import LibraryDetection.Proofs.HashTree.Walk
import LibraryDetection.Proofs.Matching.Shortcuts

/-!
# Alignment and common classes

No class is aligned twice: each package takes part in one pair at most, so that what is
aligned of two packages is part of what they have in common at and below them.  A library
with a single tree is therefore never aligned in more classes than are found without paths,
and one that is aligned at all is found in some class.
-/

namespace LibraryDetection

set_option autoImplicit false

open LibraryDetection.Digest

theorem total_card_inter_le {α β : Type} (left : α → Multiset String) (right : β → Multiset String)
    (pairs : List (α × β)) :
    total (fun pair => ((left pair.1 ∩ right pair.2).card : Int)) pairs ≤
      (((pairs.map Prod.fst).map left).sum ∩ ((pairs.map Prod.snd).map right).sum).card := by
  induction pairs with
  | nil => simp [total]
  | cons pair pairs ih =>
      have joined := Bag.card_inter_add_card_inter_le (left pair.1) (right pair.2)
        ((pairs.map Prod.fst).map left).sum ((pairs.map Prod.snd).map right).sum
      simp only [total, List.map_cons, List.sum_cons]
      omega

theorem sum_map_le_of_perm_append {α : Type} (bag : α → Multiset String)
    {part rest whole : List α} (splits : (part ++ rest).Perm whole) :
    (part.map bag).sum ≤ (whole.map bag).sum := by
  have same := (splits.map bag).sum_eq
  rw [List.map_append, List.sum_append] at same
  rw [← same]
  exact Multiset.le_add_right _ _

namespace HashNode

def classesBelow (node : HashNode) : Multiset String :=
  ((node.walk []).flatMap fun entry => entry.2.classHashes : List String)

theorem classes_below_eq_walk (path : PackagePath) (node : HashNode) :
    node.classesBelow =
      ((node.walk path).flatMap fun entry => entry.2.classHashes : List String) := by
  have same := congrArg (List.flatMap HashNode.classHashes) (map_snd_walk_eq [] path node)
  rw [List.flatMap_map, List.flatMap_map] at same
  rw [classesBelow, same]

theorem classes_below_eq (node : HashNode) :
    node.classesBelow =
      (node.classHashes : Multiset String) + (node.children.map classesBelow).sum := by
  rw [classesBelow, walk_eq, List.flatMap_cons, List.flatMap_assoc, ← Multiset.coe_add, coe_flatMap]
  congr 2
  apply List.map_congr_left
  intro child _
  exact (classes_below_eq_walk _ child).symm

theorem Hashed.class_count_eq_card {node : HashNode} (hashed : node.Hashed) :
    node.classCount = node.classesBelow.card := by
  rw [hashed.class_count_eq_length [], classesBelow, Multiset.coe_card]

theorem total_pair_children_le (references queries : List HashNode) :
    total (fun pair => ((pair.1.classesBelow ∩ pair.2.classesBelow).card : Int))
        (pairChildren references queries) ≤
      ((references.map classesBelow).sum ∩ (queries.map classesBelow).sum).card := by
  obtain ⟨unpaired, free, splits⟩ := pairs_of_splits id references queries
  have paired := total_card_inter_le classesBelow classesBelow (pairChildren references queries)
  have referenceSide := sum_map_le_of_perm_append classesBelow splits.references
  have querySide := sum_map_le_of_perm_append classesBelow splits.queries
  have kept := Multiset.card_le_card (inf_le_inf referenceSide querySide)
  simp only [Multiset.inf_eq_inter, pairChildren] at kept paired ⊢
  omega

theorem align_fully_le_card_inter (reference query : HashNode) :
    reference.alignFully query ≤ (reference.classesBelow ∩ query.classesBelow).card := by
  induction reference generalizing query with
  | node segment nodeHash subtreeHash classHashes classCount children ih =>
      have each : total (fun pair => pair.1.alignFully pair.2)
            (pairChildren children query.children) ≤
          total (fun pair => ((pair.1.classesBelow ∩ pair.2.classesBelow).card : Int))
            (pairChildren children query.children) := by
        apply total_le_total
        intro pair member
        exact ih pair.1 (mem_of_mem_pair_children member).1 pair.2
      have below := total_pair_children_le children query.children
      -- The own classes and those below are taken from different parts of either bag.
      have joined := Bag.card_inter_add_card_inter_le (classHashes : Multiset String)
        query.classHashes (children.map classesBelow).sum (query.children.map classesBelow).sum
      rw [align_fully_eq, classes_below_eq, classes_below_eq query]
      simp only at joined ⊢
      omega

variable {texts : List String} {reference query : HashNode}

theorem MadeOf.align_le_card_inter (referenceMade : reference.MadeOf texts)
    (free : CollisionFree texts) (queryMade : query.MadeOf texts) :
    reference.align query ≤ (reference.classesBelow ∩ query.classesBelow).card := by
  rw [referenceMade.align_eq free queryMade]
  exact align_fully_le_card_inter reference query

end HashNode

namespace HashTree

variable {tree query : HashTree} {classes queryClasses : List ClassDescriptor}
  {options : HashOptions}

theorem classes_below_le_class_hash_bag (distinct : tree.root.Every HashNode.DistinctChildren)
    {entry : PackagePath × HashNode} (member : entry ∈ tree.nodes) :
    entry.2.classesBelow ≤ (tree.classHashBag : Multiset String) := by
  rw [HashNode.classes_below_eq_walk entry.1, ← HashNode.filter_walk distinct member]
  exact Multiset.coe_le.2 (List.filter_sublist.flatMap _).subperm

theorem mem_class_bags {trees : List HashTree} {hash : String} :
    hash ∈ classBags trees ↔ ∃ tree ∈ trees, hash ∈ tree.classHashBag := by
  rw [classBags, ← coe_flatMap, Multiset.mem_coe, List.mem_flatMap]

theorem classes_below_le_class_bags {trees : List HashTree} (isTree : tree ∈ trees) :
    tree.root.classesBelow ≤ classBags trees := by
  obtain ⟨front, back, rfl⟩ := List.append_of_mem isTree
  rw [HashNode.classes_below_eq_walk tree.rootPath]
  simp only [classBags, List.map_append, List.map_cons, List.sum_append, List.sum_cons]
  exact (Multiset.le_add_right _ _).trans (Multiset.le_add_left _ _)

theorem align_le_loose_evidence {texts : List String} {trees : List HashTree}
    (free : CollisionFree texts) (treesMade : ∀ tree ∈ trees, tree.root.MadeOf texts)
    (queryMade : query.root.MadeOf texts) (distinct : query.root.Every HashNode.DistinctChildren)
    (isTree : tree ∈ trees) {entry : PackagePath × HashNode} (inQuery : entry ∈ query.nodes) :
    tree.root.align entry.2 ≤ (looseEvidence trees (QueryIndex.ofTree query)).1 := by
  have common := (treesMade tree isTree).align_le_card_inter free (queryMade.of_mem_walk inQuery)
  have part := Multiset.card_le_card (inf_le_inf (classes_below_le_class_bags isTree)
    (classes_below_le_class_hash_bag distinct inQuery))
  rw [loose_evidence_of_distinguished (distinguished_of_made_of free treesMade queryMade)]
  simp only [Multiset.inf_eq_inter] at part ⊢
  omega

theorem matched_anchor_le_loose_evidence {texts : List String} (free : CollisionFree texts)
    (treeMade : tree.root.MadeOf texts) (queryMade : query.root.MadeOf texts)
    (distinct : query.root.Every HashNode.DistinctChildren) :
    (anchor tree (QueryIndex.ofTree query)).matched ≤
      (looseEvidence [tree] (QueryIndex.ofTree query)).1 := by
  rcases matched_anchor tree query with nothing | ⟨entry, inQuery, aligned⟩
  · rw [nothing]
    exact Int.natCast_nonneg _
  · rw [aligned]
    exact align_le_loose_evidence free (List.forall_mem_singleton.2 treeMade) queryMade distinct
      List.mem_cons_self inQuery

/-- No more classes are aligned than two nodes have in common, and for a single tree no more
than are found without paths. -/
theorem align_le_common (treeMade : tree.MadeFrom classes options)
    (queryMade : query.MadeFrom queryClasses options) :
    (∀ reference ∈ tree.nodes, ∀ found ∈ query.nodes,
      CollisionFree (reference.2.messagesBelow ++ found.2.messagesBelow) →
        reference.2.align found.2 ≤ (reference.2.classesBelow ∩ found.2.classesBelow).card ∧
          reference.2.align found.2 ≤ reference.2.classCount ∧
            reference.2.align found.2 ≤ found.2.classCount) ∧
      ∀ fingerprint : Fingerprint, fingerprint.hashTrees = [tree] →
        CollisionFree (fingerprint.jointMessages query) →
          (alignTrees (QueryIndex.ofTree query) fingerprint.hashTrees).matched ≤
            (looseEvidence fingerprint.hashTrees (QueryIndex.ofTree query)).1 := by
  constructor
  · intro reference inTree found inQuery free
    obtain ⟨referenceMade, foundMade⟩ := made_of_messages_below treeMade queryMade inTree inQuery
    have common := referenceMade.align_le_card_inter free foundMade
    have referenceCount := referenceMade.hashed.class_count_eq_card
    have foundCount := foundMade.hashed.class_count_eq_card
    have inReference := Multiset.card_le_card
      (Multiset.inter_le_left (s := reference.2.classesBelow) (t := found.2.classesBelow))
    have inFound := Multiset.card_le_card
      (Multiset.inter_le_right (s := reference.2.classesBelow) (t := found.2.classesBelow))
    omega
  · intro fingerprint single free
    have treeTexts : ∀ text ∈ tree.messages, text ∈ fingerprint.jointMessages query := by
      intro text inTree
      simp [Fingerprint.jointMessages, single, inTree]
    have bound := matched_anchor_le_loose_evidence free (treeMade.made_of treeTexts)
      (Fingerprint.made_of_query queryMade) queryMade.distinct
    simpa [single, alignTrees] using bound

def nestedTree : HashTree := ⟨["a"], HashNode.ofPackage {} (Fingerprint.nestedCodec "a" "b"), {}⟩

/-- Of two equal classes, one over the other, a query with one such class has no more than
one aligned. -/
theorem nested_tree_aligned_once :
    nestedTree.root.align Fingerprint.oneCodec.root ≤
        (nestedTree.root.classesBelow ∩ Fingerprint.oneCodec.root.classesBelow).card ∧
      (alignTrees (QueryIndex.ofTree Fingerprint.oneCodec)
          Fingerprint.ofNestedCodec.hashTrees).matched ≤
        (looseEvidence Fingerprint.ofNestedCodec.hashTrees
          (QueryIndex.ofTree Fingerprint.oneCodec)).1 := by
  have made : nestedTree.MadeFrom (codecIn [["a"], ["a", "b"]]) {} :=
    ⟨⟨⟨⟨"", [], [Fingerprint.nestedCodec "a" "b"]⟩⟩, ["a"], rfl, rfl⟩, is_digest_of_mem_codec_in _⟩
  have free : CollisionFree (Fingerprint.ofNestedCodec.jointMessages Fingerprint.oneCodec) := by
    decide +kernel
  have nodesFree : CollisionFree
      (nestedTree.root.messagesBelow ++ Fingerprint.oneCodec.root.messagesBelow) :=
    free.of_subset List.perm_append_comm.subset
  obtain ⟨nodes, trees⟩ := align_le_common made Fingerprint.one_codec_made_from
  have root := nodes (["a"], nestedTree.root) (HashNode.mem_walk_self _ _)
    ([], Fingerprint.oneCodec.root) (HashNode.mem_walk_self _ _) nodesFree
  exact ⟨root.1, trees Fingerprint.ofNestedCodec rfl free⟩

end HashTree

theorem Fingerprint.loose_evidence_ne_zero_of_aligned {fingerprint : Fingerprint}
    {classes queryClasses : List ClassDescriptor} {options : HashOptions} {query : HashTree}
    (profiled : fingerprint.ProfiledFrom classes options)
    (digests : ∀ descriptor ∈ classes, IsDigest descriptor.contentHash)
    (made : query.MadeFrom queryClasses options)
    (free : CollisionFree (fingerprint.jointMessages query))
    (aligned : (alignTrees (QueryIndex.ofTree query) fingerprint.hashTrees).matched ≠ 0) :
    (looseEvidence fingerprint.hashTrees (QueryIndex.ofTree query)).1 ≠ 0 := by
  obtain ⟨tree, isTree, entry, inQuery, nonzero⟩ := exists_aligned_of_align_trees aligned
  have treesMade : ∀ tree ∈ fingerprint.hashTrees,
      tree.root.MadeOf (fingerprint.jointMessages query) :=
    fun tree isTree => made_of_of_mem_hash_trees profiled digests isTree
  have bound := HashTree.align_le_loose_evidence free treesMade (made_of_query made) made.distinct
    isTree inQuery
  have nonneg := HashNode.align_nonneg (treesMade tree isTree).hashed entry.2
  omega

end LibraryDetection

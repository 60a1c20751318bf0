import LibraryDetection.Proofs.Matching.Agreement
import LibraryDetection.Proofs.Matching.Pairing

/-!
# Alignment without shortcuts

Packages with equal hashes are aligned as a whole, without a look at what they hold.  Unless
hashed texts collide this changes no count: isomorphic packages would have been paired child
by child, whatever their names, since the first rule leaves none of their children unpaired.
-/

namespace LibraryDetection

set_option autoImplicit false

open LibraryDetection.Digest

section PairChildren

variable {references queries : List HashNode}
  (same : (references.map (·.subtreeHash)).Perm (queries.map (·.subtreeHash)))

include same

theorem pair_children_eq_pair_where :
    pairChildren references queries =
      (pairWhere (fun reference query => reference.subtreeHash = query.subtreeHash)
        references queries).pairs := by
  obtain ⟨noReference, noQuery⟩ := pair_where_complete same
  simp only [pairChildren, pairsOf, pairRules, pairByRules, id_eq, noReference, noQuery,
    pairWhere, sortBy, List.zip_nil_left, List.append_nil]

theorem map_fst_pair_children_perm :
    ((pairChildren references queries).map Prod.fst).Perm references := by
  have splits := pair_where_splits
    (fun reference query : HashNode => reference.subtreeHash = query.subtreeHash)
    references queries
  have left := splits.references
  rw [(pair_where_complete same).1, List.append_nil] at left
  rw [pair_children_eq_pair_where same]
  exact left

theorem subtree_hash_eq_of_mem_pair_children {pair : HashNode × HashNode}
    (member : pair ∈ pairChildren references queries) :
    pair.1.subtreeHash = pair.2.subtreeHash := by
  rw [pair_children_eq_pair_where same] at member
  simpa using fits_of_mem_pair_where member

end PairChildren

namespace HashNode

/-- The number of reference classes at the same place under a query node, where every pair of
packages is compared class by class and child by child. -/
def alignFully (reference query : HashNode) : Int :=
  ((reference.classHashes : Multiset String) ∩ query.classHashes).card +
    total (fun pair => alignFully pair.1.1 pair.1.2)
      (pairChildren reference.children query.children).attach
termination_by sizeOf reference
decreasing_by
  have isChild := (mem_of_mem_pair_children pair.2).1
  have smaller := List.sizeOf_lt_of_mem isChild
  cases reference
  simp only [HashNode.mk.sizeOf_spec] at smaller ⊢
  omega

theorem align_fully_eq (reference query : HashNode) :
    reference.alignFully query =
      ((reference.classHashes : Multiset String) ∩ query.classHashes).card +
        total (fun pair => pair.1.alignFully pair.2)
          (pairChildren reference.children query.children) := by
  have pairs := total_map (fun pair : HashNode × HashNode => pair.1.alignFully pair.2)
    Subtype.val (pairChildren reference.children query.children).attach
  rw [List.attach_map_subtype_val] at pairs
  rw [alignFully, pairs]

variable {texts : List String} {reference query : HashNode}

theorem card_inter_of_perm {left right : List String} (same : left.Perm right) :
    ((left : Multiset String) ∩ (right : Multiset String)).card = left.length := by
  rw [Multiset.coe_eq_coe.2 same, ← Multiset.inf_eq_inter, inf_idem, Multiset.coe_card]
  exact same.length_eq.symm

theorem align_fully_of_subtree_hash_eq (free : CollisionFree texts)
    (referenceMade : reference.MadeOf texts) (queryMade : query.MadeOf texts)
    (same : reference.subtreeHash = query.subtreeHash) :
    reference.alignFully query = reference.classCount := by
  induction reference generalizing query with
  | node segment nodeHash subtreeHash classHashes classCount children ih =>
      have alike := isomorphic_of_subtree_hash_eq free referenceMade queryMade same
      have own := card_inter_of_perm alike.class_hashes_perm
      -- The children have the same bag of hashes, so that the first rule pairs all of them.
      have below := alike.child_hashes_perm referenceMade.hashed queryMade.hashed
      have each : ∀ pair ∈ pairChildren children query.children,
          pair.1.alignFully pair.2 = pair.1.classCount := by
        intro pair member
        obtain ⟨isChild, isPartner⟩ := mem_of_mem_pair_children member
        exact ih pair.1 isChild (referenceMade.within isChild) (queryMade.within isPartner)
          (subtree_hash_eq_of_mem_pair_children below member)
      have sum := referenceMade.hashed.class_count_eq
      rw [align_fully_eq, own, total_congr each, ← total_map HashNode.classCount,
        total_perm (map_fst_pair_children_perm below)]
      exact sum.symm

theorem shared_classes_eq_card_inter (free : CollisionFree texts)
    (referenceMade : reference.MadeOf texts) (queryMade : query.MadeOf texts) :
    reference.sharedClasses query =
      ((reference.classHashes : Multiset String) ∩ query.classHashes).card := by
  rw [sharedClasses]
  split
  · rename_i same
    have alike := class_hashes_perm_of_node_hash_eq free referenceMade queryMade same
    rw [card_inter_of_perm alike, directCount]
  · exact Bag.shared_size_eq_card_inter _ _

theorem MadeOf.align_eq (referenceMade : reference.MadeOf texts) (free : CollisionFree texts)
    (queryMade : query.MadeOf texts) : reference.align query = reference.alignFully query := by
  induction reference generalizing query with
  | node segment nodeHash subtreeHash classHashes classCount children ih =>
      rw [HashNode.align_eq]
      split
      · rename_i same
        exact (align_fully_of_subtree_hash_eq free referenceMade queryMade same).symm
      · have each : ∀ pair ∈ pairChildren children query.children,
            pair.1.align pair.2 = pair.1.alignFully pair.2 := by
          intro pair member
          obtain ⟨isChild, isPartner⟩ := mem_of_mem_pair_children member
          exact ih pair.1 isChild (referenceMade.within isChild) (queryMade.within isPartner)
        rw [align_fully_eq, shared_classes_eq_card_inter free referenceMade queryMade,
          total_congr each]

def messagesBelow (node : HashNode) : List String :=
  (node.walk []).flatMap fun entry => entry.2.messages

theorem covered_messages_below {node : HashNode}
    (part : ∀ text ∈ node.messagesBelow, text ∈ texts) :
    node.Every (Covered texts) := by
  apply (every_iff_forall_mem_walk [] node).2
  intro entry member text inEntry
  exact part text (List.mem_flatMap.2 ⟨entry, member, inEntry⟩)

end HashNode

namespace HashTree

variable {left right : HashTree} {leftClasses rightClasses : List ClassDescriptor}
  {options : HashOptions}

theorem MadeFrom.made_of_of_mem (made : left.MadeFrom leftClasses options)
    {entry : PackagePath × HashNode} (member : entry ∈ left.nodes) {texts : List String}
    (part : ∀ text ∈ entry.2.messagesBelow, text ∈ texts) : entry.2.MadeOf texts where
  hashed := made.built.hashed_of_mem member
  digested := made.digested.of_mem_walk member
  covered := HashNode.covered_messages_below part

theorem made_of_messages_below (leftMade : left.MadeFrom leftClasses options)
    (rightMade : right.MadeFrom rightClasses options) {reference query : PackagePath × HashNode}
    (inLeft : reference ∈ left.nodes) (inRight : query ∈ right.nodes) :
    reference.2.MadeOf (reference.2.messagesBelow ++ query.2.messagesBelow) ∧
      query.2.MadeOf (reference.2.messagesBelow ++ query.2.messagesBelow) := by
  constructor
  · apply leftMade.made_of_of_mem inLeft
    intro text member
    exact List.mem_append_left _ member
  · apply rightMade.made_of_of_mem inRight
    intro text member
    exact List.mem_append_right _ member

/-- Any two nodes of hash trees are aligned as if every pair of packages were compared class by
class and child by child, unless two texts that were hashed for them collide. -/
theorem align_eq_align_fully (leftMade : left.MadeFrom leftClasses options)
    (rightMade : right.MadeFrom rightClasses options) {reference query : PackagePath × HashNode}
    (inLeft : reference ∈ left.nodes) (inRight : query ∈ right.nodes)
    (free : CollisionFree (reference.2.messagesBelow ++ query.2.messagesBelow)) :
    reference.2.align query.2 = reference.2.alignFully query.2 := by
  obtain ⟨referenceMade, queryMade⟩ := made_of_messages_below leftMade rightMade inLeft inRight
  exact referenceMade.align_eq free queryMade

theorem made_from_codec_packages (segments : List String)
    (added : PackageTree.empty.addAll (codecIn (segments.map fun segment => [segment])) =
      .ok (codecPackages segments)) :
    ((codecPackages segments).wholeHashTree {}).MadeFrom
      (codecIn (segments.map fun segment => [segment])) {} :=
  ⟨⟨codecPackages segments, [], added, rfl⟩, is_digest_of_mem_codec_in _⟩

/-- Equal packages under other names are aligned as a whole, and so they are without
shortcuts. -/
theorem align_fully_of_other_name :
    ((codecPackages ["a"]).wholeHashTree {}).root.alignFully
      ((codecPackages ["c"]).wholeHashTree {}).root = 1 := by
  have equal := align_eq_align_fully (made_from_codec_packages ["a"] rfl)
    (made_from_codec_packages ["c"] rfl)
    (HashNode.mem_walk_self _ _) (HashNode.mem_walk_self _ _) (by decide +kernel)
  have sameHash : ((codecPackages ["a"]).wholeHashTree {}).root.subtreeHash =
      ((codecPackages ["c"]).wholeHashTree {}).root.subtreeHash := rfl
  rw [← equal, HashNode.align_eq, if_pos sameHash]
  rfl

end HashTree

end LibraryDetection

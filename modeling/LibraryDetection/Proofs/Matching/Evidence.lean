import LibraryDetection.Matching.Evidence
import LibraryDetection.Proofs.Collection.Bag
import LibraryDetection.Proofs.HashTree.Hashing
import Mathlib.Algebra.BigOperators.Group.Multiset.Basic
import Mathlib.Data.List.Forall2

/-!
# Evidence as a common part of bags

However the packages of the references are ordered, what is found of them is the common
part of two pairs of bags: the classes of the references and of the query, and their
packages.  A package that is taken as a whole takes an equal one out of the query with all
of its classes, so that what is left of the query stays a bag of whole packages.
-/

namespace LibraryDetection

set_option autoImplicit false

def classBag (packages : List HashNode) : Multiset String :=
  (packages.flatMap (·.classHashes) : List String)

def packageBag (packages : List HashNode) : Multiset String :=
  (packages.map (·.nodeHash) : List String)

theorem class_bag_nil : classBag [] = 0 := rfl

theorem class_bag_cons (node : HashNode) (others : List HashNode) :
    classBag (node :: others) = (node.classHashes : Multiset String) + classBag others := by
  rw [classBag, List.flatMap_cons, ← Multiset.coe_add]
  rfl

theorem package_bag_cons (node : HashNode) (others : List HashNode) :
    packageBag (node :: others) = node.nodeHash ::ₘ packageBag others := rfl

theorem class_bag_append (left right : List HashNode) :
    classBag (left ++ right) = classBag left + classBag right := by
  rw [classBag, List.flatMap_append, ← Multiset.coe_add]
  rfl

theorem package_bag_append (left right : List HashNode) :
    packageBag (left ++ right) = packageBag left + packageBag right := by
  rw [packageBag, List.map_append, ← Multiset.coe_add]
  rfl

theorem class_bag_perm {left right : List HashNode} (same : left.Perm right) :
    classBag left = classBag right :=
  Multiset.coe_eq_coe.2 (same.flatMap_right _)

theorem package_bag_perm {left right : List HashNode} (same : left.Perm right) :
    packageBag left = packageBag right :=
  Multiset.coe_eq_coe.2 (same.map _)

/-- Packages with the same hash and the same classes.  Unless texts collide, the one follows
from the other. -/
def SamePackage (node other : HashNode) : Prop :=
  node.nodeHash = other.nodeHash ∧ node.classHashes.Perm other.classHashes

def Distinguished (packages others : List HashNode) : Prop :=
  ∀ node ∈ packages, ∀ other ∈ others, node.nodeHash = other.nodeHash → SamePackage node other

theorem class_bag_eq_of_pairs {packages others : List HashNode}
    (pairs : List.Forall₂ SamePackage packages others) : classBag packages = classBag others := by
  induction pairs with
  | nil => rfl
  | cons same _ ih => rw [class_bag_cons, class_bag_cons, Multiset.coe_eq_coe.2 same.2, ih]

theorem package_bag_eq_of_pairs {packages others : List HashNode}
    (pairs : List.Forall₂ SamePackage packages others) :
    packageBag packages = packageBag others := by
  induction pairs with
  | nil => rfl
  | cons same _ ih => rw [package_bag_cons, package_bag_cons, same.1, ih]

namespace Tally

/-- The packages that were found have equal ones that were taken from the query, the others
wait with their classes, and none of them is among the packages that are left. -/
structure Settled (tally : Tally) (found missed taken rest : List HashNode) : Prop where
  partners : List.Forall₂ SamePackage found taken
  freeNodes : (tally.freeNodes : Multiset String) = packageBag rest
  freeClasses : (tally.freeClasses : Multiset String) = classBag rest
  loose : (tally.loose : Multiset String) = classBag missed
  matchedClasses : tally.matchedClasses = (classBag found).card
  matchedPackages : tally.matchedPackages = found.length
  absent : ∀ node ∈ missed, node.nodeHash ∉ tally.freeNodes

variable {tally : Tally} {found missed taken rest : List HashNode}

theorem settled_start (query : List HashNode) :
    Settled ⟨query.map (·.nodeHash), query.flatMap (·.classHashes), [], 0, 0⟩ [] [] [] query where
  partners := .nil
  freeNodes := rfl
  freeClasses := rfl
  loose := rfl
  matchedClasses := rfl
  matchedPackages := rfl
  absent := fun _ member => absurd member List.not_mem_nil

theorem Settled.take_found {front back : List HashNode} {node partner : HashNode}
    (settled : tally.Settled found missed taken (front ++ partner :: back))
    (same : SamePackage node partner) :
    Settled ⟨tally.freeNodes.erase node.nodeHash, Bag.without tally.freeClasses node.classHashes,
      tally.loose, tally.matchedClasses + node.directCount, tally.matchedPackages + 1⟩
      (node :: found) missed (partner :: taken) (front ++ back) := by
  have regroup : (front ++ partner :: back).Perm (partner :: (front ++ back)) := List.perm_middle
  constructor
  · exact .cons same settled.partners
  · rw [← Multiset.coe_erase, settled.freeNodes, package_bag_perm regroup, package_bag_cons,
      same.1, Multiset.erase_cons_head]
  · rw [Bag.coe_without, settled.freeClasses, class_bag_perm regroup, class_bag_cons,
      Multiset.coe_eq_coe.2 same.2, add_tsub_cancel_left]
  · exact settled.loose
  · rw [class_bag_cons, Multiset.card_add, Multiset.coe_card, settled.matchedClasses,
      HashNode.directCount, Nat.add_comm]
  · rw [List.length_cons, settled.matchedPackages]
  · intro other missing inFree
    exact settled.absent other missing (List.mem_of_mem_erase inFree)

theorem Settled.take_missed (settled : tally.Settled found missed taken rest) {node : HashNode}
    (notFree : node.nodeHash ∉ tally.freeNodes) :
    Settled { tally with loose := tally.loose ++ node.classHashes } found (missed ++ [node])
      taken rest := by
  constructor
  · exact settled.partners
  · exact settled.freeNodes
  · exact settled.freeClasses
  · rw [← Multiset.coe_add, settled.loose, class_bag_append]
    rw [class_bag_cons, class_bag_nil, add_zero]
  · exact settled.matchedClasses
  · exact settled.matchedPackages
  · intro other member
    rcases List.mem_append.1 member with before | last
    · exact settled.absent other before
    · rw [List.mem_singleton.1 last]
      exact notFree

theorem settled_take (settled : tally.Settled found missed taken rest) {node : HashNode}
    (agree : Distinguished [node] rest) :
    ∃ found' missed' taken' rest', (tally.take node).Settled found' missed' taken' rest' ∧
      (found' ++ missed').Perm (node :: (found ++ missed)) ∧
      (taken' ++ rest').Perm (taken ++ rest) := by
  rw [take]
  split
  · rename_i free
    have inRest : node.nodeHash ∈ packageBag rest := by
      rw [← settled.freeNodes]
      exact free
    obtain ⟨partner, member, sameHash⟩ := List.mem_map.1 (Multiset.mem_coe.1 inRest)
    obtain ⟨front, back, rfl⟩ := List.append_of_mem member
    have same : SamePackage node partner :=
      agree node List.mem_cons_self partner member sameHash.symm
    have regroup : (front ++ partner :: back).Perm (partner :: (front ++ back)) :=
      List.perm_middle
    refine ⟨node :: found, missed, partner :: taken, front ++ back, settled.take_found same,
      List.Perm.refl _, ?_⟩
    exact (List.Perm.cons partner (List.Perm.refl _)).trans
      ((List.perm_middle.symm.trans (List.Perm.append_left taken regroup.symm)))
  · rename_i notFree
    refine ⟨found, missed ++ [node], taken, rest, settled.take_missed notFree, ?_,
      List.Perm.refl _⟩
    rw [← List.append_assoc]
    exact List.perm_append_singleton node (found ++ missed)

theorem settled_foldl (packages : List HashNode)
    (settled : tally.Settled found missed taken rest)
    (agree : Distinguished packages (taken ++ rest)) :
    ∃ found' missed' taken' rest',
      (packages.foldl Tally.take tally).Settled found' missed' taken' rest' ∧
        (found' ++ missed').Perm (packages ++ (found ++ missed)) ∧
        (taken' ++ rest').Perm (taken ++ rest) := by
  induction packages generalizing tally found missed taken rest with
  | nil => exact ⟨found, missed, taken, rest, settled, List.Perm.refl _, List.Perm.refl _⟩
  | cons node packages ih =>
      have now : Distinguished [node] rest := by
        intro one isNode other inRest
        rw [List.mem_singleton.1 isNode]
        exact agree node List.mem_cons_self other (List.mem_append_right taken inRest)
      obtain ⟨found', missed', taken', rest', next, seen, kept⟩ := settled_take settled now
      have later : Distinguished packages (taken' ++ rest') := by
        intro one inPackages other member
        exact agree one (List.mem_cons_of_mem node inPackages) other (kept.mem_iff.1 member)
      obtain ⟨found'', missed'', taken'', rest'', last, seen', kept'⟩ := ih next later
      refine ⟨found'', missed'', taken'', rest'', last, ?_, kept'.trans kept⟩
      exact seen'.trans ((List.Perm.append_left packages seen).trans List.perm_middle)

theorem Settled.inter_eq_zero (settled : tally.Settled found missed taken rest) :
    packageBag missed ∩ packageBag rest = 0 := by
  apply Multiset.inter_eq_zero_iff_disjoint.2
  apply Multiset.disjoint_left.2
  intro hash inMissed inRest
  obtain ⟨node, member, rfl⟩ := List.mem_map.1 (Multiset.mem_coe.1 inMissed)
  rw [← settled.freeNodes] at inRest
  exact settled.absent node member inRest

theorem Settled.total_eq (settled : tally.Settled found missed taken rest) :
    tally.total =
      ((classBag (found ++ missed) ∩ classBag (taken ++ rest)).card,
        (packageBag (found ++ missed) ∩ packageBag (taken ++ rest)).card) := by
  have samePackages := package_bag_eq_of_pairs settled.partners
  have sameClasses := class_bag_eq_of_pairs settled.partners
  have size : (packageBag found).card = found.length := List.length_map _
  rw [total, Prod.mk.injEq]
  constructor
  · rw [class_bag_append, class_bag_append, ← sameClasses, Bag.card_add_inter_add,
      settled.matchedClasses, Bag.shared_size_eq_card_inter, settled.loose, settled.freeClasses]
  · rw [package_bag_append, package_bag_append, ← samePackages, Bag.card_add_inter_add,
      settled.inter_eq_zero, Multiset.card_zero, Nat.add_zero, size, settled.matchedPackages]

theorem total_foldl_take {packages query : List HashNode} (agree : Distinguished packages query) :
    (packages.foldl Tally.take
        ⟨query.map (·.nodeHash), query.flatMap (·.classHashes), [], 0, 0⟩).total =
      ((classBag packages ∩ classBag query).card,
        (packageBag packages ∩ packageBag query).card) := by
  obtain ⟨found, missed, taken, rest, settled, seen, kept⟩ :=
    settled_foldl packages (settled_start query) agree
  rw [settled.total_eq, class_bag_perm seen, class_bag_perm kept, package_bag_perm seen,
    package_bag_perm kept]
  simp only [List.nil_append, List.append_nil]

theorem class_bag_le_of_package_bag_le {packages query : List HashNode}
    (agree : Distinguished packages query) (held : packageBag packages ≤ packageBag query) :
    classBag packages ≤ classBag query := by
  obtain ⟨found, missed, taken, rest, settled, seen, kept⟩ :=
    settled_foldl packages (settled_start query) agree
  simp only [List.append_nil, List.nil_append] at seen kept
  have samePackages := package_bag_eq_of_pairs settled.partners
  have sameClasses := class_bag_eq_of_pairs settled.partners
  have inRest : packageBag missed ≤ packageBag rest := by
    rw [← package_bag_perm seen, ← package_bag_perm kept, package_bag_append, package_bag_append,
      samePackages] at held
    exact Multiset.le_of_add_le_add_left held
  have none : missed = [] := by
    have empty := settled.inter_eq_zero
    rw [← Multiset.inf_eq_inter, inf_eq_left.2 inRest] at empty
    simpa [packageBag] using empty
  rw [← class_bag_perm seen, ← class_bag_perm kept, none, List.append_nil, sameClasses,
    class_bag_append]
  exact Multiset.le_add_right _ _

end Tally

namespace HashTree

/-- Nodes without classes of their own add nothing to the bag of class hashes. -/
theorem class_bag_occupied (tree : HashTree) :
    classBag tree.occupied = (tree.classHashBag : Multiset String) := by
  rw [classBag, flatMap_occupied]

def classBags (trees : List HashTree) : Multiset String :=
  (trees.map fun tree => (tree.classHashBag : Multiset String)).sum

def packageBags (trees : List HashTree) : Multiset String :=
  (trees.map fun tree => (tree.nodeHashBag : Multiset String)).sum

def classHashLists (trees : List HashTree) : List (List String) :=
  trees.flatMap fun tree => tree.nodes.map fun entry => entry.2.classHashes

theorem class_bag_flatMap_occupied (trees : List HashTree) :
    classBag (trees.flatMap occupied) = classBags trees := by
  rw [classBag, List.flatMap_assoc, coe_flatMap, classBags]
  simp only [flatMap_occupied]

theorem package_bag_flatMap_occupied (trees : List HashTree) :
    packageBag (trees.flatMap occupied) = packageBags trees := by
  rw [packageBag, List.map_flatMap, coe_flatMap]
  rfl

theorem exists_entry_of_mem_occupied {tree : HashTree} {node : HashNode}
    (member : node ∈ tree.occupied) : ∃ entry ∈ tree.nodes, entry.2 = node := by
  rw [occupied, List.mem_filter, List.mem_map] at member
  exact member.1

theorem distinguished_of_built {trees : List HashTree} {query : HashTree}
    (queryBuilt : query.Built) (treesBuilt : ∀ tree ∈ trees, tree.Built)
    (apart : ∀ left ∈ classHashLists (query :: trees), ∀ right ∈ classHashLists (query :: trees),
      Digest.nodeHash left = Digest.nodeHash right → left = right) :
    Distinguished (trees.flatMap occupied) query.occupied := by
  have listed : ∀ tree ∈ query :: trees, ∀ entry ∈ tree.nodes,
      entry.2.classHashes ∈ classHashLists (query :: trees) := by
    intro tree isTree entry member
    exact List.mem_flatMap.2 ⟨tree, isTree, List.mem_map_of_mem member⟩
  intro node inTrees other inQuery sameHash
  have same := sameHash
  obtain ⟨tree, isTree, member⟩ := List.mem_flatMap.1 inTrees
  obtain ⟨entry, inTree, rfl⟩ := exists_entry_of_mem_occupied member
  obtain ⟨partner, inNodes, rfl⟩ := exists_entry_of_mem_occupied inQuery
  rw [((treesBuilt tree isTree).hashed_of_mem inTree).node_hash_eq,
    (queryBuilt.hashed_of_mem inNodes).node_hash_eq] at same
  have equal := apart _ (listed tree (List.mem_cons_of_mem query isTree) entry inTree) _
    (listed query List.mem_cons_self partner inNodes) same
  exact ⟨sameHash, List.Perm.of_eq equal⟩

end HashTree

section LooseEvidence

variable {query : HashTree} {trees : List HashTree}

theorem total_of_perm (agree : Distinguished (trees.flatMap HashTree.occupied) query.occupied)
    {order : List HashNode} (same : order.Perm (trees.flatMap HashTree.occupied)) :
    (order.foldl Tally.take (Tally.start (QueryIndex.ofTree query))).total =
      ((HashTree.classBags trees ∩ query.classHashBag).card,
        (HashTree.packageBags trees ∩ query.nodeHashBag).card) := by
  have agree' : Distinguished order query.occupied := by
    intro node member
    exact agree node (same.mem_iff.1 member)
  have result := Tally.total_foldl_take agree'
  rw [HashTree.flatMap_occupied, class_bag_perm same, package_bag_perm same,
    HashTree.class_bag_flatMap_occupied, HashTree.package_bag_flatMap_occupied,
    HashTree.class_bag_occupied] at result
  exact result

theorem loose_evidence_of_distinguished
    (agree : Distinguished (trees.flatMap HashTree.occupied) query.occupied) :
    looseEvidence trees (QueryIndex.ofTree query) =
      ((HashTree.classBags trees ∩ query.classHashBag).card,
        (HashTree.packageBags trees ∩ query.nodeHashBag).card) :=
  total_of_perm agree (sort_by_perm largerFirst _)

/-- The evidence without paths is the common part of the bags of the references and of
the query, whatever the order of the packages, so that it counts no class of the query
twice. -/
theorem loose_evidence_eq_card_inter (queryBuilt : query.Built)
    (treesBuilt : ∀ tree ∈ trees, tree.Built)
    (apart : ∀ left ∈ HashTree.classHashLists (query :: trees),
      ∀ right ∈ HashTree.classHashLists (query :: trees),
        Digest.nodeHash left = Digest.nodeHash right → left = right) :
    looseEvidence trees (QueryIndex.ofTree query) =
        ((HashTree.classBags trees ∩ query.classHashBag).card,
          (HashTree.packageBags trees ∩ query.nodeHashBag).card) ∧
      (∀ order : List HashNode, order.Perm (trees.flatMap HashTree.occupied) →
        (order.foldl Tally.take (Tally.start (QueryIndex.ofTree query))).total =
          looseEvidence trees (QueryIndex.ofTree query)) ∧
      (looseEvidence trees (QueryIndex.ofTree query)).1 ≤ query.classHashBag.length := by
  have agree := HashTree.distinguished_of_built queryBuilt treesBuilt apart
  have evidence := total_of_perm agree (sort_by_perm largerFirst (trees.flatMap HashTree.occupied))
  refine ⟨evidence, ?_, ?_⟩
  · intro order same
    exact (total_of_perm agree same).trans evidence.symm
  · have part : HashTree.classBags trees ∩ query.classHashBag ≤
        (query.classHashBag : Multiset String) :=
      Multiset.inter_le_right
    have bound := Multiset.card_le_card part
    rw [Multiset.coe_card] at bound
    exact (congrArg Prod.fst evidence).trans_le bound

end LooseEvidence

def codecIn (packages : List PackagePath) : List ClassDescriptor :=
  packages.map fun package => ClassDescriptor.make package "Codec" ["encode()V"] .topLevel

theorem is_digest_of_mem_codec_in (packages : List PackagePath) :
    ∀ descriptor ∈ codecIn packages, Digest.IsDigest descriptor.contentHash := by
  intro descriptor member
  obtain ⟨package, _, rfl⟩ := List.mem_map.1 member
  exact Digest.is_digest_content_hash _

def codecPackages (segments : List String) : PackageTree :=
  ⟨⟨"", [], segments.map fun segment => ⟨segment, codecIn [[segment]], []⟩⟩⟩

/-- Of two equal packages only one is found where the query holds one. -/
theorem loose_evidence_of_repeated_package :
    looseEvidence [(codecPackages ["a", "b"]).wholeHashTree {}]
      (QueryIndex.ofTree ((codecPackages ["c"]).wholeHashTree {})) = (1, 1) := by
  have evidence := loose_evidence_eq_card_inter
    (HashTree.built_whole_hash_tree (codecPackages ["c"]) {})
    (List.forall_mem_singleton.2 (HashTree.built_whole_hash_tree (codecPackages ["a", "b"]) {}))
    (by decide +kernel)
  rw [evidence.1]
  decide +kernel

end LibraryDetection

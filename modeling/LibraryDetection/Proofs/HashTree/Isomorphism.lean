import LibraryDetection.Proofs.Collection.Pairs
import LibraryDetection.Proofs.HashTree.Hashing
import Mathlib.Data.Multiset.Basic

/-!
# Isomorphic nodes

Two nodes are isomorphic when they hold the same bag of class hashes and their children
can be paired so that each pair is isomorphic in turn; the segments play no part.  As long
as no two hashed texts collide, this is what equal subtree hashes stand for.
-/

namespace LibraryDetection.HashNode

set_option autoImplicit false

open LibraryDetection.Digest

inductive Isomorphic : HashNode → HashNode → Prop
  | node {left right : HashNode} {partners : List HashNode}
      (classes : left.classHashes.Perm right.classHashes)
      (order : partners.Perm right.children)
      (pairs : List.Forall₂ Isomorphic left.children partners) : Isomorphic left right

/-- The texts that are hashed for a node: that of its classes and that of its subtree. -/
def messages (node : HashNode) : List String :=
  [nodeMessage node.classHashes,
    subtreeMessage node.nodeHash (node.children.map (·.subtreeHash))]

def Digested (node : HashNode) : Prop := ∀ hash ∈ node.classHashes, IsDigest hash

def Covered (texts : List String) (node : HashNode) : Prop := ∀ text ∈ node.messages, text ∈ texts

theorem Hashed.is_digest_subtree_hash {node : HashNode} (hashed : node.Hashed) :
    IsDigest node.subtreeHash := by
  rw [hashed.subtree_hash_eq]
  exact Digest.is_digest_subtree_hash _ _

theorem Hashed.is_digest_node_hash {node : HashNode} (hashed : node.Hashed) :
    IsDigest node.nodeHash := by
  rw [hashed.node_hash_eq]
  exact Digest.is_digest_node_hash _

theorem Hashed.is_digest_child {node : HashNode} (hashed : node.Hashed) :
    ∀ hash ∈ node.children.map (·.subtreeHash), IsDigest hash := by
  intro hash member
  obtain ⟨child, isChild, rfl⟩ := List.mem_map.1 member
  exact (hashed.within child isChild).is_digest_subtree_hash

theorem exists_class_of_mem_class_hashes {options : HashOptions} {classes : List ClassDescriptor}
    {hash : String} (member : hash ∈ options.classHashes classes) :
    ∃ descriptor ∈ classes, descriptor.contentHash = hash := by
  have listed : hash ∈ (classes.filter options.includes).map (·.contentHash) := by
    rw [HashOptions.classHashes] at member
    split at member
    · exact mem_text_set.1 member
    · exact mem_sort_by.1 member
  obtain ⟨descriptor, kept, same⟩ := List.mem_map.1 listed
  exact ⟨descriptor, List.mem_of_mem_filter kept, same⟩

theorem digested_of_package (options : HashOptions) {package : PackageNode}
    (wellFormed : package.WellFormed)
    (digests : ∀ path, ∀ descriptor ∈ package.classesAt path, IsDigest descriptor.contentHash) :
    (ofPackage options package).Every Digested := by
  induction package with
  | node segment classes children ih =>
      rw [ofPackage]
      refine .node ?_ ?_
      · intro hash member
        obtain ⟨descriptor, isClass, rfl⟩ := exists_class_of_mem_class_hashes member
        exact digests [] descriptor isClass
      · intro child member
        obtain ⟨origin, isChild, rfl, _⟩ := (mem_of_packages options children child).1 member
        refine ih origin isChild (wellFormed.within origin isChild) ?_
        intro path descriptor inside
        refine digests (origin.segment :: path) descriptor ?_
        rw [PackageNode.classes_at_child wellFormed isChild]
        exact inside

section

variable {texts : List String} {left right : HashNode}

/-- The hashes at and below the node were made of what it holds, of some of the texts. -/
structure MadeOf (texts : List String) (node : HashNode) : Prop where
  hashed : node.Hashed
  digested : node.Every Digested
  covered : node.Every (Covered texts)

theorem MadeOf.within {node child : HashNode} (madeOf : node.MadeOf texts)
    (isChild : child ∈ node.children) : child.MadeOf texts where
  hashed := madeOf.hashed.within child isChild
  digested := madeOf.digested.within child isChild
  covered := madeOf.covered.within child isChild

theorem MadeOf.of_mem_walk {node : HashNode} (madeOf : node.MadeOf texts) {path : PackagePath}
    {entry : PackagePath × HashNode} (member : entry ∈ node.walk path) :
    entry.2.MadeOf texts where
  hashed := madeOf.hashed.of_mem_walk member
  digested := madeOf.digested.of_mem_walk member
  covered := madeOf.covered.of_mem_walk member

theorem class_hashes_perm_of_node_hash_eq (free : CollisionFree texts)
    (leftMade : left.MadeOf texts)
    (rightMade : right.MadeOf texts) (same : left.nodeHash = right.nodeHash) :
    left.classHashes.Perm right.classHashes := by
  rw [leftMade.hashed.node_hash_eq, rightMade.hashed.node_hash_eq] at same
  have sameText := free _ (leftMade.covered.here _ (by simp [messages])) _
    (rightMade.covered.here _ (by simp [messages])) same
  exact perm_of_node_message_eq leftMade.digested.here rightMade.digested.here sameText

theorem isomorphic_of_subtree_hash_eq (free : CollisionFree texts) (leftMade : left.MadeOf texts)
    (rightMade : right.MadeOf texts) (same : left.subtreeHash = right.subtreeHash) :
    left.Isomorphic right := by
  induction left generalizing right with
  | node segment nodeHash subtreeHash classHashes classCount children ih =>
      rw [leftMade.hashed.subtree_hash_eq, rightMade.hashed.subtree_hash_eq] at same
      have sameText := free _ (leftMade.covered.here _ (by simp [messages])) _
        (rightMade.covered.here _ (by simp [messages])) same
      obtain ⟨sameNode, below⟩ := eq_and_perm_of_subtree_message_eq
        leftMade.hashed.is_digest_node_hash rightMade.hashed.is_digest_node_hash
        leftMade.hashed.is_digest_child rightMade.hashed.is_digest_child sameText
      have classes := class_hashes_perm_of_node_hash_eq free leftMade rightMade sameNode
      obtain ⟨partners, order, pairs⟩ := exists_pairs_of_map_perm below
      refine .node classes order (forall₂_imp_of_mem ?_ pairs)
      intro child isChild partner isPartner sameHash
      have inRight : partner ∈ right.children := order.mem_iff.1 isPartner
      exact ih child isChild (leftMade.within isChild) (rightMade.within inRight) sameHash

theorem Isomorphic.hashes_eq (isomorphic : left.Isomorphic right) (leftHashed : left.Hashed)
    (rightHashed : right.Hashed) :
    left.nodeHash = right.nodeHash ∧ left.subtreeHash = right.subtreeHash := by
  induction left generalizing right with
  | node segment nodeHash subtreeHash classHashes classCount children ih =>
      cases isomorphic with
      | @node _ _ partners classes order pairs =>
          have sameNode : nodeHash = right.nodeHash := by
            rw [rightHashed.node_hash_eq, ← node_hash_eq_of_perm classes]
            exact leftHashed.node_hash_eq
          have below :
              (children.map (·.subtreeHash)).Perm (right.children.map (·.subtreeHash)) := by
            refine map_perm_of_pairs order pairs ?_
            intro child isChild partner inRight alike
            exact (ih child isChild alike (leftHashed.within child isChild)
              (rightHashed.within partner inRight)).2
          refine ⟨sameNode, ?_⟩
          rw [rightHashed.subtree_hash_eq, ← sameNode, ← subtree_hash_eq_of_perm nodeHash below]
          exact leftHashed.subtree_hash_eq

theorem Isomorphic.class_hashes_perm (isomorphic : left.Isomorphic right) :
    left.classHashes.Perm right.classHashes := by
  cases isomorphic
  assumption

theorem Isomorphic.child_hashes_perm (isomorphic : left.Isomorphic right)
    (leftHashed : left.Hashed) (rightHashed : right.Hashed) :
    (left.children.map (·.subtreeHash)).Perm (right.children.map (·.subtreeHash)) := by
  cases isomorphic with
  | @node _ _ partners classes order pairs =>
      apply map_perm_of_pairs order pairs
      intro child isChild partner inRight alike
      exact (alike.hashes_eq (leftHashed.within child isChild)
        (rightHashed.within partner inRight)).2

theorem Isomorphic.messages_eq (isomorphic : left.Isomorphic right) (leftHashed : left.Hashed)
    (rightHashed : right.Hashed) : left.messages = right.messages := by
  have sameHash := (isomorphic.hashes_eq leftHashed rightHashed).1
  have below := isomorphic.child_hashes_perm leftHashed rightHashed
  rw [messages, messages, node_message_eq_of_perm isomorphic.class_hashes_perm, sameHash,
    subtree_message_eq_of_perm right.nodeHash below]

theorem Isomorphic.symm (isomorphic : left.Isomorphic right) : right.Isomorphic left := by
  induction left generalizing right with
  | node segment nodeHash subtreeHash classHashes classCount children ih =>
      cases isomorphic with
      | @node _ _ partners classes order pairs =>
          have back : List.Forall₂ Isomorphic partners children := by
            refine (forall₂_imp_of_mem ?_ pairs).flip
            intro child isChild partner _ alike
            exact ih child isChild alike
          obtain ⟨reordered, backPairs, backOrder⟩ := List.perm_comp_forall₂ order.symm back
          exact .node classes.symm backOrder backPairs

theorem Isomorphic.exists_pairs_walk (isomorphic : left.Isomorphic right)
    (path other : PackagePath) :
    ∃ partners : List (PackagePath × HashNode), partners.Perm (right.walk other) ∧
      List.Forall₂ (fun a b => a.2.Isomorphic b.2) (left.walk path) partners := by
  induction left generalizing right path other with
  | node segment nodeHash subtreeHash classHashes classCount children ih =>
      have whole := isomorphic
      cases isomorphic with
      | @node _ _ partners classes order pairs =>
          have below : List.Forall₂
              (fun (child partner : HashNode) => ∃ entries : List (PackagePath × HashNode),
                entries.Perm (partner.walk (other ++ [partner.segment])) ∧
                List.Forall₂ (fun a b => a.2.Isomorphic b.2)
                  (child.walk (path ++ [child.segment])) entries) children partners := by
            refine forall₂_imp_of_mem ?_ pairs
            intro child isChild partner _ alike
            exact ih child isChild alike _ _
          obtain ⟨entries, reordered, paired⟩ := exists_pairs_flatMap below
          refine ⟨(other, right) :: entries, ?_, ?_⟩
          · rw [walk_eq other right]
            exact List.Perm.cons _ (reordered.trans (order.flatMap_right _))
          · rw [walk_eq path]
            exact .cons whole paired

theorem Isomorphic.flatMap_class_hashes_perm (isomorphic : left.Isomorphic right)
    (path other : PackagePath) :
    ((left.walk path).flatMap fun entry => entry.2.classHashes).Perm
      ((right.walk other).flatMap fun entry => entry.2.classHashes) := by
  obtain ⟨partners, order, pairs⟩ := isomorphic.exists_pairs_walk path other
  refine List.Perm.trans ?_ (order.flatMap_right _)
  exact flatMap_perm_of_forall₂ (pairs.imp fun _ _ alike => alike.class_hashes_perm)

theorem Isomorphic.class_count_eq (isomorphic : left.Isomorphic right) (leftHashed : left.Hashed)
    (rightHashed : right.Hashed) : left.classCount = right.classCount := by
  rw [leftHashed.class_count_eq_length [], rightHashed.class_count_eq_length [],
    (isomorphic.flatMap_class_hashes_perm [] []).length_eq]

theorem Isomorphic.map_walk_perm {β : Type} (read : HashNode → β)
    (agrees : ∀ a b : HashNode, a.Hashed → b.Hashed → a.Isomorphic b → read a = read b)
    (isomorphic : left.Isomorphic right) (leftHashed : left.Hashed) (rightHashed : right.Hashed)
    (path other : PackagePath) :
    ((left.walk path).map fun entry => read entry.2).Perm
      ((right.walk other).map fun entry => read entry.2) := by
  obtain ⟨partners, order, pairs⟩ := isomorphic.exists_pairs_walk path other
  apply map_perm_of_pairs order pairs
  intro entry isEntry partner isPartner alike
  exact agrees _ _ (Every.of_mem_walk leftHashed isEntry) (Every.of_mem_walk rightHashed isPartner)
    alike

theorem Isomorphic.exists_partner (isomorphic : left.Isomorphic right) (path other : PackagePath)
    {entry : PackagePath × HashNode} (member : entry ∈ left.walk path) :
    ∃ partner ∈ right.walk other, entry.2.Isomorphic partner.2 := by
  obtain ⟨partners, order, pairs⟩ := isomorphic.exists_pairs_walk path other
  obtain ⟨index, bound, rfl⟩ := List.getElem_of_mem member
  have inPartners : index < partners.length := by rwa [← pairs.length_eq]
  refine ⟨partners[index], order.mem_iff.1 (List.getElem_mem inPartners), ?_⟩
  exact pairs.get bound inPartners

end

end LibraryDetection.HashNode

namespace LibraryDetection.HashTree

variable {left right : HashTree}

theorem class_hash_bag_eq_of_isomorphic (alike : left.root.Isomorphic right.root) :
    (left.classHashBag : Multiset String) = right.classHashBag :=
  Multiset.coe_eq_coe.2 (alike.flatMap_class_hashes_perm left.rootPath right.rootPath)

theorem node_hash_bag_eq_of_isomorphic (leftHashed : left.root.Hashed)
    (rightHashed : right.root.Hashed) (alike : left.root.Isomorphic right.root) :
    (left.nodeHashBag : Multiset String) = right.nodeHashBag := by
  let read (node : HashNode) : Bool × String := (!node.classHashes.isEmpty, node.nodeHash)
  have bag : ∀ tree : HashTree, tree.nodeHashBag =
      ((tree.nodes.map fun entry => read entry.2).filter (·.1)).map (·.2) := by
    intro tree
    simp only [nodeHashBag, occupied, List.filter_map, List.map_map]
    rfl
  have agrees : ∀ a b : HashNode, a.Hashed → b.Hashed → a.Isomorphic b → read a = read b := by
    intro a b aHashed bHashed pair
    simp only [read, pair.class_hashes_perm.isEmpty_eq, (pair.hashes_eq aHashed bHashed).1]
  rw [bag left, bag right, Multiset.coe_eq_coe]
  apply List.Perm.map
  apply List.Perm.filter
  exact alike.map_walk_perm read agrees leftHashed rightHashed left.rootPath right.rootPath

end LibraryDetection.HashTree

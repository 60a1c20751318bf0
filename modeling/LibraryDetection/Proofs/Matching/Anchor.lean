import LibraryDetection.Proofs.HashTree.Lookup
import LibraryDetection.Proofs.Matching.Alignment
import LibraryDetection.Proofs.Matching.Evidence

/-!
# Anchors

The place of a reference is found in one pass over the packages of its depth, which ends as
soon as nothing better can follow.  It is the place of a best alignment: that at the path of
the reference if it is a best one, and otherwise the first of them.
-/

namespace LibraryDetection

set_option autoImplicit false

namespace HashTree

def better (reference : HashTree) (best : Anchor) (entry : PackagePath × HashNode) : Anchor :=
  if best.matched < reference.root.align entry.2 then
    ⟨reference.root.align entry.2, some entry.1⟩
  else best

/-- The nodes with a class at or below them whose paths have a number of segments. -/
def countedAt (query : HashTree) (depth : Nat) : List (PackagePath × HashNode) :=
  query.nodes.filter fun entry => 0 < entry.2.classCount ∧ entry.1.length = depth

end HashTree

/-- The anchor is the best alignment of the reference with any of the nodes.  Among equal
ones that at the path of the reference is taken, and otherwise the first in the order of
paths. -/
structure Anchor.IsBest (found : Anchor) (reference : HashTree)
    (nodes : List (PackagePath × HashNode)) : Prop where
  matched : found.matched = (nodes.map fun entry => reference.root.align entry.2).max?.getD 0
  path_eq_none_iff : found.path = none ↔ found.matched = 0
  attained : ∀ path, found.path = some path →
    ∃ node, (path, node) ∈ nodes ∧ reference.root.align node = found.matched
  own : found.matched ≠ 0 → ∀ node, (reference.rootPath, node) ∈ nodes →
    reference.root.align node = found.matched → found.path = some reference.rootPath
  first : (∀ node, (reference.rootPath, node) ∈ nodes →
      reference.root.align node ≠ found.matched) →
    ∀ path, found.path = some path →
      ∀ entry ∈ nodes, reference.root.align entry.2 = found.matched → path ≤ entry.1

section Pass

variable {reference : HashTree} (hashed : reference.root.Hashed)

include hashed

theorem foldl_better_of_full (entries : List (PackagePath × HashNode)) {best : Anchor}
    (full : best.matched = reference.classCount) : entries.foldl reference.better best = best := by
  induction entries with
  | nil => rfl
  | cons entry rest ih =>
      have bound : reference.root.align entry.2 ≤ reference.classCount :=
        HashNode.align_le_class_count hashed entry.2
      have kept : reference.better best entry = best := by
        rw [HashTree.better, if_neg (by omega)]
      rw [List.foldl_cons, kept, ih]

theorem best_anchor_eq_foldl (entries : List (PackagePath × HashNode)) (best : Anchor) :
    bestAnchor reference best entries = entries.foldl reference.better best := by
  induction entries generalizing best with
  | nil => rfl
  | cons entry rest ih =>
      rw [List.foldl_cons, bestAnchor, HashTree.better]
      split
      · split
        · rename_i full
          exact (foldl_better_of_full hashed rest full).symm
        · exact ih _
      · exact ih best

end Pass

/-- What is known after some nodes: none is better than the best one, and all before it are
worse. -/
structure Leads (reference : HashTree) (met : List (PackagePath × HashNode)) (best : Anchor) :
    Prop where
  bound : ∀ entry ∈ met, reference.root.align entry.2 ≤ best.matched
  place : best = ⟨0, none⟩ ∨ ∃ before entry after, met = before ++ entry :: after ∧
    best = ⟨reference.root.align entry.2, some entry.1⟩ ∧ 0 < reference.root.align entry.2 ∧
      ∀ other ∈ before, reference.root.align other.2 < reference.root.align entry.2

variable {reference : HashTree} {met nodes : List (PackagePath × HashNode)} {best found : Anchor}

theorem leads_nil (reference : HashTree) : Leads reference [] ⟨0, none⟩ where
  bound := by simp
  place := .inl rfl

theorem Leads.matched_nonneg (leads : Leads reference met best) : 0 ≤ best.matched := by
  cases leads.place with
  | inl none => simp [none]
  | inr placed =>
      obtain ⟨_, entry, _, _, same, positive, _⟩ := placed
      rw [same]
      exact Int.le_of_lt positive

theorem Leads.better (leads : Leads reference met best) (entry : PackagePath × HashNode) :
    Leads reference (met ++ [entry]) (reference.better best entry) := by
  have nonneg := leads.matched_nonneg
  rw [HashTree.better]
  split
  case isTrue higher =>
    constructor
    · intro other member
      cases List.mem_append.1 member with
      | inl before => exact Int.le_of_lt (Int.lt_of_le_of_lt (leads.bound other before) higher)
      | inr last => rw [List.mem_singleton.1 last]
    · refine .inr ⟨met, entry, [], rfl, rfl, Int.lt_of_le_of_lt nonneg higher, ?_⟩
      intro other before
      exact Int.lt_of_le_of_lt (leads.bound other before) higher
  case isFalse notHigher =>
    constructor
    · intro other member
      cases List.mem_append.1 member with
      | inl before => exact leads.bound other before
      | inr last =>
          rw [List.mem_singleton.1 last]
          exact Int.not_lt.1 notHigher
    · cases leads.place with
      | inl none => exact .inl none
      | inr placed =>
          obtain ⟨before, leader, after, rfl, same, positive, worse⟩ := placed
          refine .inr ⟨before, leader, after ++ [entry], ?_, same, positive, worse⟩
          simp

theorem Leads.foldl (leads : Leads reference met best)
    (entries : List (PackagePath × HashNode)) :
    Leads reference (met ++ entries) (entries.foldl reference.better best) := by
  induction entries generalizing met best with
  | nil =>
      rw [List.append_nil]
      exact leads
  | cons entry rest ih =>
      have later := ih (leads.better entry)
      rw [List.append_assoc] at later
      exact later

def ComesFirst (reference : HashTree) (a b : PackagePath × HashNode) : Prop :=
  a.1 = reference.rootPath ∨ b.1 ≠ reference.rootPath ∧ a.1 ≤ b.1

/-- The candidates are sorted by whether they stand at the path of the reference, and keep
their order otherwise. -/
theorem anchor_candidates_eq_sort_by (reference : HashTree) (index : QueryIndex) :
    anchorCandidates reference index =
      sortBy (fun a b => decide (a.1 = reference.rootPath) || !decide (b.1 = reference.rootPath))
        (index.atDepth reference.rootPath.length) := by
  rw [sort_by_flag fun entry : PackagePath × HashNode => decide (entry.1 = reference.rootPath),
    anchorCandidates]
  simp only [ne_eq, decide_not]

theorem anchor_candidates_perm (reference : HashTree) (index : QueryIndex) :
    (anchorCandidates reference index).Perm (index.atDepth reference.rootPath.length) := by
  rw [anchor_candidates_eq_sort_by]
  exact sort_by_perm _ _

theorem pairwise_anchor_candidates (reference : HashTree) (index : QueryIndex)
    (rising : index.counted.Pairwise fun a b => a.1 < b.1) :
    (anchorCandidates reference index).Pairwise (ComesFirst reference) := by
  have ownPath : ∀ entry ∈ (index.atDepth reference.rootPath.length).filter
      (fun entry => entry.1 = reference.rootPath), entry.1 = reference.rootPath := by
    simp
  rw [anchorCandidates, List.pairwise_append]
  refine ⟨?_, ?_, ?_⟩
  · apply List.pairwise_of_forall_mem_list
    intro a isOwn b _
    exact .inl (ownPath a isOwn)
  · have others := (rising.filter (fun entry => entry.1.length = reference.rootPath.length)).filter
      (fun entry => entry.1 ≠ reference.rootPath)
    apply others.imp_of_mem
    intro a b _ isOther before
    exact .inr ⟨by simpa using List.of_mem_filter isOther, le_of_lt before⟩
  · intro a isOwn b _
    exact .inl (ownPath a isOwn)

theorem max?_getD_of_mem {scores : List Int} {score : Int} (member : score ∈ scores)
    (bound : ∀ other ∈ scores, other ≤ score) : scores.max?.getD 0 = score := by
  rw [List.max?_eq_some_iff.2 ⟨member, bound⟩]
  rfl

theorem Leads.matched_eq (leads : Leads reference met best) (hashed : reference.root.Hashed)
    (same : met.Perm nodes) :
    best.matched = (nodes.map fun entry => reference.root.align entry.2).max?.getD 0 := by
  have bound : ∀ score ∈ nodes.map fun entry => reference.root.align entry.2,
      score ≤ best.matched := by
    intro score member
    obtain ⟨entry, isNode, rfl⟩ := List.mem_map.1 member
    exact leads.bound entry (same.mem_iff.2 isNode)
  cases leads.place with
  | inl none =>
      cases nodes with
      | nil => simp [none]
      | cons entry others =>
          -- No alignment is negative, so that a node without an alignment has the largest one.
          have atMost := bound _ List.mem_cons_self
          have least := HashNode.align_nonneg hashed entry.2
          have reached : best.matched = reference.root.align entry.2 := by
            simp only [none] at atMost ⊢
            omega
          symm
          apply max?_getD_of_mem _ bound
          rw [reached]
          exact List.mem_cons_self
  | inr placed =>
      obtain ⟨before, leader, after, split, atLeader, _⟩ := placed
      have isNode : leader ∈ nodes := same.mem_iff.1 (by simp [split])
      symm
      apply max?_getD_of_mem _ bound
      rw [atLeader]
      exact List.mem_map_of_mem (f := fun entry => reference.root.align entry.2) isNode

theorem comes_first_of_equal {before after : List (PackagePath × HashNode)}
    {leader entry : PackagePath × HashNode}
    (ordered : (before ++ leader :: after).Pairwise (ComesFirst reference))
    (worse : ∀ other ∈ before, reference.root.align other.2 < reference.root.align leader.2)
    (listed : entry ∈ before ++ leader :: after)
    (equal : reference.root.align entry.2 = reference.root.align leader.2) :
    entry = leader ∨ ComesFirst reference leader entry := by
  cases List.mem_append.1 listed with
  | inl earlier => exact absurd equal (Int.ne_of_lt (worse entry earlier))
  | inr rest =>
      cases List.mem_cons.1 rest with
      | inl here => exact .inl here
      | inr later =>
          have behind := (List.pairwise_append.1 ordered).2.1
          exact .inr (List.rel_of_pairwise_cons behind later)

theorem Leads.is_best (leads : Leads reference met found) (hashed : reference.root.Hashed)
    (ordered : met.Pairwise (ComesFirst reference)) (same : met.Perm nodes) :
    found.IsBest reference nodes := by
  have largest := leads.matched_eq hashed same
  cases leads.place with
  | inl none =>
      -- nothing was aligned anywhere, so that no place is to be compared with another
      subst none
      constructor
      case matched => exact largest
      case path_eq_none_iff => simp
      case attained => simp
      case own => simp
      case first => simp
  | inr placed =>
      obtain ⟨before, leader, after, split, rfl, positive, worse⟩ := placed
      have isNode : leader ∈ nodes := same.mem_iff.1 (by simp [split])
      rw [split] at ordered
      -- an equal node cannot stand before the leader, where all are worse
      have behind : ∀ entry ∈ nodes,
          reference.root.align entry.2 = reference.root.align leader.2 →
            entry = leader ∨ ComesFirst reference leader entry := by
        intro entry member equal
        have listed := same.mem_iff.2 member
        rw [split] at listed
        exact comes_first_of_equal ordered worse listed equal
      constructor
      case matched => exact largest
      case path_eq_none_iff => simp [Int.ne_of_gt positive]
      case attained =>
        intro path placed
        cases placed
        exact ⟨leader.2, isNode, rfl⟩
      case own =>
        intro _ node member equal
        cases behind _ member equal with
        | inl here => rw [← here]
        | inr order =>
            cases order with
            | inl atOwn => rw [atOwn]
            | inr elsewhere => exact absurd rfl elsewhere.1
      case first =>
        intro noOwn path placed entry member equal
        cases placed
        cases behind entry member equal with
        | inl here => rw [here]
        | inr order =>
            cases order with
            | inl atOwn => exact absurd rfl (noOwn leader.2 (atOwn ▸ isNode))
            | inr elsewhere => exact elsewhere.2

namespace HashTree

theorem at_depth_of_tree {query : HashTree} (built : query.Built) (depth : Nat) :
    (QueryIndex.ofTree query).atDepth depth = query.countedAt depth := by
  rw [QueryIndex.atDepth, QueryIndex.ofTree, List.filter_filter, countedAt]
  apply List.filter_congr
  intro entry member
  have nonneg := (built.hashed_of_mem member).class_count_nonneg
  have counted : entry.2.classCount ≠ 0 ↔ 0 < entry.2.classCount := by omega
  simp [counted, and_comm]

variable {packages : PackageTree} {options : HashOptions} {root : PackagePath}
  {reference query : HashTree}

theorem rising_counted (wellFormed : packages.root.WellFormed)
    (made : packages.hashTreeAt options root = .ok query) :
    (QueryIndex.ofTree query).counted.Pairwise fun a b => a.1 < b.1 :=
  (rising_nodes wellFormed made).filter _

/-- The anchor in a query is the best place among the nodes of the depth of the reference
that count a class, and the early end of the search has no part in it.  Every package tree that
is grown from classes is well-formed. -/
theorem anchor_is_best (referenceBuilt : reference.Built) (wellFormed : packages.root.WellFormed)
    (made : packages.hashTreeAt options root = .ok query) :
    (anchor reference (QueryIndex.ofTree query)).IsBest reference
        (query.countedAt reference.rootPath.length) ∧
      anchor reference (QueryIndex.ofTree query) =
        (anchorCandidates reference (QueryIndex.ofTree query)).foldl reference.better
          ⟨0, none⟩ := by
  have hashed := referenceBuilt.hashed_root
  have noEarlyEnd := best_anchor_eq_foldl hashed
    (anchorCandidates reference (QueryIndex.ofTree query)) ⟨0, none⟩
  have ordered := pairwise_anchor_candidates reference (QueryIndex.ofTree query)
    (rising_counted wellFormed made)
  have listed := anchor_candidates_perm reference (QueryIndex.ofTree query)
  rw [at_depth_of_tree ⟨packages, options, root, made⟩] at listed
  have leads := (leads_nil reference).foldl (anchorCandidates reference (QueryIndex.ofTree query))
  refine ⟨?_, noEarlyEnd⟩
  rw [anchor, noEarlyEnd]
  exact leads.is_best hashed ordered listed

def codecAt (segment : String) : HashTree :=
  ⟨[segment], HashNode.ofPackage {} ⟨segment, codecIn [[segment]], []⟩, {}⟩

theorem anchor_is_best_of_equal_packages :
    (anchor (codecAt "b")
        (QueryIndex.ofTree ((codecPackages ["a", "b"]).wholeHashTree {}))).IsBest (codecAt "b")
      (((codecPackages ["a", "b"]).wholeHashTree {}).countedAt 1) := by
  have grown : PackageTree.ofClasses (codecIn [["a"], ["b"]]) = .ok (codecPackages ["a", "b"]) :=
    rfl
  have wellFormed := PackageTree.well_formed_of_of_classes grown
  have built : (codecAt "b").Built := ⟨codecPackages ["b"], {}, ["b"], rfl⟩
  exact (anchor_is_best built wellFormed (PackageTree.hash_tree_at_nil _ {})).1

/-- Of equal packages that at the path of the reference is taken, or else the first. -/
example :
    (anchor (codecAt "b") (QueryIndex.ofTree ((codecPackages ["a", "b"]).wholeHashTree {}))).path =
        some ["b"] ∧
      (anchor (codecAt "c")
          (QueryIndex.ofTree ((codecPackages ["a", "b"]).wholeHashTree {}))).path =
        some ["a"] := by
  decide +kernel

end HashTree

end LibraryDetection

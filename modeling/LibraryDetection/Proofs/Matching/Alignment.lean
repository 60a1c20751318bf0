import LibraryDetection.Matching.Alignment
import LibraryDetection.Proofs.Collection.Sorted
import LibraryDetection.Proofs.Collection.Total
import LibraryDetection.Proofs.HashTree.Hashing

/-!
# Pairing and alignment

The pairs of two groups of packages use each package at most once, so that the classes that
are aligned with an application are never more than those of the library.
-/

namespace LibraryDetection

set_option autoImplicit false

section Pairing

variable {α β : Type}

theorem exists_parts_of_take_first {passes : α → Bool} {items left : List α} {found : α}
    (taken : takeFirst passes items = some (found, left)) :
    ∃ before after, items = before ++ found :: after ∧ left = before ++ after ∧
      passes found = true ∧ ∀ item ∈ before, passes item = false := by
  induction items generalizing left with
  | nil => simp [takeFirst] at taken
  | cons head tail ih =>
      rw [takeFirst] at taken
      split at taken
      · rename_i passed
        obtain ⟨rfl, rfl⟩ := Prod.mk.inj (Option.some.inj taken)
        exact ⟨[], tail, rfl, rfl, passed, by simp⟩
      · rename_i missed
        obtain ⟨⟨other, rest⟩, inTail, same⟩ := Option.map_eq_some_iff.1 taken
        obtain ⟨rfl, rfl⟩ := Prod.mk.inj same
        obtain ⟨before, after, rfl, rfl, passed, refused⟩ := ih inTail
        refine ⟨head :: before, after, rfl, rfl, passed, ?_⟩
        exact List.forall_mem_cons.2 ⟨eq_false_of_ne_true missed, refused⟩

theorem take_first_perm {passes : α → Bool} {items left : List α} {found : α}
    (taken : takeFirst passes items = some (found, left)) : (found :: left).Perm items := by
  obtain ⟨before, after, rfl, rfl, _, _⟩ := exists_parts_of_take_first taken
  exact List.perm_middle.symm

structure Pairing.Splits (pairing : Pairing α) (references : List α) (queries : List HashNode) :
    Prop where
  references : (pairing.pairs.map Prod.fst ++ pairing.references).Perm references
  queries : (pairing.pairs.map Prod.snd ++ pairing.queries).Perm queries

theorem pair_where_splits (fits : α → HashNode → Bool) (references : List α)
    (queries : List HashNode) :
    (pairWhere fits references queries).Splits references queries := by
  induction references generalizing queries with
  | nil =>
      constructor
      · exact List.Perm.refl _
      · exact List.Perm.refl _
  | cons reference others ih =>
      rw [pairWhere]
      split
      · rename_i query left taken
        have rest := ih left
        constructor
        · exact List.Perm.cons reference rest.references
        · exact (List.Perm.cons query rest.queries).trans (take_first_perm taken)
      · have rest := ih queries
        constructor
        · exact List.perm_middle.trans (List.Perm.cons reference rest.references)
        · exact rest.queries

theorem pair_by_rules_splits (node : α → HashNode) (rules : List PairRule) (references : List α)
    (queries : List HashNode) :
    (pairByRules node rules references queries).Splits references queries := by
  induction rules generalizing references queries with
  | nil =>
      constructor
      · exact List.Perm.refl _
      · exact List.Perm.refl _
  | cons rule rules ih =>
      rw [pairByRules]
      have first := pair_where_splits (fun reference query => rule (node reference) query)
        references queries
      generalize pairWhere (fun reference query => rule (node reference) query)
        references queries = paired at first
      have rest := ih paired.references paired.queries
      constructor
      · rw [List.map_append, List.append_assoc]
        exact (List.Perm.append_left _ rest.references).trans first.references
      · rw [List.map_append, List.append_assoc]
        exact (List.Perm.append_left _ rest.queries).trans first.queries

theorem map_fst_zip_append_drop (left : List α) (right : List β) :
    (left.zip right).map Prod.fst ++ left.drop right.length = left := by
  induction left generalizing right with
  | nil => simp
  | cons head tail ih =>
      cases right with
      | nil => simp
      | cons other others =>
          rw [List.zip_cons_cons, List.map_cons, List.length_cons, List.drop_succ_cons,
            List.cons_append, ih others]

theorem map_snd_zip_append_drop (left : List α) (right : List β) :
    (left.zip right).map Prod.snd ++ right.drop left.length = right := by
  induction right generalizing left with
  | nil => simp
  | cons head tail ih =>
      cases left with
      | nil => simp
      | cons other others =>
          rw [List.zip_cons_cons, List.map_cons, List.length_cons, List.drop_succ_cons,
            List.cons_append, ih others]

theorem pairs_of_splits (node : α → HashNode) (references : List α) (queries : List HashNode) :
    ∃ unpaired free, Pairing.Splits ⟨pairsOf node references queries, unpaired, free⟩
      references queries := by
  have ruled := pair_by_rules_splits node pairRules references queries
  rw [pairsOf]
  generalize pairByRules node pairRules references queries = paired at ruled
  have sortedReferences := sort_by_perm (fun a b => biggerFirst (node a) (node b)) paired.references
  have sortedQueries := sort_by_perm biggerFirst paired.queries
  generalize sortBy (fun a b => biggerFirst (node a) (node b)) paired.references = left
    at sortedReferences
  generalize sortBy biggerFirst paired.queries = right at sortedQueries
  refine ⟨left.drop right.length, right.drop left.length, ?_⟩
  constructor
  · rw [List.map_append, List.append_assoc, map_fst_zip_append_drop]
    exact (List.Perm.append_left _ sortedReferences).trans ruled.references
  · rw [List.map_append, List.append_assoc, map_snd_zip_append_drop]
    exact (List.Perm.append_left _ sortedQueries).trans ruled.queries

theorem mem_of_mem_pair_children {references queries : List HashNode}
    {pair : HashNode × HashNode} (member : pair ∈ pairChildren references queries) :
    pair.1 ∈ references ∧ pair.2 ∈ queries := by
  obtain ⟨unpaired, free, splits⟩ := pairs_of_splits id references queries
  constructor
  · apply splits.references.mem_iff.1
    exact List.mem_append_left _ (List.mem_map_of_mem (f := Prod.fst) member)
  · apply splits.queries.mem_iff.1
    exact List.mem_append_left _ (List.mem_map_of_mem (f := Prod.snd) member)

theorem pair_where_map (along : β → α) (fits : α → HashNode → Bool) (references : List β)
    (queries : List HashNode) :
    pairWhere fits (references.map along) queries =
      let paired := pairWhere (fun reference query => fits (along reference) query)
        references queries
      ⟨paired.pairs.map (Prod.map along id), paired.references.map along, paired.queries⟩ := by
  induction references generalizing queries with
  | nil => rfl
  | cons reference others ih =>
      rw [List.map_cons, pairWhere, pairWhere]
      split
      · rename_i query left taken
        simp only [ih, taken, List.map_cons, Prod.map_apply, id_eq]
      · rename_i taken
        simp only [ih, taken, List.map_cons]

theorem pair_by_rules_map (along : β → α) (node : α → HashNode) (rules : List PairRule)
    (references : List β) (queries : List HashNode) :
    pairByRules node rules (references.map along) queries =
      let paired := pairByRules (fun reference => node (along reference)) rules
        references queries
      ⟨paired.pairs.map (Prod.map along id), paired.references.map along, paired.queries⟩ := by
  induction rules generalizing references queries with
  | nil => rfl
  | cons rule rules ih =>
      rw [pairByRules, pairByRules, pair_where_map]
      simp only [ih, List.map_append]

theorem pairs_of_map (along : β → α) (node : α → HashNode) (references : List β)
    (queries : List HashNode) :
    pairsOf node (references.map along) queries =
      (pairsOf (fun reference => node (along reference)) references queries).map
        (Prod.map along id) := by
  rw [pairsOf, pair_by_rules_map]
  simp only [sort_by_map, List.zip_map_left, pairsOf, List.map_append]

end Pairing

namespace HashNode

theorem aligners_eq (children : List HashNode) :
    aligners children = children.map fun child => (child, child.align) := by
  induction children with
  | nil => rfl
  | cons child others ih =>
      rw [aligners, ih, List.map_cons]

theorem align_eq (reference query : HashNode) :
    reference.align query =
      if reference.subtreeHash = query.subtreeHash then reference.classCount
      else reference.sharedClasses query +
        total (fun pair => pair.1.align pair.2)
          (pairChildren reference.children query.children) := by
  obtain ⟨segment, nodeHash, subtreeHash, classHashes, classCount, children⟩ := reference
  rw [align, aligners_eq, pairs_of_map, total_map]
  rfl

theorem shared_classes_le (reference query : HashNode) :
    reference.sharedClasses query ≤ reference.directCount := by
  rw [sharedClasses]
  split
  · exact Nat.le_refl _
  · exact Bag.shared_size_le_left _ _

theorem align_nonneg {reference : HashNode} (hashed : reference.Hashed) (query : HashNode) :
    0 ≤ reference.align query := by
  induction reference generalizing query with
  | node segment nodeHash subtreeHash classHashes classCount children ih =>
      rw [align_eq]
      split
      · exact hashed.class_count_nonneg
      · apply Int.add_nonneg
        · exact Int.natCast_nonneg _
        · apply total_nonneg
          intro pair member
          have isChild := (mem_of_mem_pair_children member).1
          exact ih pair.1 isChild (hashed.within pair.1 isChild) pair.2

theorem align_le_class_count {reference : HashNode} (hashed : reference.Hashed)
    (query : HashNode) : reference.align query ≤ reference.classCount := by
  induction reference generalizing query with
  | node segment nodeHash subtreeHash classHashes classCount children ih =>
      rw [align_eq]
      split
      · exact Int.le_refl _
      · obtain ⟨unpaired, free, splits⟩ := pairs_of_splits id children query.children
        have paired : total (fun pair => pair.1.align pair.2)
              (pairChildren children query.children) ≤
            total HashNode.classCount ((pairChildren children query.children).map Prod.fst) := by
          rw [total_map]
          apply total_le_total
          intro pair member
          have isChild := (mem_of_mem_pair_children member).1
          exact ih pair.1 isChild (hashed.within pair.1 isChild) pair.2
        have whole :
            total HashNode.classCount (_ ++ unpaired) = total HashNode.classCount children :=
          total_perm splits.references
        have others : 0 ≤ total HashNode.classCount unpaired := by
          apply total_nonneg
          intro node member
          have isChild : node ∈ children :=
            splits.references.mem_iff.1 (List.mem_append_right _ member)
          exact (hashed.within node isChild).class_count_nonneg
        have own := shared_classes_le ⟨segment, nodeHash, subtreeHash, classHashes, classCount,
          children⟩ query
        have sum := hashed.class_count_eq
        rw [total_append] at whole
        simp only [directCount, pairChildren] at own sum paired whole ⊢
        omega

end HashNode

theorem best_anchor_bounds {reference : HashTree} (hashed : reference.root.Hashed)
    (candidates : List (PackagePath × HashNode)) {best : Anchor} (nonneg : 0 ≤ best.matched)
    (bound : best.matched ≤ reference.classCount) :
    0 ≤ (bestAnchor reference best candidates).matched ∧
      (bestAnchor reference best candidates).matched ≤ reference.classCount := by
  induction candidates generalizing best with
  | nil => exact ⟨nonneg, bound⟩
  | cons entry rest ih =>
      obtain ⟨path, node⟩ := entry
      have least := HashNode.align_nonneg hashed node
      have most := HashNode.align_le_class_count hashed node
      rw [bestAnchor]
      split
      · split
        · exact ⟨least, most⟩
        · exact ih least most
      · exact ih nonneg bound

theorem anchor_bounds {reference : HashTree} (built : reference.Built) (index : QueryIndex) :
    0 ≤ (anchor reference index).matched ∧
      (anchor reference index).matched ≤ reference.classCount := by
  have hashed := built.hashed_root
  exact best_anchor_bounds hashed _ (Int.le_refl 0) hashed.class_count_nonneg

theorem align_trees_bounds {trees : List HashTree} (built : ∀ tree ∈ trees, tree.Built)
    (index : QueryIndex) :
    0 ≤ (alignTrees index trees).matched ∧
      (alignTrees index trees).matched ≤ total HashTree.classCount trees := by
  induction trees with
  | nil => exact ⟨Int.le_refl 0, Int.le_refl 0⟩
  | cons tree trees ih =>
      have first := anchor_bounds (built tree List.mem_cons_self) index
      have rest := ih fun other member => built other (List.mem_cons_of_mem tree member)
      simp only [alignTrees, total]
      omega

theorem matched_best_anchor (reference : HashTree) (candidates : List (PackagePath × HashNode))
    (best : Anchor) :
    (bestAnchor reference best candidates).matched = best.matched ∨
      ∃ entry ∈ candidates,
        (bestAnchor reference best candidates).matched = reference.root.align entry.2 := by
  induction candidates generalizing best with
  | nil => exact .inl rfl
  | cons entry rest ih =>
      obtain ⟨path, node⟩ := entry
      have later : ∀ next : Anchor,
          (bestAnchor reference next rest).matched = next.matched ∨
            ∃ entry ∈ (path, node) :: rest,
              (bestAnchor reference next rest).matched = reference.root.align entry.2 := by
        intro next
        rcases ih next with same | ⟨other, member, found⟩
        · exact .inl same
        · exact .inr ⟨other, List.mem_cons_of_mem _ member, found⟩
      rw [bestAnchor]
      split
      · split
        · exact .inr ⟨(path, node), List.mem_cons_self, rfl⟩
        · rcases later ⟨reference.root.align node, some path⟩ with same | found
          · exact .inr ⟨(path, node), List.mem_cons_self, same⟩
          · exact .inr found
      · exact later best

theorem mem_nodes_of_mem_anchor_candidates {reference query : HashTree}
    {entry : PackagePath × HashNode}
    (member : entry ∈ anchorCandidates reference (QueryIndex.ofTree query)) :
    entry ∈ query.nodes := by
  have candidate : entry ∈ (QueryIndex.ofTree query).atDepth reference.rootPath.length := by
    rcases List.mem_append.1 member with first | other
    · exact List.mem_of_mem_filter first
    · exact List.mem_of_mem_filter other
  exact List.mem_of_mem_filter (List.mem_of_mem_filter candidate)

theorem matched_anchor (reference query : HashTree) :
    (anchor reference (QueryIndex.ofTree query)).matched = 0 ∨
      ∃ entry ∈ query.nodes, (anchor reference (QueryIndex.ofTree query)).matched =
        reference.root.align entry.2 := by
  rcases matched_best_anchor reference (anchorCandidates reference (QueryIndex.ofTree query))
    ⟨0, none⟩ with nothing | ⟨entry, member, found⟩
  · exact .inl nothing
  · exact .inr ⟨entry, mem_nodes_of_mem_anchor_candidates member, found⟩

theorem exists_aligned_of_anchor {reference query : HashTree}
    (aligned : (anchor reference (QueryIndex.ofTree query)).matched ≠ 0) :
    ∃ entry ∈ query.nodes, reference.root.align entry.2 ≠ 0 := by
  rcases matched_anchor reference query with nothing | ⟨entry, inQuery, found⟩
  · exact absurd nothing aligned
  · rw [found] at aligned
    exact ⟨entry, inQuery, aligned⟩

theorem exists_aligned_of_align_trees {trees : List HashTree} {query : HashTree}
    (aligned : (alignTrees (QueryIndex.ofTree query) trees).matched ≠ 0) :
    ∃ tree ∈ trees, ∃ entry ∈ query.nodes, tree.root.align entry.2 ≠ 0 := by
  induction trees with
  | nil => exact absurd rfl aligned
  | cons tree trees ih =>
      by_cases first : (anchor tree (QueryIndex.ofTree query)).matched = 0
      · have rest : (alignTrees (QueryIndex.ofTree query) trees).matched ≠ 0 := by
          intro zero
          simp only [alignTrees] at aligned
          omega
        obtain ⟨other, member, found⟩ := ih rest
        exact ⟨other, List.mem_cons_of_mem tree member, found⟩
      · exact ⟨tree, List.mem_cons_self, exists_aligned_of_anchor first⟩

end LibraryDetection

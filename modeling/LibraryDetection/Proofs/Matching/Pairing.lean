import LibraryDetection.Proofs.HashTree.Places
import LibraryDetection.Proofs.Matching.Alignment

/-!
# Pairs by equal keys

Two groups are paired key by key: of each key the first ones on either side go together, and
what is left over is the rest of the larger side.
-/

namespace LibraryDetection

set_option autoImplicit false

variable {α κ : Type} [DecidableEq κ]

theorem take_first_eq_none_iff (passes : α → Bool) (items : List α) :
    takeFirst passes items = none ↔ ∀ item ∈ items, passes item = false := by
  induction items with
  | nil => simp [takeFirst]
  | cons head tail ih =>
      rw [takeFirst, List.forall_mem_cons]
      split
      · simp [*]
      · simp [*]

theorem filter_of_take_first {keyOf : α → κ} {wanted : κ} {items left : List α} {found : α}
    (taken : takeFirst (fun item => wanted = keyOf item) items = some (found, left)) (kept : κ) :
    items.filter (keyOf · = kept) =
      if wanted = kept then found :: left.filter (keyOf · = kept)
      else left.filter (keyOf · = kept) := by
  obtain ⟨before, after, rfl, rfl, passed, refused⟩ := exists_parts_of_take_first taken
  have fits : wanted = keyOf found := of_decide_eq_true passed
  rw [List.filter_append, List.filter_append, List.filter_cons, ← fits]
  split
  case isTrue same =>
    have others : before.filter (keyOf · = kept) = [] := by
      rw [List.filter_eq_nil_iff]
      intro item isBefore isKept
      have unfit : wanted ≠ keyOf item := of_decide_eq_false (refused item isBefore)
      exact unfit ((of_decide_eq_true same).trans (of_decide_eq_true isKept).symm)
    rw [others, if_pos (of_decide_eq_true same)]
    rfl
  case isFalse apart =>
    rw [if_neg (by simpa using apart)]

theorem fits_of_mem_pair_where {fits : α → HashNode → Bool} {references : List α}
    {queries : List HashNode} {pair : α × HashNode}
    (member : pair ∈ (pairWhere fits references queries).pairs) : fits pair.1 pair.2 = true := by
  induction references generalizing queries with
  | nil => simp [pairWhere] at member
  | cons reference others ih =>
      rw [pairWhere] at member
      split at member
      · rename_i query left taken
        rcases List.mem_cons.1 member with here | later
        · rw [here]
          obtain ⟨_, _, _, _, passed, _⟩ := exists_parts_of_take_first taken
          exact passed
        · exact ih later
      · exact ih member

section Keyed

variable {key : α → κ} {other : HashNode → κ}

theorem filter_eq_nil_of_take_first {wanted : κ} {queries : List HashNode}
    (missed : takeFirst (fun query => wanted = other query) queries = none) :
    queries.filter (other · = wanted) = [] := by
  rw [List.filter_eq_nil_iff]
  intro query isQuery same
  have unfit := (take_first_eq_none_iff _ _).1 missed query isQuery
  rw [of_decide_eq_true same, decide_eq_false_iff_not] at unfit
  exact unfit rfl

theorem filter_references_pair_where (references : List α) (queries : List HashNode) (kept : κ) :
    (pairWhere (fun reference query => key reference = other query) references
        queries).references.filter (key · = kept) =
      (references.filter (key · = kept)).drop (queries.countP (other · = kept)) := by
  induction references generalizing queries with
  | nil => simp [pairWhere]
  | cons reference others ih =>
      rw [pairWhere]
      split
      case h_1 query left taken =>
        have sizes := congrArg List.length (filter_of_take_first taken kept)
        rw [ih left, List.filter_cons, List.countP_eq_length_filter,
          List.countP_eq_length_filter, sizes]
        by_cases here : key reference = kept <;> simp [here]
      case h_2 missed =>
        rw [List.filter_cons, ih queries, List.filter_cons]
        by_cases here : key reference = kept
        · have absent := congrArg List.length (filter_eq_nil_of_take_first missed)
          rw [← List.countP_eq_length_filter, here] at absent
          simp [here, absent]
        · simp [here]

theorem filter_queries_pair_where (references : List α) (queries : List HashNode) (kept : κ) :
    (pairWhere (fun reference query => key reference = other query) references
        queries).queries.filter (other · = kept) =
      (queries.filter (other · = kept)).drop (references.countP (key · = kept)) := by
  induction references generalizing queries with
  | nil => simp [pairWhere]
  | cons reference others ih =>
      rw [pairWhere, List.countP_cons]
      split
      case h_1 query left taken =>
        rw [ih left, filter_of_take_first taken kept]
        by_cases here : key reference = kept <;> simp [here]
      case h_2 missed =>
        rw [ih queries]
        by_cases here : key reference = kept
        · have absent := filter_eq_nil_of_take_first missed
          rw [here] at absent
          simp [here, absent]
        · simp [here]

/-- A reference is left over when it stands behind as many of its key as there are queries
with that key. -/
theorem mem_references_pair_where_iff {references : List α} {queries : List HashNode}
    {reference : α} :
    reference ∈ (pairWhere (fun reference query => key reference = other query) references
        queries).references ↔
      reference ∈ (references.filter (key · = key reference)).drop
        (queries.countP (other · = key reference)) := by
  rw [← filter_references_pair_where, List.mem_filter]
  simp

theorem mem_queries_pair_where_iff {references : List α} {queries : List HashNode}
    {query : HashNode} :
    query ∈ (pairWhere (fun reference query => key reference = other query) references
        queries).queries ↔
      query ∈ (queries.filter (other · = other query)).drop
        (references.countP (key · = other query)) := by
  rw [← filter_queries_pair_where, List.mem_filter]
  simp

theorem pair_where_complete {references : List α} {queries : List HashNode}
    (same : (references.map key).Perm (queries.map other)) :
    (pairWhere (fun reference query => key reference = other query) references queries).references
        = [] ∧
      (pairWhere (fun reference query => key reference = other query) references queries).queries
        = [] := by
  have sizes : ∀ kept, references.countP (key · = kept) = queries.countP (other · = kept) := by
    intro kept
    have counts := same.countP_eq (· = kept)
    rw [List.countP_map, List.countP_map] at counts
    exact counts
  constructor
  · apply List.eq_nil_iff_forall_not_mem.2
    intro reference left
    rw [mem_references_pair_where_iff, ← sizes, List.countP_eq_length_filter,
      List.drop_length] at left
    exact absurd left List.not_mem_nil
  · apply List.eq_nil_iff_forall_not_mem.2
    intro query left
    rw [mem_queries_pair_where_iff, sizes, List.countP_eq_length_filter, List.drop_length] at left
    exact absurd left List.not_mem_nil

end Keyed

theorem mem_drop_iff {nodes : List HashNode}
    (rising : nodes.Pairwise fun a b => a.segment < b.segment) {node : HashNode}
    (member : node ∈ nodes) (count : Nat) :
    node ∈ nodes.drop count ↔ count < nodes.countP (·.segment ≤ node.segment) := by
  induction nodes generalizing count with
  | nil => exact absurd member List.not_mem_nil
  | cons head tail ih =>
      obtain ⟨before, tailRising⟩ := List.pairwise_cons.1 rising
      rw [List.countP_cons]
      cases count with
      | zero =>
          have counted : 0 < (head :: tail).countP (·.segment ≤ node.segment) := by
            rw [List.countP_pos_iff]
            exact ⟨node, member, by simp⟩
          rw [List.countP_cons] at counted
          exact iff_of_true member counted
      | succ count =>
          rw [List.drop_succ_cons]
          cases List.mem_cons.1 member with
          | inl here =>
              have behind : tail.countP (·.segment ≤ node.segment) = 0 := by
                rw [List.countP_eq_zero]
                intro other inTail
                rw [here, decide_eq_true_eq]
                exact not_le_of_gt (before other inTail)
              have absent : node ∉ tail.drop count := by
                intro inRest
                rw [here] at inRest
                exact lt_irrefl _ (before head (List.mem_of_mem_drop inRest))
              rw [behind, here]
              simp [here ▸ absent]
          | inr inTail =>
              have counted : head.segment ≤ node.segment := le_of_lt (before node inTail)
              rw [ih tailRising inTail]
              simp [counted]

namespace HashNode

def copies (nodes : List HashNode) (hash : String) : Nat :=
  nodes.countP (·.subtreeHash = hash)

/-- The place of a node among those with its subtree hash, in the order of their names. -/
def copyNumber (nodes : List HashNode) (node : HashNode) : Nat :=
  nodes.countP fun other =>
    other.subtreeHash = node.subtreeHash ∧ other.segment ≤ node.segment

/-- No equal subtree is left for the node: the equal ones among `others` go to the first of
its own side, in the order of their names. -/
def LeftOver (own others : List HashNode) (node : HashNode) : Prop :=
  copies others node.subtreeHash < copyNumber own node

instance (own others : List HashNode) (node : HashNode) : Decidable (LeftOver own others node) :=
  inferInstanceAs (Decidable (_ < _))

theorem mem_drop_copies_iff {own : List HashNode}
    (rising : own.Pairwise fun a b => a.segment < b.segment) (others : List HashNode)
    (node : HashNode) :
    node ∈ (own.filter (·.subtreeHash = node.subtreeHash)).drop
        (others.countP (·.subtreeHash = node.subtreeHash)) ↔
      node ∈ own ∧ LeftOver own others node := by
  by_cases member : node ∈ own
  · have kept : node ∈ own.filter (·.subtreeHash = node.subtreeHash) := by
      simp [member]
    rw [mem_drop_iff (rising.filter _) kept, List.countP_filter, LeftOver, copyNumber, copies]
    simp only [Bool.decide_and, Bool.and_comm, member, true_and]
  · have absent : node ∉ (own.filter (·.subtreeHash = node.subtreeHash)).drop
        (others.countP (·.subtreeHash = node.subtreeHash)) := fun inRest =>
      member (List.mem_of_mem_filter (List.mem_of_mem_drop inRest))
    simp [absent, member]

end HashNode

abbrev pairBySubtree (references queries : List HashNode) : Pairing HashNode :=
  pairWhere (fun reference query => reference.subtreeHash = query.subtreeHash) references queries

abbrev pairByName (references queries : List HashNode) : Pairing HashNode :=
  pairWhere (fun reference query => reference.segment = query.segment) references queries

section TwoRules

variable {references queries : List HashNode}

theorem mem_references_pair_by_subtree_iff
    (rising : references.Pairwise fun a b => a.segment < b.segment) {reference : HashNode} :
    reference ∈ (pairBySubtree references queries).references ↔
      reference ∈ references ∧ HashNode.LeftOver references queries reference := by
  rw [mem_references_pair_where_iff, HashNode.mem_drop_copies_iff rising]

theorem mem_queries_pair_by_subtree_iff
    (rising : queries.Pairwise fun a b => a.segment < b.segment) {query : HashNode} :
    query ∈ (pairBySubtree references queries).queries ↔
      query ∈ queries ∧ HashNode.LeftOver queries references query := by
  rw [mem_queries_pair_where_iff, HashNode.mem_drop_copies_iff rising]

theorem references_pair_by_name_eq_nil (distinct : (references.map (·.segment)).Nodup)
    (named : ∀ reference ∈ references, ∃ query ∈ queries, query.segment = reference.segment) :
    (pairByName references queries).references = [] := by
  apply List.eq_nil_iff_forall_not_mem.2
  intro reference left
  rw [mem_references_pair_where_iff] at left
  obtain ⟨namesake, isQuery, sameName⟩ :=
    named reference (List.mem_of_mem_filter (List.mem_of_mem_drop left))
  have some : 0 < queries.countP (·.segment = reference.segment) := by
    rw [List.countP_pos_iff]
    exact ⟨namesake, isQuery, decide_eq_true sameName⟩
  have single : (references.filter (·.segment = reference.segment)).length ≤ 1 := by
    have once := List.nodup_iff_count_le_one.1 distinct reference.segment
    rw [List.count_eq_countP, List.countP_map] at once
    rw [← List.countP_eq_length_filter]
    exact once
  have none := List.length_pos_of_mem left
  rw [List.length_drop] at none
  omega

theorem pair_children_eq_append
    (complete : (pairByName (pairBySubtree references queries).references
      (pairBySubtree references queries).queries).references = []) :
    pairChildren references queries =
      (pairBySubtree references queries).pairs ++
        (pairByName (pairBySubtree references queries).references
          (pairBySubtree references queries).queries).pairs := by
  simp only [pairChildren, pairsOf, pairRules, pairByRules, id_eq, complete, pairWhere, sortBy,
    List.zip_nil_left, List.append_nil]

end TwoRules

end LibraryDetection

import LibraryDetection.Proofs.Matching.Presence

/-!
# Pairs in the order of the rules

The children of two packages are paired rule by rule, and at last by position.  Nothing is paired
twice, and nothing is left over on both sides.  What comes to a later stage was refused by every
rule before it: there is no reference and no query left that such a rule would have paired.
-/

namespace LibraryDetection

set_option autoImplicit false

def pairStages : List PairRule → List HashNode → List HashNode →
    List (List (HashNode × HashNode))
  | [], references, queries =>
      [(sortBy biggerFirst references).zip (sortBy biggerFirst queries)]
  | rule :: rules, references, queries =>
      let first := pairWhere rule references queries
      first.pairs :: pairStages rules first.references first.queries

/-- Pairs stage by stage that respect the rules: at each stage the pairs satisfy its rule, and
no reference of a later stage satisfies it together with any query of a later stage. -/
inductive Prioritised : List PairRule → List (List (HashNode × HashNode)) → Prop
  | position (pairs : List (HashNode × HashNode)) : Prioritised [] [pairs]
  | rule {rule : PairRule} {rules : List PairRule} {pairs : List (HashNode × HashNode)}
      {later : List (List (HashNode × HashNode))}
      (fits : ∀ pair ∈ pairs, rule pair.1 pair.2 = true)
      (refused : ∀ one ∈ later.flatten, ∀ other ∈ later.flatten, rule one.1 other.2 = false)
      (rest : Prioritised rules later) : Prioritised (rule :: rules) (pairs :: later)

variable {references queries : List HashNode}

theorem references_subset_of_pair_where (rule : PairRule) (references queries : List HashNode) :
    (pairWhere rule references queries).references ⊆ references := by
  intro reference left
  apply (pair_where_splits rule references queries).references.mem_iff.1
  exact List.mem_append_right _ left

theorem queries_subset_of_pair_where (rule : PairRule) (references queries : List HashNode) :
    (pairWhere rule references queries).queries ⊆ queries := by
  intro query left
  apply (pair_where_splits rule references queries).queries.mem_iff.1
  exact List.mem_append_right _ left

theorem refused_of_pair_where {rule : PairRule} {reference query : HashNode}
    (isReference : reference ∈ (pairWhere rule references queries).references)
    (isQuery : query ∈ (pairWhere rule references queries).queries) :
    rule reference query = false := by
  induction references generalizing queries with
  | nil => simp [pairWhere] at isReference
  | cons head others ih =>
      rw [pairWhere] at isReference isQuery
      split at isReference
      case h_1 found left taken =>
        simp only [taken] at isQuery
        exact ih isReference isQuery
      case h_2 missed =>
        simp only [missed] at isQuery
        cases List.mem_cons.1 isReference with
        | inl here =>
            rw [here]
            apply (take_first_eq_none_iff _ _).1 missed
            exact queries_subset_of_pair_where rule others queries isQuery
        | inr later => exact ih later isQuery

theorem mem_of_mem_pair_stages {rules : List PairRule} {pair : HashNode × HashNode}
    (member : pair ∈ (pairStages rules references queries).flatten) :
    pair.1 ∈ references ∧ pair.2 ∈ queries := by
  induction rules generalizing references queries with
  | nil =>
      rw [pairStages, List.flatten_singleton] at member
      have both := List.of_mem_zip member
      exact ⟨mem_sort_by.1 both.1, mem_sort_by.1 both.2⟩
  | cons rule rules ih =>
      have splits := pair_where_splits rule references queries
      rw [pairStages, List.flatten_cons, List.mem_append] at member
      cases member with
      | inl here =>
          constructor
          · apply splits.references.mem_iff.1
            exact List.mem_append_left _ (List.mem_map_of_mem here)
          · apply splits.queries.mem_iff.1
            exact List.mem_append_left _ (List.mem_map_of_mem here)
      | inr later =>
          have both := ih later
          exact ⟨references_subset_of_pair_where rule references queries both.1,
            queries_subset_of_pair_where rule references queries both.2⟩

theorem prioritised_pair_stages (rules : List PairRule) (references queries : List HashNode) :
    Prioritised rules (pairStages rules references queries) := by
  induction rules generalizing references queries with
  | nil => exact .position _
  | cons rule rules ih =>
      apply Prioritised.rule
      · intro pair member
        exact fits_of_mem_pair_where member
      · intro one isOne other isOther
        exact refused_of_pair_where (mem_of_mem_pair_stages isOne).1
          (mem_of_mem_pair_stages isOther).2
      · exact ih _ _

theorem flatten_pair_stages (rules : List PairRule) (references queries : List HashNode) :
    (pairStages rules references queries).flatten =
      (pairByRules id rules references queries).pairs ++
        (sortBy biggerFirst (pairByRules id rules references queries).references).zip
          (sortBy biggerFirst (pairByRules id rules references queries).queries) := by
  induction rules generalizing references queries with
  | nil => simp [pairStages, pairByRules]
  | cons rule rules ih =>
      rw [pairStages, List.flatten_cons, ih, ← List.append_assoc]
      rfl

theorem pair_children_eq_flatten (references queries : List HashNode) :
    pairChildren references queries = (pairStages pairRules references queries).flatten := by
  rw [flatten_pair_stages]
  rfl

theorem length_pair_children (references queries : List HashNode) :
    (pairChildren references queries).length = min references.length queries.length := by
  have ruled := pair_by_rules_splits id pairRules references queries
  have sameReferences := ruled.references.length_eq
  have sameQueries := ruled.queries.length_eq
  rw [List.length_append, List.length_map] at sameReferences sameQueries
  rw [pairChildren, pairsOf, List.length_append, List.length_zip, length_sort_by, length_sort_by]
  omega

theorem nodup_pair_children (distinctReferences : references.Nodup)
    (distinctQueries : queries.Nodup) :
    ((pairChildren references queries).map Prod.fst).Nodup ∧
      ((pairChildren references queries).map Prod.snd).Nodup := by
  obtain ⟨unpaired, free, splits⟩ := pairs_of_splits id references queries
  constructor
  · exact (splits.references.nodup_iff.2 distinctReferences).of_append_left
  · exact (splits.queries.nodup_iff.2 distinctQueries).of_append_left

namespace HashTree

/-- The children of two nodes of hash trees are paired one to one until one side is used up, and
the pairs respect the order of the rules. -/
theorem pair_children_prioritised {library packages : PackageTree}
    {options queryOptions : HashOptions} {root queryRoot : PackagePath} {left right : HashTree}
    (libraryFormed : library.root.WellFormed) (packagesFormed : packages.root.WellFormed)
    (leftMade : library.hashTreeAt options root = .ok left)
    (rightMade : packages.hashTreeAt queryOptions queryRoot = .ok right)
    {reference query : PackagePath × HashNode} (inLeft : reference ∈ left.nodes)
    (inRight : query ∈ right.nodes) :
    (pairChildren reference.2.children query.2.children).length =
        min reference.2.children.length query.2.children.length ∧
      (∀ pair ∈ pairChildren reference.2.children query.2.children,
        pair.1 ∈ reference.2.children ∧ pair.2 ∈ query.2.children) ∧
      ((pairChildren reference.2.children query.2.children).map Prod.fst).Nodup ∧
      ((pairChildren reference.2.children query.2.children).map Prod.snd).Nodup ∧
      pairChildren reference.2.children query.2.children =
        (pairStages pairRules reference.2.children query.2.children).flatten ∧
      Prioritised pairRules (pairStages pairRules reference.2.children query.2.children) := by
  have leftDistinct := (distinct_children_root libraryFormed leftMade).of_mem_walk inLeft
  have rightDistinct := (distinct_children_root packagesFormed rightMade).of_mem_walk inRight
  have once := nodup_pair_children leftDistinct.here.of_map rightDistinct.here.of_map
  refine ⟨length_pair_children _ _, ?_, once.1, once.2, pair_children_eq_flatten _ _,
    prioritised_pair_stages _ _ _⟩
  intro pair member
  exact mem_of_mem_pair_children member

def soleClassPackage (segment name : String) : PackageNode :=
  ⟨segment, [soleClass [segment] name], []⟩

def codecAndMain : PackageTree :=
  ⟨⟨"", [], [soleClassPackage "x" "Codec", soleClassPackage "y" "Main"]⟩⟩

/-- The codec under another name, and another class under the name of the main package. -/
def codecAndOther : PackageTree :=
  ⟨⟨"", [], [soleClassPackage "p" "Codec", soleClassPackage "y" "Other"]⟩⟩

theorem well_formed_codec_and_main : codecAndMain.root.WellFormed :=
  PackageTree.well_formed_of_of_classes
    (show PackageTree.ofClasses [soleClass ["y"] "Main", soleClass ["x"] "Codec"] =
      .ok codecAndMain from rfl)

theorem well_formed_codec_and_other : codecAndOther.root.WellFormed :=
  PackageTree.well_formed_of_of_classes
    (show PackageTree.ofClasses [soleClass ["y"] "Other", soleClass ["p"] "Codec"] =
      .ok codecAndOther from rfl)

/-- One package is paired by its subtree and one by its name. -/
theorem stages_of_codec_and_main :
    (pairStages pairRules (codecAndMain.wholeHashTree {}).root.children
        (codecAndOther.wholeHashTree {}).root.children).map
          (List.map fun pair => (pair.1.segment, pair.2.segment)) =
        [[("x", "p")], [("y", "y")], [], []] ∧
      Prioritised pairRules (pairStages pairRules (codecAndMain.wholeHashTree {}).root.children
        (codecAndOther.wholeHashTree {}).root.children) := by
  obtain ⟨_, _, _, _, _, prioritised⟩ := pair_children_prioritised well_formed_codec_and_main
    well_formed_codec_and_other (PackageTree.hash_tree_at_nil codecAndMain {})
    (PackageTree.hash_tree_at_nil codecAndOther {}) (HashNode.mem_walk_self _ _)
    (HashNode.mem_walk_self _ _)
  exact ⟨by decide +kernel, prioritised⟩

end HashTree

end LibraryDetection

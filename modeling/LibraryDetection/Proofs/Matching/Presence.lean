import LibraryDetection.Proofs.HashTree.Lookup
import LibraryDetection.Proofs.Matching.Anchor
import LibraryDetection.Proofs.Matching.Overlap
import LibraryDetection.Proofs.Matching.Reported
import LibraryDetection.Proofs.Number.Monotone

/-!
# Libraries at their own places

A library whose packages stand in an application under their own names, with all of their
classes and perhaps with others, is aligned as a whole where its packages are paired with
their namesakes.  Equal subtrees are paired before names are looked at, so that a package can
lose its namesake to a sibling that equals it.
-/

namespace LibraryDetection

set_option autoImplicit false

namespace HashNode

/-- Every package of the reference has one at its path under the query that holds its classes. -/
def StandsIn (reference query : HashNode) : Prop :=
  ∀ path inner, reference.find? path = some inner → ∃ found, query.find? path = some found ∧
    (inner.classHashes : Multiset String) ≤ found.classHashes

/-- No package loses its namesake: where no equal subtree is left for a child of the reference,
its namesake is not the equal subtree of a sibling.  Below packages that are paired as equal
ones nothing is asked for. -/
inductive KeepsNamesakes : HashNode → HashNode → Prop
  | whole {reference query : HashNode} (same : reference.subtreeHash = query.subtreeHash) :
      KeepsNamesakes reference query
  | inPart {reference query : HashNode}
      (free : ∀ child ∈ reference.children, ∀ namesake ∈ query.children,
        namesake.segment = child.segment → LeftOver reference.children query.children child →
          LeftOver query.children reference.children namesake)
      (within : ∀ child ∈ reference.children, ∀ namesake ∈ query.children,
        namesake.segment = child.segment → LeftOver reference.children query.children child →
          KeepsNamesakes child namesake) :
      KeepsNamesakes reference query

namespace StandsIn

variable {reference query : HashNode} (stands : reference.StandsIn query)

include stands

theorem class_hashes_le : (reference.classHashes : Multiset String) ≤ query.classHashes := by
  obtain ⟨found, here, held⟩ := stands [] reference rfl
  cases here
  exact held

theorem exists_namesake (distinct : reference.DistinctChildren) {child : HashNode}
    (isChild : child ∈ reference.children) :
    ∃ namesake ∈ query.children, namesake.segment = child.segment := by
  obtain ⟨found, present, _⟩ :=
    stands [child.segment] child (find?_cons_segment distinct isChild [])
  rw [find?] at present
  split at present
  case h_1 namesake isFound =>
    exact ⟨namesake, List.mem_of_find?_eq_some isFound, by simpa using List.find?_some isFound⟩
  case h_2 => cases present

theorem of_namesake (referenceDistinct : reference.DistinctChildren)
    (queryDistinct : query.DistinctChildren) {child namesake : HashNode}
    (isChild : child ∈ reference.children) (isNamesake : namesake ∈ query.children)
    (sameName : namesake.segment = child.segment) : child.StandsIn namesake := by
  intro path inner present
  rw [← find?_cons_segment referenceDistinct isChild] at present
  obtain ⟨found, inQuery, held⟩ := stands (child.segment :: path) inner present
  rw [← sameName, find?_cons_segment queryDistinct isNamesake] at inQuery
  exact ⟨found, inQuery, held⟩

end StandsIn

section Pairs

variable {references queries : List HashNode}
  (referencesRise : references.Pairwise fun a b => a.segment < b.segment)
  (queriesRise : queries.Pairwise fun a b => a.segment < b.segment)
  (named : ∀ child ∈ references, ∃ namesake ∈ queries, namesake.segment = child.segment)
  (free : ∀ child ∈ references, ∀ namesake ∈ queries, namesake.segment = child.segment →
    LeftOver references queries child → LeftOver queries references namesake)

include referencesRise queriesRise named free

theorem references_pair_by_name_of_named :
    (pairByName (pairBySubtree references queries).references
      (pairBySubtree references queries).queries).references = [] := by
  apply references_pair_by_name_eq_nil
  · have splits := pair_where_splits
      (fun reference query : HashNode => reference.subtreeHash = query.subtreeHash)
      references queries
    have all := (splits.references.map (·.segment)).nodup_iff.2
      (List.pairwise_map.2 (referencesRise.imp ne_of_lt))
    rw [List.map_append] at all
    exact (List.nodup_append.1 all).2.1
  · intro child left
    obtain ⟨isChild, leftOver⟩ := (mem_references_pair_by_subtree_iff referencesRise).1 left
    obtain ⟨namesake, isQuery, sameName⟩ := named child isChild
    have stays := free child isChild namesake isQuery sameName leftOver
    exact ⟨namesake, (mem_queries_pair_by_subtree_iff queriesRise).2 ⟨isQuery, stays⟩, sameName⟩

theorem map_fst_pair_children_perm_of_named :
    ((pairChildren references queries).map Prod.fst).Perm references := by
  have complete := references_pair_by_name_of_named referencesRise queriesRise named free
  have bySubtree := (pair_where_splits
    (fun reference query : HashNode => reference.subtreeHash = query.subtreeHash)
    references queries).references
  have byName := (pair_where_splits
    (fun reference query : HashNode => reference.segment = query.segment)
    (pairBySubtree references queries).references
    (pairBySubtree references queries).queries).references
  rw [complete, List.append_nil] at byName
  rw [pair_children_eq_append complete, List.map_append]
  exact (byName.append_left _).trans bySubtree

/-- A child is paired with an equal subtree, or none is left and it is paired with its
namesake. -/
theorem equal_or_namesake_of_mem_pair_children {pair : HashNode × HashNode}
    (member : pair ∈ pairChildren references queries) :
    pair.1.subtreeHash = pair.2.subtreeHash ∨
      pair.2.segment = pair.1.segment ∧ LeftOver references queries pair.1 := by
  have complete := references_pair_by_name_of_named referencesRise queriesRise named free
  rw [pair_children_eq_append complete] at member
  cases List.mem_append.1 member with
  | inl early => exact .inl (of_decide_eq_true (fits_of_mem_pair_where early))
  | inr late =>
      have sameName := of_decide_eq_true (fits_of_mem_pair_where late)
      have isLate := (pair_where_splits
        (fun reference query : HashNode => reference.segment = query.segment)
        (pairBySubtree references queries).references
        (pairBySubtree references queries).queries).references.mem_iff.1
        (List.mem_append_left _ (List.mem_map_of_mem (f := Prod.fst) late))
      exact .inr ⟨sameName.symm,
        ((mem_references_pair_by_subtree_iff referencesRise).1 isLate).2⟩

end Pairs

theorem shared_classes_of_le {reference query : HashNode}
    (held : (reference.classHashes : Multiset String) ≤ query.classHashes) :
    reference.sharedClasses query = reference.classHashes.length := by
  rw [sharedClasses, directCount]
  split
  · rfl
  · rw [Bag.shared_size_eq_card_inter, ← Multiset.inf_eq_inter, inf_eq_left.2 held,
      Multiset.coe_card]

theorem align_of_stands_in {reference query : HashNode} (hashed : reference.Hashed)
    (referenceOrdered : reference.Every OrderedChildren)
    (queryOrdered : query.Every OrderedChildren) (stands : reference.StandsIn query)
    (keeps : reference.KeepsNamesakes query) : reference.align query = reference.classCount := by
  induction reference generalizing query with
  | node segment nodeHash subtreeHash classHashes classCount children ih =>
      rw [align_eq]
      split
      · rfl
      · rename_i different
        cases keeps with
        | whole same => exact absurd same different
        | inPart free within =>
            have named : ∀ child ∈ children, ∃ namesake ∈ query.children,
                namesake.segment = child.segment := fun child isChild =>
              stands.exists_namesake referenceOrdered.here.distinct isChild
            have complete := map_fst_pair_children_perm_of_named referenceOrdered.here
              queryOrdered.here named free
            have each : ∀ pair ∈ pairChildren children query.children,
                pair.1.align pair.2 = pair.1.classCount := by
              intro pair member
              obtain ⟨isChild, isPartner⟩ := mem_of_mem_pair_children member
              cases equal_or_namesake_of_mem_pair_children referenceOrdered.here
                queryOrdered.here named free member with
              | inl equal => rw [align_eq, if_pos equal]
              | inr byName =>
                  exact ih pair.1 isChild (hashed.within pair.1 isChild)
                    (referenceOrdered.within pair.1 isChild)
                    (queryOrdered.within pair.2 isPartner)
                    (stands.of_namesake referenceOrdered.here.distinct queryOrdered.here.distinct
                      isChild isPartner byName.1)
                    (within pair.1 isChild pair.2 isPartner byName.1 byName.2)
            have own := shared_classes_of_le stands.class_hashes_le
            have sum := hashed.class_count_eq
            rw [own, total_congr each, ← total_map HashNode.classCount, total_perm complete]
            exact sum.symm

theorem Hashed.length_class_hashes_le {node : HashNode} (hashed : node.Hashed) {path : PackagePath}
    {entry : PackagePath × HashNode} (member : entry ∈ node.walk path) :
    entry.2.classHashes.length ≤ node.classCount := by
  have part : entry.2.classHashes.Sublist
      ((node.walk path).flatMap fun inner => inner.2.classHashes) :=
    List.sublist_flatten_of_mem (List.mem_map_of_mem member)
  rw [hashed.class_count_eq_length path]
  exact Int.ofNat_le.2 part.length_le

theorem StandsIn.class_count_ne_zero {reference query : HashNode}
    (stands : reference.StandsIn query)
    (referenceHashed : reference.Hashed) (referenceDistinct : reference.Every DistinctChildren)
    (queryHashed : query.Hashed) (queryDistinct : query.Every DistinctChildren)
    (counted : reference.classCount ≠ 0) : query.classCount ≠ 0 := by
  rw [referenceHashed.class_count_eq_length [], Int.natCast_ne_zero, ← Nat.pos_iff_ne_zero,
    List.length_pos_iff_exists_mem] at counted
  obtain ⟨hash, member⟩ := counted
  obtain ⟨⟨path, inner⟩, isNode, inHashes⟩ := List.mem_flatMap.1 member
  obtain ⟨rest, _, present⟩ := (mem_walk_iff_find? referenceDistinct [] path).1 isNode
  obtain ⟨found, atRest, held⟩ := stands rest inner present
  have inQuery : ([] ++ rest, found) ∈ query.walk [] :=
    (mem_walk_iff_find? queryDistinct [] _).2 ⟨rest, rfl, atRest⟩
  have bound := queryHashed.length_class_hashes_le inQuery
  have some := List.length_pos_of_mem (Multiset.mem_coe.1 (Multiset.mem_of_le held inHashes))
  simp only at bound
  omega

end HashNode

theorem align_le_matched_anchor {reference : HashTree} {index : QueryIndex}
    (hashed : reference.root.Hashed) {entry : PackagePath × HashNode}
    (candidate : entry ∈ index.atDepth reference.rootPath.length) :
    reference.root.align entry.2 ≤ (anchor reference index).matched := by
  have leads := (leads_nil reference).foldl (anchorCandidates reference index)
  rw [anchor, best_anchor_eq_foldl hashed]
  exact leads.bound entry ((anchor_candidates_perm reference index).mem_iff.2 candidate)

namespace HashTree

/-- At the path of every package of the reference the query has one that holds its classes. -/
def StandsIn (reference query : HashTree) : Prop :=
  ∀ entry ∈ reference.nodes, ∃ found ∈ query.find? entry.1,
    (entry.2.classHashes : Multiset String) ≤ found.classHashes

instance (reference query : HashTree) : Decidable (reference.StandsIn query) :=
  inferInstanceAs (Decidable (∀ entry ∈ reference.nodes, ∃ found ∈ query.find? entry.1,
    (entry.2.classHashes : Multiset String) ≤ found.classHashes))

def KeepsNamesakes (reference query : HashTree) : Prop :=
  ∀ found ∈ query.find? reference.rootPath, reference.root.KeepsNamesakes found

section OwnPlace

variable {library packages : PackageTree} {options : HashOptions} {root : PackagePath}
  {reference query : HashTree}

variable (libraryFormed : library.root.WellFormed)
  (referenceMade : library.hashTreeAt options root = .ok reference)
  (packagesFormed : packages.root.WellFormed)
  (queryMade : packages.hashTreeAt options [] = .ok query)

include libraryFormed referenceMade packagesFormed queryMade

theorem StandsIn.exists_place (stands : reference.StandsIn query) :
    ∃ found, (reference.rootPath, found) ∈ query.nodes ∧
      query.find? reference.rootPath = some found ∧ reference.root.StandsIn found := by
  have referenceDistinct := distinct_children_root libraryFormed referenceMade
  have queryDistinct := distinct_children_root packagesFormed queryMade
  obtain ⟨found, present, _⟩ := stands _ (HashNode.mem_walk_self reference.rootPath _)
  refine ⟨found, (find?_eq_some_iff queryDistinct _ _).1 present, present, ?_⟩
  intro path inner inReference
  have isNode : (reference.rootPath ++ path, inner) ∈ reference.nodes :=
    (HashNode.mem_walk_iff_find? referenceDistinct _ _).2 ⟨path, rfl, inReference⟩
  obtain ⟨held, atPath, classes⟩ := stands _ isNode
  refine ⟨held, ?_, classes⟩
  obtain ⟨package, _, rfl⟩ := (hash_tree_at_eq_ok_iff packages options []).1 queryMade
  simp only [find?, below?, Option.mem_def, HashNode.find?_append] at atPath present
  rw [present] at atPath
  exact atPath

theorem matched_anchor_of_stands_in (stands : reference.StandsIn query)
    (keeps : reference.KeepsNamesakes query) :
    (anchor reference (QueryIndex.ofTree query)).matched = reference.classCount := by
  have referenceBuilt : reference.Built := ⟨library, options, root, referenceMade⟩
  have queryBuilt : query.Built := ⟨packages, options, [], queryMade⟩
  obtain ⟨found, isNode, present, held⟩ :=
    stands.exists_place libraryFormed referenceMade packagesFormed queryMade
  have aligned : reference.root.align found = reference.classCount :=
    HashNode.align_of_stands_in referenceBuilt.hashed_root
      (ordered_children_root libraryFormed referenceMade)
      ((ordered_children_root packagesFormed queryMade).of_mem_walk isNode) held
      (keeps found present)
  obtain ⟨nonneg, atMost⟩ := anchor_bounds referenceBuilt (QueryIndex.ofTree query)
  by_cases empty : reference.classCount = 0
  · omega
  · have counted : found.classCount ≠ 0 :=
      held.class_count_ne_zero referenceBuilt.hashed_root
        (distinct_children_root libraryFormed referenceMade)
        (queryBuilt.hashed_of_mem isNode)
        ((distinct_children_root packagesFormed queryMade).of_mem_walk isNode) empty
    have candidate : (reference.rootPath, found) ∈
        (QueryIndex.ofTree query).atDepth reference.rootPath.length := by
      simp [QueryIndex.atDepth, QueryIndex.ofTree, isNode, counted]
    have atLeast := align_le_matched_anchor referenceBuilt.hashed_root candidate
    simp only at atLeast
    omega

end OwnPlace

end HashTree

theorem matched_align_trees_of_full {trees : List HashTree} {index : QueryIndex}
    (full : ∀ tree ∈ trees, (anchor tree index).matched = tree.classCount) :
    (alignTrees index trees).matched = total HashTree.classCount trees := by
  induction trees with
  | nil => rfl
  | cons tree trees ih =>
      rw [List.forall_mem_cons] at full
      simp only [alignTrees, total, full.1, ih full.2]

namespace Fingerprint

variable {fingerprint : Fingerprint} {index : QueryIndex} {settings : MatchSettings}

theorem aligned_score_of_full (positive : 0 < fingerprint.classCount)
    (full : (alignTrees index fingerprint.hashTrees).matched = fingerprint.classCount)
    (looked : settings.pathAware = true) {found : LibraryMatch}
    (result : fingerprint.match? index settings = .ok (some found)) :
    found.alignedScore = some 1.0 := by
  obtain ⟨_, _, ⟨paths, _, rfl⟩ | ⟨_, inPart⟩⟩ := match?_eq_some_iff.1 result
  · rw [exactMatch, if_pos looked]
  · obtain ⟨loose, aligned, _, share, _, _, rfl⟩ := partial_match?_eq_some_iff.1 inPart
    have whole : ratio fingerprint.classCount fingerprint.classCount = .ok 1.0 := by
      rw [ratio, Number.quotient?_self positive]
    simp only [Counts.alignedShare, counts, looked, if_true, full, whole, Except.map,
      Except.ok.injEq] at share
    exact share.symm

end Fingerprint

namespace HashTree

/-- A library whose packages stand at their own paths in a query, with all of their classes and
perhaps with others, is aligned as a whole and has the aligned score one, unless some package
of it loses its namesake to a sibling that equals it. -/
theorem aligned_at_own_place {packages : PackageTree} {options : HashOptions} {query : HashTree}
    (packagesFormed : packages.root.WellFormed)
    (queryMade : packages.hashTreeAt options [] = .ok query) :
    (∀ (library : PackageTree) (root : PackagePath) (reference : HashTree),
      library.root.WellFormed → library.hashTreeAt options root = .ok reference →
        reference.StandsIn query → reference.KeepsNamesakes query →
          (anchor reference (QueryIndex.ofTree query)).matched = reference.classCount) ∧
      ∀ (fingerprint : Fingerprint) (classes : List ClassDescriptor),
        fingerprint.ProfiledFrom classes options →
          (∀ tree ∈ fingerprint.hashTrees, tree.StandsIn query ∧ tree.KeepsNamesakes query) →
            ∀ settings : MatchSettings, settings.pathAware = true →
              ∃ verdict,
                fingerprint.match? (QueryIndex.ofTree query) settings = .ok verdict ∧
                  ∀ found, verdict = some found → found.alignedScore = some 1.0 := by
  constructor
  · intro library root reference libraryFormed referenceMade stands keeps
    exact matched_anchor_of_stands_in libraryFormed referenceMade packagesFormed queryMade stands
      keeps
  · intro fingerprint classes profiled atHome settings looked
    have full : ∀ tree ∈ fingerprint.hashTrees,
        (anchor tree (QueryIndex.ofTree query)).matched = tree.classCount := by
      intro tree isTree
      obtain ⟨path, package, present, made⟩ := profiled.made isTree
      obtain ⟨stands, keeps⟩ := atHome tree isTree
      exact matched_anchor_of_stands_in profiled.well_formed
        ((hash_tree_at_eq_ok_iff _ options path).2 ⟨package, present, made⟩) packagesFormed
        queryMade stands keeps
    obtain ⟨verdict, result⟩ :=
      Fingerprint.exists_match? profiled.built (QueryIndex.ofTree query) settings
    refine ⟨verdict, result, ?_⟩
    rintro found rfl
    exact Fingerprint.aligned_score_of_full profiled.class_count_pos
      (matched_align_trees_of_full full) looked result

def soleClass (package : PackagePath) (name : String) : ClassDescriptor :=
  .make package name [name ++ "()V"] .topLevel

/-- Two codecs, one over the other, with a class of the application beside the inner one. -/
def extendedCodec : PackageNode :=
  ⟨"a", codecIn [["a"]], [⟨"b", soleClass ["a", "b"] "Main" :: codecIn [["a", "b"]], []⟩]⟩

def extendedPackages : PackageTree := ⟨⟨"", [], [extendedCodec]⟩⟩

def extendedQuery : HashTree := extendedPackages.wholeHashTree {}

theorem well_formed_extended_packages : extendedPackages.root.WellFormed :=
  PackageTree.well_formed_of_of_classes
    (show PackageTree.ofClasses (codecIn [["a"], ["a", "b"]] ++ [soleClass ["a", "b"] "Main"]) =
      .ok extendedPackages from rfl)

theorem keeps_namesakes_extended_query : nestedTree.KeepsNamesakes extendedQuery := by
  intro found present
  have isPackage : extendedPackages.find? ["a"] = some extendedCodec := rfl
  have atPlace := PackageTree.find?_whole_hash_tree {} well_formed_extended_packages isPackage
  rw [Option.mem_def, extendedQuery, nestedTree, atPlace] at present
  split at present
  case isFalse => cases present
  case isTrue =>
    cases present
    apply HashNode.KeepsNamesakes.inPart
    · decide +kernel
    · intro child isChild namesake _ _ _
      cases List.mem_singleton.1 isChild
      exact .inPart (fun _ inNone => absurd inNone List.not_mem_nil)
        (fun _ inNone => absurd inNone List.not_mem_nil)

/-- The class beside it takes nothing away from the inner codec. -/
theorem aligned_in_extended_query :
    (anchor nestedTree (QueryIndex.ofTree extendedQuery)).matched = 2 ∧
      ∃ verdict, Fingerprint.ofNestedCodec.match? (QueryIndex.ofTree extendedQuery) {} =
          .ok verdict ∧ ∀ found, verdict = some found → found.alignedScore = some 1.0 := by
  have libraryFormed : PackageNode.WellFormed ⟨"", [], [Fingerprint.nestedCodec "a" "b"]⟩ :=
    PackageTree.well_formed_of_of_classes
      (show PackageTree.ofClasses (codecIn [["a"], ["a", "b"]]) = .ok ⟨_⟩ from rfl)
  have profiled : Fingerprint.ofNestedCodec.ProfiledFrom (codecIn [["a"], ["a", "b"]]) {} :=
    ⟨Fingerprint.ofNestedCodec.description, rfl⟩
  have stands : nestedTree.StandsIn extendedQuery := by decide +kernel
  have keeps := keeps_namesakes_extended_query
  obtain ⟨anchored, scored⟩ := aligned_at_own_place
    well_formed_extended_packages (PackageTree.hash_tree_at_nil extendedPackages {})
  constructor
  · exact anchored ⟨⟨"", [], [Fingerprint.nestedCodec "a" "b"]⟩⟩ ["a"] nestedTree libraryFormed rfl
      stands keeps
  · apply scored Fingerprint.ofNestedCodec _ profiled _ {} rfl
    intro tree isTree
    cases List.mem_singleton.1 isTree
    exact ⟨stands, keeps⟩

/-- Of two equal packages the second one goes to the first, whose own place holds one class
more, and what is left for the second is the largest package that is left. -/
theorem namesake_lost_to_equal :
    ∃ library packages reference query,
      PackageTree.ofClasses (codecIn [["a", "c"], ["a", "d"]]) = .ok library ∧
      PackageTree.ofClasses (soleClass ["a", "b"] "Main" :: soleClass ["a", "b"] "Page" ::
        soleClass ["a", "c"] "Coder" :: codecIn [["a", "c"], ["a", "d"]]) = .ok packages ∧
      library.hashTreeAt {} ["a"] = .ok reference ∧ packages.hashTreeAt {} [] = .ok query ∧
      reference.StandsIn query ∧ reference.classCount = 2 ∧
      (anchor reference (QueryIndex.ofTree query)).matched = 1 := by
  refine ⟨_, _, _, _, rfl, rfl, rfl, rfl, ?_⟩
  decide +kernel

end HashTree

end LibraryDetection

import LibraryDetection.Proofs.Matching.Renaming

/-!
# Reported libraries

What it takes for a library to be reported: either every tree of it is found, or classes of
it are counted and the score reaches the least one.  In both cases some class is held by the
application.
-/

namespace LibraryDetection

set_option autoImplicit false

open LibraryDetection.Digest

namespace Fingerprint

variable {fingerprint : Fingerprint} {classes queryClasses : List ClassDescriptor}
  {options queryOptions : HashOptions} {query : HashTree} {index : QueryIndex}
  {settings : MatchSettings}

def partMatch (fingerprint : Fingerprint) (settings : MatchSettings) (counts : Counts)
    (loose : Float) (aligned : Option Float) : LibraryMatch :=
  { description := fingerprint.description
    score := mixedScore settings loose aligned
    matchedClasses := counts.loose.1
    classCount := counts.total
    strategy := .inPart
    looseScore := loose
    alignedScore := aligned
    matchedPackages := counts.loose.2
    location := (counts.aligned.bind (·.path)).map PackagePath.dotted }

theorem partial_match?_eq_some_iff {counts : Counts} {found : LibraryMatch} :
    fingerprint.partialMatch? settings counts = .ok (some found) ↔
      ∃ loose aligned, ratio counts.loose.1 counts.total = .ok loose ∧
        counts.alignedShare = .ok aligned ∧ counts.isEmpty = false ∧
        ¬ mixedScore settings loose aligned < settings.minScore ∧
        found = fingerprint.partMatch settings counts loose aligned := by
  rw [partialMatch?]
  cases ratio counts.loose.1 counts.total with
  | error error => simp
  | ok loose =>
      cases counts.alignedShare with
      | error error => simp
      | ok aligned =>
          cases counts.isEmpty with
          | true => simp
          | false =>
              by_cases below : mixedScore settings loose aligned < settings.minScore
              · simp [below]
              · simp [below, partMatch, eq_comm]

theorem match?_eq_some_iff {found : LibraryMatch} :
    fingerprint.match? index settings = .ok (some found) ↔
      fingerprint.classCount ≠ 0 ∧ fingerprint.options = index.tree.options ∧
        ((∃ paths, exactPaths? index fingerprint.hashTrees = some paths ∧
            found = fingerprint.exactMatch settings paths) ∨
          exactPaths? index fingerprint.hashTrees = none ∧
            fingerprint.partialMatch? settings (fingerprint.counts index settings) =
              .ok (some found)) := by
  rw [match?]
  by_cases empty : fingerprint.classCount = 0
  · simp [empty]
  · by_cases same : fingerprint.options = index.tree.options
    · cases exactPaths? index fingerprint.hashTrees with
      | none => simp [empty, same]
      | some paths => simp [empty, same, eq_comm]
    · simp [empty, same]

theorem options_eq_of_match? (profiled : fingerprint.ProfiledFrom classes options)
    (made : query.MadeFrom queryClasses queryOptions) {found : LibraryMatch}
    (result : fingerprint.match? (QueryIndex.ofTree query) settings = .ok (some found)) :
    queryOptions = options := by
  have same := (match?_eq_some_iff.1 result).2.1
  rw [profiled.options_eq] at same
  exact made.options_eq.symm.trans same.symm

section SameOptions

variable (profiled : fingerprint.ProfiledFrom classes options)
  (digests : ∀ descriptor ∈ classes, IsDigest descriptor.contentHash)
  (made : query.MadeFrom queryClasses options)
  (free : CollisionFree (fingerprint.jointMessages query))

include profiled digests made free

theorem exists_class_of_loose_evidence
    (counted : (looseEvidence fingerprint.hashTrees (QueryIndex.ofTree query)).1 ≠ 0) :
    ∃ hash ∈ query.classHashBag, hash ∈ HashTree.classBags fingerprint.hashTrees := by
  rw [loose_evidence_of_collision_free profiled digests made free] at counted
  obtain ⟨hash, common⟩ := Multiset.card_pos_iff_exists_mem.1 (Nat.pos_of_ne_zero counted)
  obtain ⟨inTrees, inQuery⟩ := Multiset.mem_inter.1 common
  exact ⟨hash, inQuery, inTrees⟩

/-- A library all of whose trees are found has a class in the query, for none of them is
without one. -/
theorem exists_class_of_exact_paths {paths : List PackagePath}
    (places : exactPaths? (QueryIndex.ofTree query) fingerprint.hashTrees = some paths) :
    ∃ hash ∈ query.classHashBag, hash ∈ HashTree.classBags fingerprint.hashTrees := by
  obtain ⟨tree, isTree⟩ := List.exists_mem_of_ne_nil _ profiled.hash_trees_ne_nil
  obtain ⟨path, place⟩ := (exists_exact_paths_iff _ _).1 ⟨paths, places⟩ tree isTree
  obtain ⟨entry, inQuery, _, sameHash⟩ := QueryIndex.exists_node_of_subtree_path? place
  have alike : tree.root.Isomorphic entry.2 :=
    (subtree_hash_eq_iff_isomorphic profiled digests made free isTree inQuery).1 sameHash
  have size := (profiled.built tree isTree).class_count_eq_length
  have counted := profiled.counted isTree
  have occupied : tree.classHashBag ≠ [] := by
    intro empty
    rw [size, empty] at counted
    exact absurd counted (by decide)
  obtain ⟨hash, inTree⟩ := List.exists_mem_of_ne_nil _ occupied
  have inPlace : hash ∈ entry.2.classesBelow :=
    (alike.flatMap_class_hashes_perm tree.rootPath []).mem_iff.1 inTree
  have held := HashTree.classes_below_le_class_hash_bag made.distinct inQuery
  exact ⟨hash, Multiset.mem_of_le held inPlace, HashTree.mem_class_bags.2 ⟨tree, isTree, inTree⟩⟩

theorem shared_of_match? {found : LibraryMatch}
    (result : fingerprint.match? (QueryIndex.ofTree query) settings = .ok (some found)) :
    1 ≤ found.matchedClasses ∧
      ∃ hash ∈ query.classHashBag, hash ∈ HashTree.classBags fingerprint.hashTrees := by
  obtain ⟨_, _, found⟩ := match?_eq_some_iff.1 result
  rcases found with ⟨paths, places, rfl⟩ | ⟨_, inPart⟩
  · exact ⟨profiled.class_count_pos, exists_class_of_exact_paths profiled digests made free places⟩
  · obtain ⟨loose, aligned, _, _, some, _, rfl⟩ := partial_match?_eq_some_iff.1 inPart
    rw [isEmpty_counts profiled digests made free, decide_eq_false_iff_not] at some
    have counted : 1 ≤ (looseEvidence fingerprint.hashTrees (QueryIndex.ofTree query)).1 :=
      Nat.one_le_iff_ne_zero.2 some
    exact ⟨Int.ofNat_le.2 counted,
      exists_class_of_loose_evidence profiled digests made free some⟩

end SameOptions

/-- There is no match without evidence: of a library that is reported at least one class is
matched and one is held by the query, so that a query without a class of the library gets
no match, whatever the settings. -/
theorem match?_needs_evidence (profiled : fingerprint.ProfiledFrom classes options)
    (digests : ∀ descriptor ∈ classes, IsDigest descriptor.contentHash)
    (made : query.MadeFrom queryClasses queryOptions)
    (free : CollisionFree (fingerprint.jointMessages query)) (settings : MatchSettings) :
    ∃ verdict, fingerprint.match? (QueryIndex.ofTree query) settings = .ok verdict ∧
      (∀ found, verdict = some found → 1 ≤ found.matchedClasses ∧
        ∃ hash ∈ query.classHashBag, hash ∈ HashTree.classBags fingerprint.hashTrees) ∧
      (Disjoint (query.classHashBag : Multiset String)
        (HashTree.classBags fingerprint.hashTrees) → verdict = none) := by
  obtain ⟨verdict, result⟩ :=
    exists_match? profiled.built (QueryIndex.ofTree query) settings
  have evidence : ∀ found, verdict = some found → 1 ≤ found.matchedClasses ∧
      ∃ hash ∈ query.classHashBag, hash ∈ HashTree.classBags fingerprint.hashTrees := by
    rintro found rfl
    have same := options_eq_of_match? profiled made result
    rw [same] at made
    exact shared_of_match? profiled digests made free result
  refine ⟨verdict, result, evidence, ?_⟩
  intro disjoint
  cases verdict with
  | none => rfl
  | some found =>
      obtain ⟨_, hash, inQuery, inTrees⟩ := evidence found rfl
      exact absurd inTrees (Multiset.disjoint_left.1 disjoint inQuery)

theorem of_codec_packages_profiled_from :
    (ofCodecPackages ["a"]).ProfiledFrom (codecIn [["a"]]) {} :=
  ⟨(ofCodecPackages ["a"]).description, rfl⟩

theorem exists_exact_one_codec (settings : MatchSettings) :
    ∃ found, (ofCodecPackages ["a"]).match? (QueryIndex.ofTree oneCodec) settings =
      .ok (some found) ∧ found.strategy = .exact := by
  apply (match?_exact_iff of_codec_packages_profiled_from rfl settings).2
  intro tree member
  cases List.mem_singleton.1 member
  exact ⟨_, List.mem_cons_of_mem _ List.mem_cons_self, rfl⟩

/-- With the least score zero, an application without classes still holds no library, and
one with the class of a library holds it with that class. -/
theorem codec_needs_evidence :
    (ofCodecPackages ["a"]).match?
        (QueryIndex.ofTree (PackageTree.empty.wholeHashTree {})) { minScore := 0.0 } = .ok none ∧
      ∃ found, (ofCodecPackages ["a"]).match? (QueryIndex.ofTree oneCodec) { minScore := 0.0 } =
          .ok (some found) ∧ 1 ≤ found.matchedClasses := by
  have digests := is_digest_of_mem_codec_in [["a"]]
  constructor
  · have made : (PackageTree.empty.wholeHashTree {}).MadeFrom [] {} :=
      ⟨⟨PackageTree.empty, [], rfl, rfl⟩, by simp⟩
    obtain ⟨verdict, result, _, unshared⟩ := match?_needs_evidence of_codec_packages_profiled_from
      digests made (by decide +kernel) { minScore := 0.0 }
    rw [result, unshared (Multiset.disjoint_left.2 (by decide +kernel))]
  · obtain ⟨found, reported, _⟩ := exists_exact_one_codec { minScore := 0.0 }
    obtain ⟨verdict, result, evidence, _⟩ := match?_needs_evidence of_codec_packages_profiled_from
      digests one_codec_made_from (by decide +kernel) { minScore := 0.0 }
    have same : verdict = some found := Except.ok.inj (result.symm.trans reported)
    exact ⟨found, reported, (evidence found same).1⟩

end Fingerprint

end LibraryDetection

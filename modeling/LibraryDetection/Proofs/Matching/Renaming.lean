import LibraryDetection.Proofs.HashTree.Renaming
import LibraryDetection.Proofs.Matching.Overlap
import LibraryDetection.Proofs.Matching.Ranking
import LibraryDetection.Proofs.Matching.Verdict
import LibraryDetection.Proofs.Number.Unsigned

/-!
# Verdicts on renamed applications

Two applications with isomorphic hash trees hold the same libraries.  Only the alignment
looks at names, and at weight zero it has no part in the score; that it finds anything says
no more than that a class is shared.
-/

namespace LibraryDetection

set_option autoImplicit false

open LibraryDetection.Digest

/-- What is reported of a library besides its place and its score with paths, which names of
packages may change. -/
structure Finding where
  description : LibraryDescription
  score : Float
  strategy : Strategy
  matchedClasses : Int
  matchedPackages : Nat

def LibraryMatch.finding (found : LibraryMatch) : Finding :=
  ⟨found.description, found.score, found.strategy, found.matchedClasses, found.matchedPackages⟩

namespace HashTree

variable {left right : HashTree} {leftClasses rightClasses : List ClassDescriptor}
  {options : HashOptions}

theorem MadeFrom.messages_subset (leftMade : left.MadeFrom leftClasses options)
    (rightMade : right.MadeFrom rightClasses options) (alike : left.root.Isomorphic right.root) :
    ∀ text ∈ right.messages, text ∈ left.messages := by
  intro text member
  obtain ⟨entry, inRight, inEntry⟩ := List.mem_flatMap.1 member
  obtain ⟨partner, inLeft, same⟩ := alike.symm.exists_partner right.rootPath left.rootPath inRight
  have messages := same.messages_eq (rightMade.built.hashed_of_mem inRight)
    (leftMade.built.hashed_of_mem inLeft)
  rw [messages] at inEntry
  exact List.mem_flatMap.2 ⟨partner, inLeft, inEntry⟩

theorem exists_subtree_path?_of_isomorphic (leftHashed : left.root.Hashed)
    (rightHashed : right.root.Hashed) (alike : left.root.Isomorphic right.root) {hash : String}
    (found : ∃ path, (QueryIndex.ofTree left).subtreePath? hash = some path) :
    ∃ path, (QueryIndex.ofTree right).subtreePath? hash = some path := by
  obtain ⟨path, place⟩ := found
  obtain ⟨entry, inLeft, _, rfl⟩ := QueryIndex.exists_node_of_subtree_path? place
  obtain ⟨partner, inRight, same⟩ := alike.exists_partner left.rootPath right.rootPath inLeft
  have hashes := same.hashes_eq (HashNode.Every.of_mem_walk leftHashed inLeft)
    (HashNode.Every.of_mem_walk rightHashed inRight)
  rw [hashes.2]
  exact QueryIndex.subtree_path?_of_mem inRight

end HashTree

theorem exists_exact_paths_of_isomorphic {left right : HashTree} (leftHashed : left.root.Hashed)
    (rightHashed : right.root.Hashed) (alike : left.root.Isomorphic right.root)
    {trees : List HashTree}
    (found : ∃ paths, exactPaths? (QueryIndex.ofTree left) trees = some paths) :
    ∃ paths, exactPaths? (QueryIndex.ofTree right) trees = some paths := by
  refine (exists_exact_paths_iff _ _).2 ?_
  intro tree isTree
  exact HashTree.exists_subtree_path?_of_isomorphic leftHashed rightHashed alike
    ((exists_exact_paths_iff _ _).1 found tree isTree)

namespace Fingerprint

variable {fingerprint : Fingerprint} {classes leftClasses rightClasses : List ClassDescriptor}
  {options : HashOptions} {left right : HashTree} {settings : MatchSettings}

theorem collision_free_of_isomorphic (leftMade : left.MadeFrom leftClasses options)
    (rightMade : right.MadeFrom rightClasses options) (alike : left.root.Isomorphic right.root)
    (free : CollisionFree (fingerprint.jointMessages left)) :
    CollisionFree (fingerprint.jointMessages right) := by
  apply free.of_subset
  intro text member
  rcases List.mem_append.1 member with inQuery | inTrees
  · exact List.mem_append_left _ (leftMade.messages_subset rightMade alike text inQuery)
  · exact List.mem_append_right _ inTrees

section Isomorphic

variable (profiled : fingerprint.ProfiledFrom classes options)
  (digests : ∀ descriptor ∈ classes, IsDigest descriptor.contentHash)
  (leftMade : left.MadeFrom leftClasses options) (rightMade : right.MadeFrom rightClasses options)
  (alike : left.root.Isomorphic right.root)
  (free : CollisionFree (fingerprint.jointMessages left))

include profiled digests leftMade rightMade alike free

theorem loose_evidence_eq_of_isomorphic :
    looseEvidence fingerprint.hashTrees (QueryIndex.ofTree left) =
      looseEvidence fingerprint.hashTrees (QueryIndex.ofTree right) := by
  have rightFree := collision_free_of_isomorphic leftMade rightMade alike free
  rw [loose_evidence_of_collision_free profiled digests leftMade free,
    loose_evidence_of_collision_free profiled digests rightMade rightFree,
    HashTree.class_hash_bag_eq_of_isomorphic alike,
    HashTree.node_hash_bag_eq_of_isomorphic leftMade.built.hashed_root rightMade.built.hashed_root
      alike]

end Isomorphic

theorem isEmpty_counts (profiled : fingerprint.ProfiledFrom classes options)
    (digests : ∀ descriptor ∈ classes, IsDigest descriptor.contentHash)
    (made : left.MadeFrom leftClasses options)
    (free : CollisionFree (fingerprint.jointMessages left)) (settings : MatchSettings) :
    (fingerprint.counts (QueryIndex.ofTree left) settings).isEmpty =
      decide ((looseEvidence fingerprint.hashTrees (QueryIndex.ofTree left)).1 = 0) := by
  rw [Counts.isEmpty, counts]
  by_cases none : (looseEvidence fingerprint.hashTrees (QueryIndex.ofTree left)).1 = 0
  · have unaligned : (alignTrees (QueryIndex.ofTree left) fingerprint.hashTrees).matched = 0 := by
      by_contra aligned
      exact loose_evidence_ne_zero_of_aligned profiled digests made free aligned none
    cases settings.pathAware with
    | false => simp [none]
    | true => simp [none, unaligned]
  · simp [none]

theorem match?_of_options_ne {query : HashTree} {libraryOptions : HashOptions}
    (profiled : fingerprint.ProfiledFrom classes libraryOptions)
    (different : libraryOptions ≠ query.options) :
    fingerprint.match? (QueryIndex.ofTree query) settings = .ok none := by
  have incompatible : fingerprint.options ≠ (QueryIndex.ofTree query).tree.options := by
    rw [profiled.options_eq]
    exact different
  rw [match?, if_pos incompatible]
  split <;> rfl

theorem unsigned_of_ratio {part whole : Int} (nonneg : 0 ≤ part) (positive : 0 ≤ whole)
    {score : Float} (divided : ratio part whole = .ok score) : Number.Unsigned score := by
  rw [ratio] at divided
  split at divided
  · rename_i value found
    exact Except.ok.inj divided ▸ Number.unsigned_of_quotient? nonneg positive found
  · cases divided

theorem exists_aligned_share (built : ∀ tree ∈ fingerprint.hashTrees, tree.Built)
    (index : QueryIndex) (settings : MatchSettings) :
    ∃ share, (fingerprint.counts index settings).alignedShare = .ok share ∧
      share.isSome = settings.pathAware ∧ ∀ score ∈ share, Number.Unsigned score := by
  rw [Counts.alignedShare, counts]
  cases settings.pathAware with
  | false => exact ⟨none, rfl, rfl, by simp⟩
  | true =>
      obtain ⟨least, most⟩ := align_trees_bounds built index
      obtain ⟨score, found⟩ := exists_ratio least most
      refine ⟨some score, ?_, rfl, ?_⟩
      · simp only [if_true, Fingerprint.classCount, found]
        rfl
      · intro other same
        rw [← Option.some.inj same]
        exact unsigned_of_ratio least (least.trans most) found

theorem mixed_score_eq (weightless : (settings.pathAwareWeight == 0.0) = true) (loose : Float)
    {one other : Option Float} (alike : one.isSome = other.isSome)
    (oneUnsigned : ∀ score ∈ one, Number.Unsigned score)
    (otherUnsigned : ∀ score ∈ other, Number.Unsigned score) :
    mixedScore settings loose one = mixedScore settings loose other := by
  cases one with
  | none =>
      cases other with
      | none => rfl
      | some share => cases alike
  | some share =>
      cases other with
      | none => cases alike
      | some otherShare =>
          rw [mixedScore, mixedScore, Number.mul_eq_of_zero weightless
            (oneUnsigned share rfl) (otherUnsigned otherShare rfl)]

section Isomorphic

variable (profiled : fingerprint.ProfiledFrom classes options)
  (digests : ∀ descriptor ∈ classes, IsDigest descriptor.contentHash)
  (leftMade : left.MadeFrom leftClasses options) (rightMade : right.MadeFrom rightClasses options)
  (alike : left.root.Isomorphic right.root)
  (free : CollisionFree (fingerprint.jointMessages left))
  (weightless : (settings.pathAwareWeight == 0.0) = true)

include profiled digests leftMade rightMade alike free weightless

theorem finding_partial_match?_eq :
    (fingerprint.partialMatch? settings
        (fingerprint.counts (QueryIndex.ofTree left) settings)).map
          (Option.map LibraryMatch.finding) =
      (fingerprint.partialMatch? settings
        (fingerprint.counts (QueryIndex.ofTree right) settings)).map
          (Option.map LibraryMatch.finding) := by
  have evidence := loose_evidence_eq_of_isomorphic profiled digests leftMade rightMade alike free
  have rightFree := collision_free_of_isomorphic leftMade rightMade alike free
  have leftEmpty := isEmpty_counts profiled digests leftMade free settings
  have rightEmpty := isEmpty_counts profiled digests rightMade rightFree settings
  obtain ⟨leftShare, leftAligned, leftSome, leftUnsigned⟩ :=
    exists_aligned_share profiled.built (QueryIndex.ofTree left) settings
  obtain ⟨rightShare, rightAligned, rightSome, rightUnsigned⟩ :=
    exists_aligned_share profiled.built (QueryIndex.ofTree right) settings
  have sameScore : ∀ loose, mixedScore settings loose leftShare =
      mixedScore settings loose rightShare := fun loose =>
    mixed_score_eq weightless loose (leftSome.trans rightSome.symm) leftUnsigned rightUnsigned
  have leftLoose : (fingerprint.counts (QueryIndex.ofTree left) settings).loose =
      looseEvidence fingerprint.hashTrees (QueryIndex.ofTree right) := evidence
  have rightLoose : (fingerprint.counts (QueryIndex.ofTree right) settings).loose =
      looseEvidence fingerprint.hashTrees (QueryIndex.ofTree right) := rfl
  have leftTotal : (fingerprint.counts (QueryIndex.ofTree left) settings).total =
      fingerprint.classCount := rfl
  have rightTotal : (fingerprint.counts (QueryIndex.ofTree right) settings).total =
      fingerprint.classCount := rfl
  rw [partialMatch?, partialMatch?, leftAligned, rightAligned, leftEmpty, rightEmpty, evidence,
    leftLoose, rightLoose, leftTotal, rightTotal]
  cases ratio (looseEvidence fingerprint.hashTrees (QueryIndex.ofTree right)).1
      fingerprint.classCount with
  | error error => rfl
  | ok loose =>
      simp only [sameScore loose]
      split
      · rfl
      · split <;> rfl

theorem finding_match?_eq :
    (fingerprint.match? (QueryIndex.ofTree left) settings).map
        (Option.map LibraryMatch.finding) =
      (fingerprint.match? (QueryIndex.ofTree right) settings).map
        (Option.map LibraryMatch.finding) := by
  have leftHashed := leftMade.built.hashed_root
  have rightHashed := rightMade.built.hashed_root
  by_cases everywhere :
      ∃ paths, exactPaths? (QueryIndex.ofTree left) fingerprint.hashTrees = some paths
  · obtain ⟨paths, places⟩ := everywhere
    obtain ⟨others, otherPlaces⟩ :=
      exists_exact_paths_of_isomorphic leftHashed rightHashed alike ⟨paths, places⟩
    rw [match?_of_exact_paths profiled leftMade.options_eq settings places,
      match?_of_exact_paths profiled rightMade.options_eq settings otherPlaces]
    rfl
  · have nowhere :
        ¬ ∃ paths, exactPaths? (QueryIndex.ofTree right) fingerprint.hashTrees = some paths :=
      fun found => everywhere
        (exists_exact_paths_of_isomorphic rightHashed leftHashed alike.symm found)
    have leftMissed := Option.eq_none_iff_forall_ne_some.2 (not_exists.1 everywhere)
    have rightMissed := Option.eq_none_iff_forall_ne_some.2 (not_exists.1 nowhere)
    have sameOptions : (QueryIndex.ofTree left).tree.options =
        (QueryIndex.ofTree right).tree.options :=
      leftMade.options_eq.trans rightMade.options_eq.symm
    rw [match?, match?, leftMissed, rightMissed, sameOptions]
    split
    · rfl
    · split
      · rfl
      · exact finding_partial_match?_eq profiled digests leftMade rightMade alike free weightless

end Isomorphic

end Fingerprint

theorem HashTree.made_from_whole_hash_tree {classes : List ClassDescriptor} {tree : PackageTree}
    (options : HashOptions) (digests : ∀ descriptor ∈ classes, IsDigest descriptor.contentHash)
    (made : PackageTree.ofClasses classes = .ok tree) :
    (tree.wholeHashTree options).MadeFrom (classes.filter (·.kind ≠ .synthetic)) options where
  grown := ⟨tree, [], made, rfl⟩
  digests := by
    intro descriptor member
    exact digests descriptor (List.mem_of_mem_filter member)

theorem exists_matches_of_of_finding {left right : QueryIndex} {settings : MatchSettings}
    {corpus : List Fingerprint}
    (decided : ∀ fingerprint ∈ corpus,
      ∃ verdict, fingerprint.match? left settings = .ok verdict)
    (same : ∀ fingerprint ∈ corpus,
      (fingerprint.match? left settings).map (Option.map LibraryMatch.finding) =
        (fingerprint.match? right settings).map (Option.map LibraryMatch.finding)) :
    ∃ found again, matchesOf left settings corpus = .ok found ∧
      matchesOf right settings corpus = .ok again ∧
        again.map LibraryMatch.finding = found.map LibraryMatch.finding := by
  induction corpus with
  | nil => exact ⟨[], [], rfl, rfl, rfl⟩
  | cons fingerprint rest ih =>
      rw [List.forall_mem_cons] at decided same
      obtain ⟨verdict, first⟩ := decided.1
      obtain ⟨found, again, below, belowAgain, alike⟩ := ih decided.2 same.2
      have sameHere := same.1
      rw [first] at sameHere
      cases second : fingerprint.match? right settings with
      | error error =>
          rw [second] at sameHere
          cases sameHere
      | ok other =>
          rw [second] at sameHere
          have sameFinding : verdict.map LibraryMatch.finding = other.map LibraryMatch.finding :=
            Except.ok.inj sameHere
          refine ⟨verdict.toList ++ found, other.toList ++ again, ?_, ?_, ?_⟩
          · rw [matchesOf, first, below]
          · rw [matchesOf, second, belowAgain]
          · rw [List.map_append, List.map_append, alike, ← Option.toList_map, ← Option.toList_map,
              sameFinding]

/-- Detection finds the same libraries, with the same scores and counts, whatever valid names
an application has for its packages and classes, as long as the package structure has no
share in the score and no two hashed texts collide. -/
theorem findings_of_renamed {names : Renaming} {classes : List ClassDescriptor}
    {tree : PackageTree} {options : HashOptions} {settings : MatchSettings}
    {corpus : List Fingerprint} (keeps : names.KeepsShape classes)
    (digests : ∀ descriptor ∈ classes, IsDigest descriptor.contentHash)
    (made : PackageTree.ofClasses classes = .ok tree)
    (profiled : ∀ fingerprint ∈ corpus, ∃ library libraryOptions,
      fingerprint.ProfiledFrom library libraryOptions ∧
        ∀ descriptor ∈ library, IsDigest descriptor.contentHash)
    (free : ∀ fingerprint ∈ corpus,
      CollisionFree (fingerprint.jointMessages (tree.wholeHashTree options)))
    (weightless : (settings.pathAwareWeight == 0.0) = true) :
    ∃ renamed found again, PackageTree.ofClasses (classes.map names.apply) = .ok renamed ∧
      matchCorpus (QueryIndex.ofTree (tree.wholeHashTree options)) corpus settings = .ok found ∧
      matchCorpus (QueryIndex.ofTree (renamed.wholeHashTree options)) corpus settings =
        .ok again ∧
      (again.map LibraryMatch.finding).Perm (found.map LibraryMatch.finding) := by
  obtain ⟨renamed, renamedMade⟩ := PackageTree.exists_of_classes_renamed keeps
  have queryMade := HashTree.made_from_whole_hash_tree options digests made
  have renamedDigests : ∀ descriptor ∈ classes.map names.apply,
      IsDigest descriptor.contentHash := by
    intro descriptor member
    obtain ⟨old, isClass, rfl⟩ := List.mem_map.1 member
    exact digests old isClass
  have renamedQuery := HashTree.made_from_whole_hash_tree options renamedDigests renamedMade
  have alike := PackageTree.isomorphic_whole_hash_tree_renamed options keeps made renamedMade
  have decided : ∀ fingerprint ∈ corpus, ∃ verdict, fingerprint.match?
      (QueryIndex.ofTree (tree.wholeHashTree options)) settings = .ok verdict := by
    intro fingerprint member
    obtain ⟨library, libraryOptions, isProfiled, _⟩ := profiled fingerprint member
    exact fingerprint.exists_match? isProfiled.built _ settings
  have same : ∀ fingerprint ∈ corpus,
      (fingerprint.match? (QueryIndex.ofTree (tree.wholeHashTree options)) settings).map
          (Option.map LibraryMatch.finding) =
        (fingerprint.match? (QueryIndex.ofTree (renamed.wholeHashTree options)) settings).map
          (Option.map LibraryMatch.finding) := by
    intro fingerprint member
    obtain ⟨library, libraryOptions, isProfiled, libraryDigests⟩ := profiled fingerprint member
    by_cases compatible : libraryOptions = options
    · subst compatible
      exact Fingerprint.finding_match?_eq isProfiled libraryDigests queryMade renamedQuery alike
        (free fingerprint member) weightless
    · -- such a library is never compared, with the one query nor with the other
      rw [Fingerprint.match?_of_options_ne isProfiled compatible,
        Fingerprint.match?_of_options_ne isProfiled compatible]
  obtain ⟨found, again, ranked, rankedAgain, reported⟩ := exists_matches_of_of_finding decided same
  refine ⟨renamed, sortBy (LibraryMatch.rankedBefore settings) found,
    sortBy (LibraryMatch.rankedBefore settings) again, renamedMade, ?_, ?_, ?_⟩
  · rw [matchCorpus, ranked]
    rfl
  · rw [matchCorpus, rankedAgain]
    rfl
  · exact ((sort_by_perm _ again).map _).trans
      ((List.Perm.of_eq reported).trans ((sort_by_perm _ found).map _).symm)

def swappedNames : Renaming where
  package path := path.map fun segment => if segment = "a" then "y" else "x"
  simpleName _ := "C"

theorem keeps_shape_swapped_names : swappedNames.KeepsShape (codecIn [["a"], ["b"]]) := by
  have last : ∀ path segment, IsPackage (codecIn [["a"], ["b"]]) (path ++ [segment]) →
      segment = "a" ∨ segment = "b" := by
    rintro path segment (empty | ⟨descriptor, isClass, _, inside⟩)
    · simp at empty
    · have member : segment ∈ descriptor.package := inside.subset (by simp)
      rcases List.mem_cons.1 isClass with rfl | other
      · exact .inl (List.mem_singleton.1 member)
      · rw [List.mem_singleton.1 other] at member
        exact .inr (List.mem_singleton.1 member)
  constructor
  · rfl
  · intro path segment _
    refine ⟨if segment = "a" then "y" else "x", ?_, by simp [swappedNames]⟩
    split <;> decide
  · intro path one other oneIs otherIs same
    have segments : (if one = "a" then "y" else "x") = if other = "a" then "y" else "x" := by
      simpa [swappedNames] using same
    rcases last path one oneIs with rfl | rfl <;> rcases last path other otherIs with rfl | rfl
    · rfl
    · exact absurd segments (by decide)
    · exact absurd segments (by decide)
    · rfl
  · decide +kernel

/-- A library with one class is found in the application under both of its names. -/
theorem findings_of_swapped_packages :
    ∃ renamed found again,
      PackageTree.ofClasses ((codecIn [["a"], ["b"]]).map swappedNames.apply) = .ok renamed ∧
      matchCorpus (QueryIndex.ofTree ((codecPackages ["a", "b"]).wholeHashTree {}))
        [Fingerprint.ofCodecPackages ["c"]] {} = .ok found ∧
      matchCorpus (QueryIndex.ofTree (renamed.wholeHashTree {}))
        [Fingerprint.ofCodecPackages ["c"]] {} = .ok again ∧
      found.map (·.description.name) = ["codec"] ∧
      (again.map LibraryMatch.finding).Perm (found.map LibraryMatch.finding) := by
  have profiled : (Fingerprint.ofCodecPackages ["c"]).ProfiledFrom (codecIn [["c"]]) {} :=
    ⟨(Fingerprint.ofCodecPackages ["c"]).description, rfl⟩
  have listed : (matchCorpus (QueryIndex.ofTree ((codecPackages ["a", "b"]).wholeHashTree {}))
      [Fingerprint.ofCodecPackages ["c"]] {}).toOption.map (·.map (·.description.name)) =
        some ["codec"] := by
    decide +kernel
  have both : ∃ renamed found again,
      PackageTree.ofClasses ((codecIn [["a"], ["b"]]).map swappedNames.apply) = .ok renamed ∧
      matchCorpus (QueryIndex.ofTree ((codecPackages ["a", "b"]).wholeHashTree {}))
        [Fingerprint.ofCodecPackages ["c"]] {} = .ok found ∧
      matchCorpus (QueryIndex.ofTree (renamed.wholeHashTree {}))
        [Fingerprint.ofCodecPackages ["c"]] {} = .ok again ∧
      (again.map LibraryMatch.finding).Perm (found.map LibraryMatch.finding) := by
    apply findings_of_renamed keeps_shape_swapped_names (is_digest_of_mem_codec_in _) rfl
    · intro fingerprint member
      rw [List.mem_singleton.1 member]
      exact ⟨_, _, profiled, is_digest_of_mem_codec_in _⟩
    · intro fingerprint member
      rw [List.mem_singleton.1 member]
      decide +kernel
    · rfl
  obtain ⟨renamed, found, again, grown, ranked, rankedAgain, same⟩ := both
  refine ⟨renamed, found, again, grown, ranked, rankedAgain, ?_, same⟩
  rw [ranked] at listed
  exact Option.some.inj listed

end LibraryDetection

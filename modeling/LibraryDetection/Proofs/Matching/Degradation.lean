import LibraryDetection.Proofs.HashTree.Growth
import LibraryDetection.Proofs.Matching.Order
import LibraryDetection.Proofs.Number.Monotone

/-!
# Degrading matches

Classes that are removed from an application lower the score of a library, and never raise
it.  At weight zero the verdict on a library with one hash tree, exact or not, is told by the
number of its classes that the application holds: an exact place of the tree holds them all.
-/

namespace LibraryDetection

set_option autoImplicit false

open LibraryDetection.Digest LibraryDetection.Number

theorem ratio_eq_ok_iff {part whole : Int} {score : Float} :
    ratio part whole = .ok score ↔ quotient? part whole = some score := by
  rw [ratio]
  cases quotient? part whole with
  | none => simp
  | some value => simp

namespace Fingerprint

variable {fingerprint : Fingerprint} {classes queryClasses : List ClassDescriptor}
  {options : HashOptions} {query : HashTree} {settings : MatchSettings}

def heldClasses (fingerprint : Fingerprint) (query : HashTree) : Nat :=
  (looseEvidence fingerprint.hashTrees (QueryIndex.ofTree query)).1

theorem held_classes_le (profiled : fingerprint.ProfiledFrom classes options) (query : HashTree) :
    (fingerprint.heldClasses query : Int) ≤ fingerprint.classCount :=
  loose_evidence_le profiled.built (QueryIndex.ofTree query)

theorem held_classes_eq (profiled : fingerprint.ProfiledFrom classes options)
    (digests : ∀ descriptor ∈ classes, IsDigest descriptor.contentHash)
    (made : query.MadeFrom queryClasses options)
    (free : CollisionFree (fingerprint.jointMessages query)) :
    fingerprint.heldClasses query =
      (HashTree.classBags fingerprint.hashTrees ∩ query.classHashBag).card :=
  congrArg Prod.fst (loose_evidence_of_collision_free profiled digests made free)

theorem held_classes_mono (profiled : fingerprint.ProfiledFrom classes options)
    (digests : ∀ descriptor ∈ classes, IsDigest descriptor.contentHash)
    {fewerClasses moreClasses : List ClassDescriptor} {fewer more : HashTree}
    (fewerMade : fewer.MadeFrom fewerClasses options)
    (moreMade : more.MadeFrom moreClasses options)
    (fewerFree : CollisionFree (fingerprint.jointMessages fewer))
    (moreFree : CollisionFree (fingerprint.jointMessages more))
    (bags : (fewer.classHashBag : Multiset String) ≤ more.classHashBag) :
    fingerprint.heldClasses fewer ≤ fingerprint.heldClasses more := by
  rw [held_classes_eq profiled digests fewerMade fewerFree,
    held_classes_eq profiled digests moreMade moreFree]
  exact Multiset.card_le_card (inf_le_inf_left _ bags)

/-- The share of the classes of a library that a query holds can be compared. -/
theorem exists_share (profiled : fingerprint.ProfiledFrom classes options) (query : HashTree) :
    ∃ share, ratio (fingerprint.heldClasses query) fingerprint.classCount = .ok share ∧
      Ordered share := by
  obtain ⟨share, divided⟩ := exists_ratio (Int.natCast_nonneg _) (held_classes_le profiled query)
  have nonneg := profiled.class_count_pos.le
  exact ⟨share, divided, (unsigned_of_ratio (Int.natCast_nonneg _) nonneg divided).ordered⟩

theorem mixed_score_of_weightless (weightless : (settings.pathAwareWeight == 0.0) = true)
    {part whole : Int} (nonneg : 0 ≤ part) (bound : part ≤ whole) {loose : Float}
    (divided : ratio part whole = .ok loose) {aligned : Option Float}
    (unsigned : ∀ share ∈ aligned, Unsigned share) :
    mixedScore settings loose aligned = loose := by
  cases aligned with
  | none => rfl
  | some share =>
      have value := ratio_eq_ok_iff.1 divided
      rw [quotient?_eq_some nonneg bound] at value
      cases value
      have sizes : part.natAbs ≤ whole.natAbs := by omega
      exact mixture_of_zero weightless (nearest_bits_lt_infinity_bits sizes) (unsigned share rfl)

section Single

variable (profiled : fingerprint.ProfiledFrom classes options)
  (digests : ∀ descriptor ∈ classes, IsDigest descriptor.contentHash)
  (made : query.MadeFrom queryClasses options)
  (free : CollisionFree (fingerprint.jointMessages query))
  (single : fingerprint.hashTrees.length = 1)

include profiled digests made free single

theorem held_classes_of_exact_paths {paths : List PackagePath}
    (places : exactPaths? (QueryIndex.ofTree query) fingerprint.hashTrees = some paths) :
    (fingerprint.heldClasses query : Int) = fingerprint.classCount := by
  obtain ⟨tree, only⟩ := List.length_eq_one_iff.1 single
  obtain ⟨_, placed⟩ := found_apart_of_single only places
  have agree := distinguished_of_collision_free profiled digests made free
  have whole := (wholly_counted_iff_le profiled.built agree).2
    (package_bags_le_of_found_apart profiled digests made free placed)
  exact whole.1

variable (valid : settings.Valid) (weightless : (settings.pathAwareWeight == 0.0) = true)
  {share : Float}
  (divided : ratio (fingerprint.heldClasses query) fingerprint.classCount = .ok share)

include weightless divided

theorem reported_of_match? (valid : settings.Valid) {found : LibraryMatch}
    (result : fingerprint.match? (QueryIndex.ofTree query) settings = .ok (some found)) :
    fingerprint.heldClasses query ≠ 0 ∧ ¬ share < settings.minScore ∧ found.score = share ∧
      found.matchedClasses = fingerprint.heldClasses query := by
  obtain ⟨_, _, ⟨paths, places, rfl⟩ | ⟨_, inPart⟩⟩ := match?_eq_some_iff.1 result
  · have all := held_classes_of_exact_paths profiled digests made free single places
    have positive := profiled.class_count_pos
    rw [all, ratio_eq_ok_iff, quotient?_self positive, Option.some.injEq] at divided
    subst divided
    have most := valid.min_score_bounds.2
    obtain ⟨leastOrdered, oneOrdered⟩ := ordered_of_le most
    refine ⟨by omega, ?_, rfl, all.symm⟩
    rw [lt_iff_rank_lt oneOrdered leastOrdered, not_lt]
    exact (le_iff_rank_le leastOrdered oneOrdered).1 most
  · obtain ⟨loose, aligned, looseShare, alignedShare, some, high, rfl⟩ :=
      partial_match?_eq_some_iff.1 inPart
    obtain ⟨other, again, _, unsigned⟩ :=
      exists_aligned_share profiled.built (QueryIndex.ofTree query) settings
    cases Except.ok.inj (again.symm.trans alignedShare)
    cases Except.ok.inj (looseShare.symm.trans divided)
    have score := mixed_score_of_weightless weightless (Int.natCast_nonneg _)
      (held_classes_le profiled query) divided unsigned
    rw [score] at high
    rw [isEmpty_counts profiled digests made free, decide_eq_false_iff_not] at some
    exact ⟨some, high, score, rfl⟩

omit single in
theorem exists_match?_of_share (held : fingerprint.heldClasses query ≠ 0)
    (high : ¬ share < settings.minScore) :
    ∃ found, fingerprint.match? (QueryIndex.ofTree query) settings = .ok (some found) := by
  have counted : fingerprint.classCount ≠ 0 := profiled.class_count_pos.ne'
  have same : fingerprint.options = (QueryIndex.ofTree query).tree.options :=
    profiled.options_eq.trans made.options_eq.symm
  cases places : exactPaths? (QueryIndex.ofTree query) fingerprint.hashTrees with
  | some paths =>
      exact ⟨_, match?_eq_some_iff.2 ⟨counted, same, .inl ⟨paths, places, rfl⟩⟩⟩
  | none =>
      obtain ⟨aligned, alignedShare, _, unsigned⟩ :=
        exists_aligned_share profiled.built (QueryIndex.ofTree query) settings
      have score := mixed_score_of_weightless weightless (Int.natCast_nonneg _)
        (held_classes_le profiled query) divided unsigned
      have some : (fingerprint.counts (QueryIndex.ofTree query) settings).isEmpty = false := by
        rw [isEmpty_counts profiled digests made free]
        exact decide_eq_false held
      have inPart : fingerprint.partialMatch? settings
          (fingerprint.counts (QueryIndex.ofTree query) settings) =
            .ok (.some (fingerprint.partMatch settings
              (fingerprint.counts (QueryIndex.ofTree query) settings) share aligned)) := by
        refine partial_match?_eq_some_iff.2 ⟨share, aligned, divided, alignedShare, some, ?_, rfl⟩
        rw [score]
        exact high
      exact ⟨_, match?_eq_some_iff.2 ⟨counted, same, .inr ⟨places, inPart⟩⟩⟩

end Single

/-- Degradation is monotonic: where some classes of an application are enough to report a
library with one tree, more classes report it too, with no fewer classes and no lower score. -/
theorem match?_monotone (profiled : fingerprint.ProfiledFrom classes options)
    (digests : ∀ descriptor ∈ classes, IsDigest descriptor.contentHash)
    (single : fingerprint.hashTrees.length = 1) (valid : settings.Valid)
    (weightless : (settings.pathAwareWeight == 0.0) = true)
    {fewer more : List ClassDescriptor} {fewerTree moreTree : PackageTree}
    (moreDigests : ∀ descriptor ∈ more, IsDigest descriptor.contentHash)
    (part : ∀ descriptor ∈ fewer, descriptor ∈ more)
    (fewerMade : PackageTree.ofClasses fewer = .ok fewerTree)
    (moreMade : PackageTree.ofClasses more = .ok moreTree)
    (fewerFree : CollisionFree (fingerprint.jointMessages (fewerTree.wholeHashTree options)))
    (moreFree : CollisionFree (fingerprint.jointMessages (moreTree.wholeHashTree options)))
    {found : LibraryMatch}
    (result : fingerprint.match? (QueryIndex.ofTree (fewerTree.wholeHashTree options)) settings =
      .ok (some found)) :
    ∃ better, fingerprint.match? (QueryIndex.ofTree (moreTree.wholeHashTree options)) settings =
        .ok (some better) ∧
      found.matchedClasses ≤ better.matchedClasses ∧ found.score ≤ better.score := by
  have fewerQuery := HashTree.made_from_whole_hash_tree options
    (fun descriptor member => moreDigests descriptor (part descriptor member)) fewerMade
  have moreQuery := HashTree.made_from_whole_hash_tree options moreDigests moreMade
  have grows := held_classes_mono profiled digests fewerQuery moreQuery fewerFree moreFree
    (PackageTree.class_hash_bag_whole_hash_tree_le options part fewerMade moreMade)
  have counts : (fingerprint.heldClasses (fewerTree.wholeHashTree options) : Int) ≤
      fingerprint.heldClasses (moreTree.wholeHashTree options) := Int.ofNat_le.2 grows
  -- both verdicts are compared by these shares, whichever of them is exact
  obtain ⟨share, divided, ordered⟩ := exists_share profiled (fewerTree.wholeHashTree options)
  obtain ⟨moreShare, moreDivided, moreOrdered⟩ :=
    exists_share profiled (moreTree.wholeHashTree options)
  have rises : rank share ≤ rank moreShare := quotient_le_quotient (Int.natCast_nonneg _) counts
    (held_classes_le profiled _) (ratio_eq_ok_iff.1 divided) (ratio_eq_ok_iff.1 moreDivided)
  obtain ⟨held, high, score, matched⟩ := reported_of_match? profiled digests fewerQuery fewerFree
    single weightless divided valid result
  have stillHigh : ¬ moreShare < settings.minScore :=
    not_lt_of_rank_le ordered moreOrdered (ordered_of_le valid.min_score_bounds.1).2 rises high
  obtain ⟨better, again⟩ := exists_match?_of_share profiled digests moreQuery moreFree weightless
    moreDivided (by omega) stillHigh
  obtain ⟨_, _, betterScore, betterMatched⟩ := reported_of_match? profiled digests moreQuery
    moreFree single weightless moreDivided valid again
  refine ⟨better, again, ?_, ?_⟩
  · rw [matched, betterMatched]
    exact counts
  · rw [score, betterScore, le_iff_rank_le ordered moreOrdered]
    exact rises

def codecBeside : List ClassDescriptor :=
  ClassDescriptor.make ["c"] "Stream" ["read()I"] .topLevel :: codecIn [["c"]]

def codecBesideTree : PackageTree := ⟨⟨"", [], [⟨"c", codecBeside.reverse, []⟩]⟩⟩

/-- Beside another class a library that was found exactly is found in part, with as many of
its classes. -/
theorem codec_found_beside :
    ∃ found better,
      (ofCodecPackages ["a"]).match? (QueryIndex.ofTree oneCodec) {} = .ok (some found) ∧
      found.strategy = .exact ∧
      (ofCodecPackages ["a"]).match? (QueryIndex.ofTree (codecBesideTree.wholeHashTree {})) {} =
        .ok (some better) ∧
      better.strategy = .inPart ∧
      found.matchedClasses ≤ better.matchedClasses ∧ found.score ≤ better.score := by
  have digests : ∀ descriptor ∈ codecBeside, IsDigest descriptor.contentHash := by
    intro descriptor member
    rcases List.mem_cons.1 member with rfl | last
    · exact is_digest_content_hash _
    · exact is_digest_of_mem_codec_in _ descriptor last
  have part : ∀ descriptor ∈ codecIn [["c"]], descriptor ∈ codecBeside := fun _ member =>
    List.mem_cons_of_mem _ member
  have nowhere : exactPaths? (QueryIndex.ofTree (codecBesideTree.wholeHashTree {}))
      (ofCodecPackages ["a"]).hashTrees = none := by decide +kernel
  obtain ⟨found, result, isExact⟩ := exists_exact_one_codec {}
  have fewerMade : PackageTree.ofClasses (codecIn [["c"]]) = .ok (codecPackages ["c"]) := rfl
  have moreMade : PackageTree.ofClasses codecBeside = .ok codecBesideTree := rfl
  obtain ⟨better, again, matched, score⟩ := match?_monotone of_codec_packages_profiled_from
    (is_digest_of_mem_codec_in _) rfl valid_default rfl digests part fewerMade moreMade
    (by decide +kernel) (by decide +kernel) result
  obtain ⟨_, _, ⟨paths, places, _⟩ | ⟨_, inPart⟩⟩ := match?_eq_some_iff.1 again
  · rw [nowhere] at places
    cases places
  · exact ⟨found, better, result, isExact, again, strategy_partial_match? inPart, matched, score⟩

end Fingerprint

end LibraryDetection

import LibraryDetection.Proofs.Matching.Reported
import LibraryDetection.Proofs.Number.Mixture
import Mathlib.Data.Prod.Lex
import Mathlib.Data.String.Basic

/-!
# The order of a ranking

Scores are compared as machine values, which in general is no order.  The scores that are
reported are numbers, so that a ranking is sorted by a key, and the key ends with what tells
the libraries of a corpus apart.  The order of the corpus therefore leaves no trace.
-/

namespace LibraryDetection

set_option autoImplicit false

open LibraryDetection.Number

def MatchSettings.Valid (settings : MatchSettings) : Prop :=
  ∃ minScore pathAware weight, MatchSettings.make minScore pathAware weight = .ok settings

namespace MatchSettings

variable {settings : MatchSettings}

theorem bounds_of_within_unit {value : Float} (within : withinUnit value = true) :
    0.0 ≤ value ∧ value ≤ 1.0 := by
  rw [withinUnit, Bool.and_eq_true, decide_eq_true_eq, decide_eq_true_eq] at within
  exact within

theorem Valid.within (valid : settings.Valid) :
    withinUnit settings.minScore = true ∧ withinUnit settings.pathAwareWeight = true := by
  obtain ⟨minScore, pathAware, weight, made⟩ := valid
  rw [make] at made
  split at made
  · cases made
  · split at made
    · cases made
    · split at made
      · cases made
      · rename_i least share _
        cases made
        exact ⟨by simpa using least, by simpa using share⟩

theorem Valid.weight_bounds (valid : settings.Valid) :
    0.0 ≤ settings.pathAwareWeight ∧ settings.pathAwareWeight ≤ 1.0 :=
  bounds_of_within_unit valid.within.2

theorem Valid.min_score_bounds (valid : settings.Valid) :
    0.0 ≤ settings.minScore ∧ settings.minScore ≤ 1.0 :=
  bounds_of_within_unit valid.within.1

end MatchSettings

def LibraryDescription.identity (description : LibraryDescription) : String × String :=
  (description.name, description.version)

namespace LibraryMatch

variable {settings : MatchSettings} {a b : LibraryMatch}

def AlignedAlike (settings : MatchSettings) (a b : LibraryMatch) : Prop :=
  settings.pathAware = true →
    ∃ share other, a.alignedScore = some share ∧ b.alignedScore = some other ∧
      (share == other) = true

/-- By score, by aligned score where paths are looked at and by the number of classes, each
falling, then by name and by version. -/
inductive RanksBefore (settings : MatchSettings) (a b : LibraryMatch) : Prop
  | score (higher : b.score < a.score)
  | aligned (tied : (a.score == b.score) = true) (looked : settings.pathAware = true)
      {share other : Float} (mine : a.alignedScore = some share)
      (others : b.alignedScore = some other) (higher : other < share)
  | size (tied : (a.score == b.score) = true) (alike : a.AlignedAlike settings b)
      (larger : b.classCount < a.classCount)
  | name (tied : (a.score == b.score) = true) (alike : a.AlignedAlike settings b)
      (same : a.classCount = b.classCount) (before : a.description.name < b.description.name)
  | version (tied : (a.score == b.score) = true) (alike : a.AlignedAlike settings b)
      (same : a.classCount = b.classCount) (named : a.description.name = b.description.name)
      (before : a.description.version < b.description.version)

/-- The scores of a match are numbers, and there is one with paths where they are looked at. -/
structure Comparable (settings : MatchSettings) (found : LibraryMatch) : Prop where
  score : Ordered found.score
  aligned : settings.pathAware = true →
    ∃ share, found.alignedScore = some share ∧ Ordered share

/-- A key that rises along a ranking.  Scores and counts fall in a ranking, and so stand in the
key with the opposite sign. -/
def rankKey (settings : MatchSettings) (found : LibraryMatch) :
    Int ×ₗ Int ×ₗ Int ×ₗ String ×ₗ String :=
  toLex (-rank found.score, toLex (-rank (found.tieScore settings), toLex (-found.classCount,
    toLex found.description.identity)))

theorem Comparable.tie_score (comparable : a.Comparable settings) :
    Ordered (a.tieScore settings) := by
  rw [LibraryMatch.tieScore]
  split
  · rename_i looked
    obtain ⟨share, isShare, ordered⟩ := comparable.aligned looked
    rw [isShare]
    exact ordered
  · rw [Ordered, unpack_zero]
    exact fun same => by cases same

theorem tie_score_eq (looked : settings.pathAware = true) {share : Float}
    (isShare : a.alignedScore = some share) : a.tieScore settings = share := by
  rw [LibraryMatch.tieScore, if_pos looked, isShare]

theorem ranked_before_eq (aComparable : a.Comparable settings)
    (bComparable : b.Comparable settings) :
    a.rankedBefore settings b = decide (a.rankKey settings ≤ b.rankKey settings) := by
  have scores := beq_iff_rank_eq aComparable.score bComparable.score
  have higher := lt_iff_rank_lt bComparable.score aComparable.score
  have shares := beq_iff_rank_eq aComparable.tie_score bComparable.tie_score
  have higherShare := lt_iff_rank_lt bComparable.tie_score aComparable.tie_score
  rw [rankedBefore]
  simp only [rankKey, LibraryDescription.identity, Prod.Lex.toLex_le_toLex, Int.neg_lt_neg_iff,
    Int.neg_inj, scores, higher, shares, higherShare]
  by_cases sameScore : rank a.score = rank b.score
  · by_cases sameShare : rank (a.tieScore settings) = rank (b.tieScore settings)
    · by_cases sameSize : a.classCount = b.classCount
      · by_cases sameName : a.description.name = b.description.name
        · simp [sameScore, sameShare, sameSize, sameName, textLe]
        · simp only [sameScore, sameShare, sameSize, sameName, textLe, if_true, if_false,
            lt_irrefl, true_and, false_and, false_or, or_false, decide_eq_decide]
          exact ⟨fun before => before.lt_of_ne sameName, fun before => before.le⟩
      · simp [sameScore, sameShare, sameSize]
    · simp [sameScore, sameShare]
  · simp [sameScore]

theorem ranks_before_of_rank_key_lt (aComparable : a.Comparable settings)
    (bComparable : b.Comparable settings) (rises : a.rankKey settings < b.rankKey settings) :
    a.RanksBefore settings b := by
  have scores := beq_iff_rank_eq aComparable.score bComparable.score
  have higher := lt_iff_rank_lt bComparable.score aComparable.score
  have shares := beq_iff_rank_eq aComparable.tie_score bComparable.tie_score
  have higherShare := lt_iff_rank_lt bComparable.tie_score aComparable.tie_score
  simp only [rankKey, LibraryDescription.identity, Prod.Lex.toLex_lt_toLex, Int.neg_lt_neg_iff,
    Int.neg_inj, ← scores, ← higher, ← shares, ← higherShare] at rises
  have alike : (a.tieScore settings == b.tieScore settings) = true →
      a.AlignedAlike settings b := by
    intro tied looked
    obtain ⟨share, isShare, _⟩ := aComparable.aligned looked
    obtain ⟨other, isOther, _⟩ := bComparable.aligned looked
    rw [tie_score_eq looked isShare, tie_score_eq looked isOther] at tied
    exact ⟨share, other, isShare, isOther, tied⟩
  rcases rises with above | ⟨tied, above | ⟨tiedShare, larger | ⟨same, before | ⟨named, before⟩⟩⟩⟩
  · exact .score above
  · cases looked : settings.pathAware with
    | true =>
        obtain ⟨share, isShare, _⟩ := aComparable.aligned looked
        obtain ⟨other, isOther, _⟩ := bComparable.aligned looked
        rw [tie_score_eq looked isShare, tie_score_eq looked isOther] at above
        exact .aligned tied looked isShare isOther above
    | false =>
        -- without paths all tie scores are zero
        rw [LibraryMatch.tieScore, LibraryMatch.tieScore, looked] at above
        simp only [Bool.false_eq_true, if_false] at above
        exact absurd above (by decide)
  · exact .size tied (alike tiedShare) larger
  · exact .name tied (alike tiedShare) same before
  · exact .version tied (alike tiedShare) same named before

section Sorting

variable {found : List LibraryMatch} (comparable : ∀ a ∈ found, a.Comparable settings)

include comparable

theorem ranked_before_eq_of_mem : ∀ a ∈ found, ∀ b ∈ found,
    a.rankedBefore settings b = decide (a.rankKey settings ≤ b.rankKey settings) :=
  fun a isFound b alsoFound => ranked_before_eq (comparable a isFound) (comparable b alsoFound)

variable (apart : (found.map (·.description.identity)).Nodup)

include apart

omit comparable in
theorem eq_of_rank_key_eq : ∀ a ∈ found, ∀ b ∈ found,
    a.rankKey settings = b.rankKey settings → a = b := by
  intro a isFound b alsoFound same
  have identity : a.description.identity = b.description.identity :=
    congrArg (fun key => ofLex (ofLex (ofLex (ofLex key).2).2).2) same
  exact List.inj_on_of_nodup_map apart isFound alsoFound identity

theorem sort_by_ranked_before_eq {again : List LibraryMatch} (order : again.Perm found) :
    sortBy (rankedBefore settings) again = sortBy (rankedBefore settings) found :=
  (sort_by_eq_of_perm (ranked_before_eq_of_mem comparable) (eq_of_rank_key_eq apart)
    order.symm).symm

theorem pairwise_ranks_before :
    (sortBy (rankedBefore settings) found).Pairwise (RanksBefore settings) := by
  have once : (sortBy (rankedBefore settings) found).Nodup :=
    (sort_by_perm _ found).nodup_iff.2 apart.of_map
  refine ((pairwise_sort_by_key (ranked_before_eq_of_mem comparable)).and once).imp_of_mem ?_
  rintro a b inSorted alsoInSorted ⟨rises, different⟩
  have isFound := mem_sort_by.1 inSorted
  have alsoFound := mem_sort_by.1 alsoInSorted
  have strictly : a.rankKey settings ≠ b.rankKey settings := fun same =>
    different (eq_of_rank_key_eq apart a isFound b alsoFound same)
  exact ranks_before_of_rank_key_lt (comparable a isFound) (comparable b alsoFound)
    (rises.lt_of_ne strictly)

end Sorting

end LibraryMatch

namespace Fingerprint

variable {fingerprint : Fingerprint} {index : QueryIndex} {settings : MatchSettings}
  {found : LibraryMatch}

theorem description_of_match? (result : fingerprint.match? index settings = .ok (some found)) :
    found.description = fingerprint.description := by
  obtain ⟨_, _, ⟨paths, _, rfl⟩ | ⟨_, inPart⟩⟩ := match?_eq_some_iff.1 result
  · rfl
  · obtain ⟨loose, aligned, _, _, _, _, rfl⟩ := partial_match?_eq_some_iff.1 inPart
    rfl

theorem ordered_mixed_score (valid : settings.Valid) {loose : Float} {aligned : Option Float}
    (looseUnsigned : Unsigned loose) (alignedUnsigned : ∀ share ∈ aligned, Unsigned share) :
    Ordered (mixedScore settings loose aligned) := by
  cases aligned with
  | none => exact looseUnsigned.ordered
  | some share =>
      obtain ⟨least, most⟩ := valid.weight_bounds
      exact ordered_mixture least most looseUnsigned (alignedUnsigned share rfl)

theorem comparable_of_match? (built : ∀ tree ∈ fingerprint.hashTrees, tree.Built)
    (valid : settings.Valid)
    (result : fingerprint.match? index settings = .ok (some found)) :
    found.Comparable settings := by
  obtain ⟨_, _, ⟨paths, _, rfl⟩ | ⟨_, inPart⟩⟩ := match?_eq_some_iff.1 result
  · have one : Ordered 1.0 := fun same => by cases same
    refine ⟨one, fun looked => ⟨1.0, ?_, one⟩⟩
    rw [exactMatch, if_pos looked]
  · obtain ⟨loose, aligned, share, alignedShare, _, _, rfl⟩ := partial_match?_eq_some_iff.1 inPart
    obtain ⟨other, again, looked, unsigned⟩ := exists_aligned_share built index settings
    have same : other = aligned := Except.ok.inj (again.symm.trans alignedShare)
    subst same
    have nonneg : (0 : Int) ≤ (fingerprint.counts index settings).total :=
      (Int.natCast_nonneg _).trans (loose_evidence_le built index)
    have looseUnsigned := unsigned_of_ratio (Int.natCast_nonneg _) nonneg share
    refine ⟨ordered_mixed_score valid looseUnsigned unsigned, ?_⟩
    intro paths
    rw [paths, Option.isSome_iff_exists] at looked
    obtain ⟨score, isScore⟩ := looked
    exact ⟨score, isScore, (unsigned score isScore).ordered⟩

end Fingerprint

variable {index : QueryIndex} {settings : MatchSettings} {corpus permuted : List Fingerprint}

theorem identities_sublist {verdicts : List (Option LibraryMatch)}
    (pairs : List.Forall₂ (fun fingerprint verdict =>
      Fingerprint.match? fingerprint index settings = .ok verdict) corpus verdicts) :
    ((verdicts.flatMap Option.toList).map (·.description.identity)).Sublist
      (corpus.map (·.description.identity)) := by
  induction pairs with
  | nil => exact List.Sublist.slnil
  | @cons fingerprint verdict rest others result _ ih =>
      cases verdict with
      | none => exact ih.cons _
      | some found =>
          have same := Fingerprint.description_of_match? result
          rw [List.flatMap_cons, Option.toList_some, List.singleton_append, List.map_cons,
            List.map_cons, same]
          exact ih.cons_cons _

theorem exists_matches_of_perm (same : permuted.Perm corpus) {found : List LibraryMatch}
    (done : matchesOf index settings corpus = .ok found) :
    ∃ again, matchesOf index settings permuted = .ok again ∧ again.Perm found := by
  obtain ⟨verdicts, pairs, rfl⟩ := matches_of_eq_ok_iff.1 done
  obtain ⟨others, otherPairs, order⟩ := List.perm_comp_forall₂ same pairs
  exact ⟨others.flatMap Option.toList, matches_of_eq_ok_iff.2 ⟨others, otherPairs, rfl⟩,
    order.flatMap_right _⟩

theorem exists_fingerprint_of_mem {verdicts : List (Option LibraryMatch)}
    (pairs : List.Forall₂ (fun fingerprint verdict =>
      Fingerprint.match? fingerprint index settings = .ok verdict) corpus verdicts)
    {found : LibraryMatch} (member : found ∈ verdicts.flatMap Option.toList) :
    ∃ fingerprint ∈ corpus, fingerprint.match? index settings = .ok (some found) := by
  induction pairs with
  | nil => cases member
  | @cons fingerprint verdict rest others result _ ih =>
      rw [List.flatMap_cons, List.mem_append] at member
      rcases member with here | below
      · rw [Option.mem_toList] at here
        rw [here] at result
        exact ⟨fingerprint, List.mem_cons_self, result⟩
      · obtain ⟨other, inRest, found⟩ := ih below
        exact ⟨other, List.mem_cons_of_mem fingerprint inRest, found⟩

theorem exists_comparable_verdicts (index : QueryIndex) (valid : settings.Valid)
    (profiled : ∀ fingerprint ∈ corpus, ∃ classes options,
      fingerprint.ProfiledFrom classes options) :
    ∃ verdicts,
      List.Forall₂ (fun fingerprint verdict =>
        Fingerprint.match? fingerprint index settings = .ok verdict) corpus verdicts ∧
      matchesOf index settings corpus = .ok (verdicts.flatMap Option.toList) ∧
      ∀ found ∈ verdicts.flatMap Option.toList, found.Comparable settings := by
  have built : ∀ fingerprint ∈ corpus, ∀ tree ∈ fingerprint.hashTrees, tree.Built := by
    intro fingerprint member
    obtain ⟨classes, options, isProfiled⟩ := profiled fingerprint member
    exact isProfiled.built
  obtain ⟨verdicts, pairs⟩ := exists_forall₂_iff.2 fun fingerprint member =>
    Fingerprint.exists_match? (built fingerprint member) index settings
  refine ⟨verdicts, pairs, matches_of_eq_ok_iff.2 ⟨verdicts, pairs, rfl⟩, ?_⟩
  intro found member
  obtain ⟨fingerprint, inCorpus, result⟩ := exists_fingerprint_of_mem pairs member
  exact Fingerprint.comparable_of_match? (built fingerprint inCorpus) valid result

/-- A ranking does not depend on the order of the corpus: it lists every match of a member
once, each before those that it outranks. -/
theorem match_corpus_ranked (index : QueryIndex) (valid : settings.Valid)
    (profiled : ∀ fingerprint ∈ corpus, ∃ classes options,
      fingerprint.ProfiledFrom classes options)
    (apart : (corpus.map (·.description.identity)).Nodup) :
    ∃ verdicts ranked,
      List.Forall₂ (fun fingerprint verdict =>
        Fingerprint.match? fingerprint index settings = .ok verdict) corpus verdicts ∧
      (∀ permuted, permuted.Perm corpus → matchCorpus index permuted settings = .ok ranked) ∧
      ranked.Perm (verdicts.flatMap Option.toList) ∧
      ranked.Pairwise (LibraryMatch.RanksBefore settings) := by
  obtain ⟨verdicts, pairs, done, comparable⟩ := exists_comparable_verdicts index valid profiled
  have identities : ((verdicts.flatMap Option.toList).map (·.description.identity)).Nodup :=
    apart.sublist (identities_sublist pairs)
  refine ⟨verdicts, sortBy (LibraryMatch.rankedBefore settings) (verdicts.flatMap Option.toList),
    pairs, ?_, sort_by_perm _ _, LibraryMatch.pairwise_ranks_before comparable identities⟩
  intro permuted same
  obtain ⟨again, doneAgain, order⟩ := exists_matches_of_perm same done
  rw [matchCorpus, doneAgain]
  exact congrArg Except.ok (LibraryMatch.sort_by_ranked_before_eq comparable identities order)

def Fingerprint.coreOfCodec : Fingerprint :=
  { Fingerprint.ofCodecPackages ["a"] with description := ⟨"core", "1", .unknown, none, none⟩ }

theorem valid_default : MatchSettings.Valid {} :=
  ⟨0.6, true, 0.0, rfl⟩

/-- Of two libraries with one score the first by name leads, whichever comes first. -/
theorem ranking_of_codec_and_core :
    ∃ ranked,
      matchCorpus (QueryIndex.ofTree Fingerprint.oneCodec)
        [Fingerprint.ofCodecPackages ["a"], Fingerprint.coreOfCodec] {} = .ok ranked ∧
      matchCorpus (QueryIndex.ofTree Fingerprint.oneCodec)
        [Fingerprint.coreOfCodec, Fingerprint.ofCodecPackages ["a"]] {} = .ok ranked ∧
      ranked.Pairwise (LibraryMatch.RanksBefore {}) ∧
      ranked.map (·.description.name) = ["codec", "core"] := by
  have profiled : ∀ fingerprint ∈ [Fingerprint.ofCodecPackages ["a"], Fingerprint.coreOfCodec],
      ∃ classes options, fingerprint.ProfiledFrom classes options := by
    intro fingerprint member
    rcases List.mem_cons.1 member with rfl | last
    · exact ⟨_, _, Fingerprint.of_codec_packages_profiled_from⟩
    · rw [List.mem_singleton.1 last]
      exact ⟨codecIn [["a"]], {}, Fingerprint.coreOfCodec.description, rfl⟩
  obtain ⟨_, ranked, _, every, _, sorted⟩ := match_corpus_ranked
    (QueryIndex.ofTree Fingerprint.oneCodec) valid_default profiled (by decide)
  have listed : (matchCorpus (QueryIndex.ofTree Fingerprint.oneCodec)
      [Fingerprint.ofCodecPackages ["a"], Fingerprint.coreOfCodec] {}).toOption.map
        (List.map (·.description.name)) = some ["codec", "core"] := by decide +kernel
  rw [every _ (List.Perm.refl _)] at listed
  exact ⟨ranked, every _ (List.Perm.refl _), every _ (List.Perm.swap _ _ _), sorted,
    Option.some.inj listed⟩

end LibraryDetection

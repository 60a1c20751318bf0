import LibraryDetection.Proofs.Matching.Order

/-!
# Higher thresholds

The least score decides whether a library is reported and nothing else.  With a higher one the
ranking of a corpus is what is left of it once the libraries below the new threshold are struck
out: no field of a match changes, and no two matches change places.
-/

namespace LibraryDetection

set_option autoImplicit false

open LibraryDetection.Number

/-- Settings that differ in the least score alone, which is not lower in the second. -/
structure MatchSettings.RaisedTo (settings higher : MatchSettings) : Prop where
  pathAware : higher.pathAware = settings.pathAware
  weight : higher.pathAwareWeight = settings.pathAwareWeight
  rises : settings.minScore ≤ higher.minScore

def LibraryMatch.reaches (least : Float) (found : LibraryMatch) : Bool := ¬ found.score < least

section Raised

variable {settings higher : MatchSettings} (raised : settings.RaisedTo higher)
  {fingerprint : Fingerprint} {index : QueryIndex} {corpus : List Fingerprint}

include raised

theorem LibraryMatch.ranked_before_of_raised :
    LibraryMatch.rankedBefore higher = LibraryMatch.rankedBefore settings := by
  funext a b
  unfold rankedBefore tieScore
  rw [raised.pathAware]

namespace Fingerprint

theorem mixed_score_of_raised (loose : Float) (aligned : Option Float) :
    mixedScore higher loose aligned = mixedScore settings loose aligned := by
  unfold mixedScore
  rw [raised.weight]

theorem counts_of_raised : fingerprint.counts index higher = fingerprint.counts index settings := by
  unfold counts
  rw [raised.pathAware]

theorem exact_match_of_raised (paths : List PackagePath) :
    fingerprint.exactMatch higher paths = fingerprint.exactMatch settings paths := by
  unfold exactMatch
  rw [raised.pathAware]

/-- A library that is found in part is struck out when its score is below the new threshold;
below the old one it was not reported in the first place. -/
theorem partial_match?_of_raised (counts : Counts) :
    fingerprint.partialMatch? higher counts =
      (fingerprint.partialMatch? settings counts).map
        (Option.filter (LibraryMatch.reaches higher.minScore)) := by
  unfold partialMatch?
  cases ratio counts.loose.1 counts.total with
  | error error => rfl
  | ok loose =>
      cases counts.alignedShare with
      | error error => rfl
      | ok aligned =>
          simp only [mixed_score_of_raised raised]
          by_cases empty : counts.isEmpty = true
          · simp only [empty, if_true]
            rfl
          · by_cases below : mixedScore settings loose aligned < settings.minScore
            · have alsoBelow := below_of_below_of_le below raised.rises
              simp only [empty, below, alsoBelow, if_true]
              rfl
            · by_cases struck : mixedScore settings loose aligned < higher.minScore
              · simp [empty, below, struck, Except.map, Option.filter, LibraryMatch.reaches]
              · simp [empty, below, struck, Except.map, Option.filter, LibraryMatch.reaches]

theorem match?_of_raised (valid : higher.Valid) :
    fingerprint.match? index higher =
      (fingerprint.match? index settings).map
        (Option.filter (LibraryMatch.reaches higher.minScore)) := by
  unfold match?
  split
  · rfl
  · split
    · rfl
    · cases exactPaths? index fingerprint.hashTrees with
      | none =>
          rw [counts_of_raised raised]
          exact partial_match?_of_raised raised _
      | some paths =>
          have reached : LibraryMatch.reaches higher.minScore
              (fingerprint.exactMatch settings paths) = true :=
            decide_eq_true (not_below_of_le valid.min_score_bounds.2)
          simp only [exact_match_of_raised raised, Except.map, Option.filter, reached, if_true]

end Fingerprint

theorem matches_of_of_raised (valid : higher.Valid) :
    matchesOf index higher corpus =
      (matchesOf index settings corpus).map
        (List.filter (LibraryMatch.reaches higher.minScore)) := by
  induction corpus with
  | nil => rfl
  | cons fingerprint rest ih =>
      rw [matchesOf, matchesOf, Fingerprint.match?_of_raised raised valid, ih]
      cases fingerprint.match? index settings with
      | error error => rfl
      | ok verdict =>
          cases matchesOf index settings rest with
          | error error => rfl
          | ok others =>
              have here : (verdict.filter (LibraryMatch.reaches higher.minScore)).toList =
                  verdict.toList.filter (LibraryMatch.reaches higher.minScore) := by
                cases verdict with
                | none => rfl
                | some found =>
                    rw [Option.toList_some, List.filter_cons]
                    cases reached : found.reaches higher.minScore <;>
                      simp [Option.filter, reached]
              simp only [Except.map, List.filter_append, here]

/-- With a higher threshold the ranking of a corpus is the former ranking without the matches
that score below the new threshold. -/
theorem match_corpus_of_raised (valid : settings.Valid) (higherValid : higher.Valid)
    (profiled : ∀ fingerprint ∈ corpus, ∃ classes options,
      fingerprint.ProfiledFrom classes options) (index : QueryIndex) :
    ∃ ranked, matchCorpus index corpus settings = .ok ranked ∧
      matchCorpus index corpus higher =
        .ok (ranked.filter fun found => ¬ found.score < higher.minScore) := by
  obtain ⟨verdicts, _, done, comparable⟩ := exists_comparable_verdicts index valid profiled
  refine ⟨sortBy (LibraryMatch.rankedBefore settings) (verdicts.flatMap Option.toList), ?_, ?_⟩
  · rw [matchCorpus, done]
    rfl
  · have kept := filter_sort_by (LibraryMatch.ranked_before_eq_of_mem comparable)
      (LibraryMatch.reaches higher.minScore)
    rw [matchCorpus, matches_of_of_raised raised higherValid, done,
      LibraryMatch.ranked_before_of_raised raised]
    exact congrArg Except.ok kept.symm

end Raised

/-- A library of two codecs of which the application holds one scores one half, and leaves the
ranking when the threshold rises above that. -/
theorem ranking_of_half_found :
    ∃ ranked,
      matchCorpus (QueryIndex.ofTree Fingerprint.oneCodec)
        [Fingerprint.ofNestedCodec, Fingerprint.ofCodecPackages ["a"]] { minScore := 0.5 } =
          .ok ranked ∧
      ranked.map (·.classCount) = [1, 2] ∧
      matchCorpus (QueryIndex.ofTree Fingerprint.oneCodec)
        [Fingerprint.ofNestedCodec, Fingerprint.ofCodecPackages ["a"]] { minScore := 0.75 } =
          .ok (ranked.filter fun found => ¬ found.score < 0.75) ∧
      (ranked.filter fun found => ¬ found.score < 0.75).map (·.classCount) = [1] := by
  have raised : MatchSettings.RaisedTo { minScore := 0.5 } { minScore := 0.75 } :=
    ⟨rfl, rfl, by decide +kernel⟩
  have profiled : ∀ fingerprint ∈ [Fingerprint.ofNestedCodec, Fingerprint.ofCodecPackages ["a"]],
      ∃ classes options, fingerprint.ProfiledFrom classes options := by
    intro fingerprint member
    cases List.mem_cons.1 member with
    | inl nested =>
        rw [nested]
        exact ⟨codecIn [["a"], ["a", "b"]], {}, Fingerprint.ofNestedCodec.description, rfl⟩
    | inr last =>
        rw [List.mem_singleton.1 last]
        exact ⟨_, _, Fingerprint.of_codec_packages_profiled_from⟩
  obtain ⟨ranked, done, again⟩ := match_corpus_of_raised raised ⟨0.5, true, 0.0, rfl⟩
    ⟨0.75, true, 0.0, rfl⟩ profiled (QueryIndex.ofTree Fingerprint.oneCodec)
  have judged : (matchCorpus (QueryIndex.ofTree Fingerprint.oneCodec)
      [Fingerprint.ofNestedCodec, Fingerprint.ofCodecPackages ["a"]]
        { minScore := 0.5 }).toOption.map
          (List.map fun found => (found.classCount, decide (¬ found.score < 0.75))) =
        some [(1, true), (2, false)] := by
    decide +kernel
  rw [done] at judged
  have told : ranked.map (fun found => (found.classCount, decide (¬ found.score < 0.75))) =
      [(1, true), (2, false)] := Option.some.inj judged
  refine ⟨ranked, done, ?_, again, ?_⟩
  · have counts := congrArg (List.map Prod.fst) told
    rwa [List.map_map] at counts
  · have kept := congrArg (fun judgements => (judgements.filter Prod.snd).map Prod.fst) told
    simp only [List.filter_map, List.map_map] at kept
    exact kept

end LibraryDetection

import LibraryDetection.Matching.Verdict
import LibraryDetection.Proofs.Fingerprint.Profile
import LibraryDetection.Proofs.Matching.Alignment
import LibraryDetection.Proofs.Matching.Evidence
import LibraryDetection.Proofs.Number.Quotient

/-!
# Scores of hashed libraries

What is found of a library whose hash trees were made of packages is a part of its classes,
so that its scores are never too large and there is a verdict on it.
-/

namespace LibraryDetection

set_option autoImplicit false

namespace Tally

theorem counted_foldl_take (packages : List HashNode) (tally : Tally) :
    (packages.foldl take tally).matchedClasses + (packages.foldl take tally).loose.length =
      tally.matchedClasses + tally.loose.length +
        (packages.flatMap (·.classHashes)).length := by
  induction packages generalizing tally with
  | nil => rfl
  | cons node packages ih =>
      rw [List.foldl_cons, ih, List.flatMap_cons, List.length_append, take]
      split
      · simp only [HashNode.directCount]
        omega
      · simp only [List.length_append]
        omega

theorem total_le (tally : Tally) :
    tally.total.1 ≤ tally.matchedClasses + tally.loose.length := by
  have shared := Bag.shared_size_le_left tally.loose tally.freeClasses
  rw [total]
  omega

end Tally

theorem length_packages_by_size {trees : List HashTree} (built : ∀ tree ∈ trees, tree.Built) :
    (((packagesBySize trees).flatMap (·.classHashes)).length : Int) =
      total HashTree.classCount trees := by
  have sorted := (sort_by_perm largerFirst (trees.flatMap HashTree.occupied)).flatMap_right
    (fun node => node.classHashes)
  rw [packagesBySize, sorted.length_eq, List.flatMap_assoc,
    HashTree.total_class_count_eq_length built]
  simp only [HashTree.flatMap_occupied]

theorem loose_evidence_le {trees : List HashTree} (built : ∀ tree ∈ trees, tree.Built)
    (index : QueryIndex) :
    ((looseEvidence trees index).1 : Int) ≤ total HashTree.classCount trees := by
  have found := Tally.total_le ((packagesBySize trees).foldl Tally.take (Tally.start index))
  have counted := Tally.counted_foldl_take (packagesBySize trees) (Tally.start index)
  have size := length_packages_by_size built
  have begun : (Tally.start index).matchedClasses + (Tally.start index).loose.length = 0 := rfl
  rw [looseEvidence]
  omega

theorem exists_ratio {part whole : Int} (nonneg : 0 ≤ part) (bound : part ≤ whole) :
    ∃ score, ratio part whole = .ok score := by
  rw [ratio, Number.quotient?_eq_some nonneg bound]
  exact ⟨_, rfl⟩

namespace Fingerprint

variable {fingerprint : Fingerprint}

theorem exists_partial_match? (built : ∀ tree ∈ fingerprint.hashTrees, tree.Built)
    (index : QueryIndex) (settings : MatchSettings) :
    ∃ verdict,
      fingerprint.partialMatch? settings (fingerprint.counts index settings) = .ok verdict := by
  obtain ⟨loose, looseScore⟩ :=
    exists_ratio (Int.natCast_nonneg (looseEvidence fingerprint.hashTrees index).1)
      (loose_evidence_le built index)
  have share : ∃ aligned, (fingerprint.counts index settings).alignedShare = .ok aligned := by
    rw [Counts.alignedShare, counts]
    cases settings.pathAware with
    | false => exact ⟨none, rfl⟩
    | true =>
        obtain ⟨least, most⟩ := align_trees_bounds built index
        obtain ⟨score, found⟩ := exists_ratio least most
        refine ⟨some score, ?_⟩
        simp only [if_true, Fingerprint.classCount, found]
        rfl
  obtain ⟨aligned, alignedScore⟩ := share
  have mixed : ratio (fingerprint.counts index settings).loose.1
      (fingerprint.counts index settings).total = .ok loose := looseScore
  rw [partialMatch?, mixed, alignedScore]
  dsimp only
  split
  · exact ⟨none, rfl⟩
  · split
    · exact ⟨none, rfl⟩
    · exact ⟨some _, rfl⟩

theorem exists_match? (built : ∀ tree ∈ fingerprint.hashTrees, tree.Built) (index : QueryIndex)
    (settings : MatchSettings) : ∃ verdict, fingerprint.match? index settings = .ok verdict := by
  rw [match?]
  split
  · exact ⟨none, rfl⟩
  · split
    · exact ⟨none, rfl⟩
    · split
      · exact ⟨some _, rfl⟩
      · exact exists_partial_match? built index settings

theorem match?_congr {other : Fingerprint}
    (descriptions : fingerprint.description = other.description)
    (trees : fingerprint.hashTrees = other.hashTrees) (index : QueryIndex)
    (settings : MatchSettings) :
    fingerprint.match? index settings = other.match? index settings := by
  obtain ⟨description, packageTree, hashTrees⟩ := fingerprint
  obtain ⟨otherDescription, otherTree, otherHashTrees⟩ := other
  simp only at descriptions trees
  subst descriptions trees
  rfl

end Fingerprint

end LibraryDetection

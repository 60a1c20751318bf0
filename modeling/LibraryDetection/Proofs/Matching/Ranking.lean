import LibraryDetection.Matching.Ranking
import LibraryDetection.Proofs.Collection.Sorted

/-!
# Rankings of verdicts

A ranking lists the verdicts on the members of a corpus, each as often as there is one, and
fails with the first member on which there is none.
-/

namespace LibraryDetection

set_option autoImplicit false

variable {index : QueryIndex} {settings : MatchSettings} {corpus : List Fingerprint}

theorem matches_of_eq_ok_iff {found : List LibraryMatch} :
    matchesOf index settings corpus = .ok found ↔
      ∃ verdicts : List (Option LibraryMatch),
        List.Forall₂ (fun fingerprint verdict =>
          Fingerprint.match? fingerprint index settings = .ok verdict) corpus verdicts ∧
        found = verdicts.flatMap Option.toList := by
  induction corpus generalizing found with
  | nil =>
      constructor
      · intro done
        cases done
        exact ⟨[], .nil, rfl⟩
      · rintro ⟨verdicts, pairs, rfl⟩
        cases pairs
        rfl
  | cons fingerprint rest ih =>
      rw [matchesOf]
      constructor
      · intro done
        split at done
        · cases done
        · rename_i verdict first
          split at done
          · cases done
          · rename_i others below
            cases done
            obtain ⟨verdicts, pairs, rfl⟩ := ih.1 below
            exact ⟨verdict :: verdicts, .cons first pairs, rfl⟩
      · rintro ⟨verdicts, pairs, rfl⟩
        cases pairs with
        | @cons _ verdict _ others first below =>
            rw [first, ih.2 ⟨others, below, rfl⟩]
            rfl

theorem exists_error_of_matches_of {error : ScoreError}
    (failed : matchesOf index settings corpus = .error error) :
    ∃ fingerprint ∈ corpus, Fingerprint.match? fingerprint index settings = .error error := by
  induction corpus with
  | nil => cases failed
  | cons fingerprint rest ih =>
      rw [matchesOf] at failed
      split at failed
      · rename_i first
        cases failed
        exact ⟨fingerprint, List.mem_cons_self, first⟩
      · split at failed
        · rename_i below
          cases failed
          obtain ⟨other, member, fault⟩ := ih below
          exact ⟨other, List.mem_cons_of_mem fingerprint member, fault⟩
        · cases failed

theorem exists_verdict_of_matches_of {found : List LibraryMatch}
    (done : matchesOf index settings corpus = .ok found) {fingerprint : Fingerprint}
    (member : fingerprint ∈ corpus) :
    ∃ verdict, fingerprint.match? index settings = .ok verdict ∧
      ∀ listed, verdict = some listed → listed ∈ found := by
  obtain ⟨verdicts, pairs, same⟩ := matches_of_eq_ok_iff.1 done
  rw [same]
  clear same done
  induction pairs with
  | nil => cases member
  | @cons first verdict rest others isFirst below ih =>
      rw [List.flatMap_cons]
      rcases List.mem_cons.1 member with rfl | inRest
      · refine ⟨verdict, isFirst, ?_⟩
        rintro listed rfl
        exact List.mem_append_left _ (List.mem_singleton.2 rfl)
      · obtain ⟨other, result, listed⟩ := ih inRest
        refine ⟨other, result, ?_⟩
        intro each same
        exact List.mem_append_right _ (listed each same)

theorem exists_error_of_match_corpus {error : ScoreError}
    (failed : matchCorpus index corpus settings = .error error) :
    ∃ fingerprint ∈ corpus, Fingerprint.match? fingerprint index settings = .error error := by
  rw [matchCorpus] at failed
  cases done : matchesOf index settings corpus with
  | error fault =>
      rw [done] at failed
      cases failed
      exact exists_error_of_matches_of done
  | ok found =>
      rw [done] at failed
      cases failed

theorem match_corpus_eq_too_large {fingerprint : Fingerprint} (member : fingerprint ∈ corpus)
    (fault : fingerprint.match? index settings = .error .tooLarge) :
    matchCorpus index corpus settings = .error .tooLarge := by
  rw [matchCorpus]
  cases done : matchesOf index settings corpus with
  | error error => rfl
  | ok found =>
      obtain ⟨verdict, result, _⟩ := exists_verdict_of_matches_of done member
      rw [result] at fault
      cases fault

theorem mem_of_match_corpus {ranked : List LibraryMatch}
    (done : matchCorpus index corpus settings = .ok ranked) {fingerprint : Fingerprint}
    (member : fingerprint ∈ corpus) {verdict : LibraryMatch}
    (result : fingerprint.match? index settings = .ok (some verdict)) : verdict ∈ ranked := by
  rw [matchCorpus] at done
  cases first : matchesOf index settings corpus with
  | error fault =>
      rw [first] at done
      cases done
  | ok found =>
      rw [first] at done
      cases done
      obtain ⟨same, again, listed⟩ := exists_verdict_of_matches_of first member
      rw [result] at again
      exact mem_sort_by.2 (listed verdict (Except.ok.inj again).symm)

end LibraryDetection

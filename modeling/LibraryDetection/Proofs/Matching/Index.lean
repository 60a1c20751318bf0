import LibraryDetection.Matching.Verdict
import LibraryDetection.Proofs.Fingerprint.Profile
import Mathlib.Order.Bounds.Defs

/-!
# Look-ups in query indexes

A subtree hash is found in the index exactly when some node of the query has it, and the
place that is found is that of such a node.  A verdict is exact when this holds of every
hash tree of the fingerprint, and never otherwise.
-/

namespace LibraryDetection

set_option autoImplicit false

section FirstEntries

variable {α β : Type} [DecidableEq α]

theorem lookup_filter_ne {entries : List (α × β)} {key other : α} (different : key ≠ other) :
    (entries.filter fun entry => decide (entry.1 ≠ other)).lookup key = entries.lookup key := by
  induction entries with
  | nil => rfl
  | cons entry rest ih =>
      obtain ⟨here, value⟩ := entry
      by_cases removed : here = other
      · have missed : (key == here) = false := by
          rw [removed]
          exact beq_false_of_ne different
        rw [List.filter_cons_of_neg (by simpa using removed), ih, List.lookup_cons, missed]
      · rw [List.filter_cons_of_pos (by simpa using removed), List.lookup_cons,
          List.lookup_cons, ih]

theorem lookup_first_entries (entries : List (α × β)) (key : α) :
    (firstEntries entries).lookup key = entries.lookup key := by
  induction entries with
  | nil => rfl
  | cons entry rest ih =>
      obtain ⟨here, value⟩ := entry
      rw [firstEntries, List.lookup_cons, List.lookup_cons]
      by_cases same : key = here
      · rw [beq_iff_eq.2 same]
      · rw [beq_false_of_ne same]
        rw [lookup_filter_ne same]
        exact ih

theorem mem_of_lookup_eq_some {entries : List (α × β)} {key : α} {value : β}
    (found : entries.lookup key = some value) : (key, value) ∈ entries := by
  induction entries with
  | nil => exact absurd found (by simp)
  | cons entry rest ih =>
      obtain ⟨here, other⟩ := entry
      rw [List.lookup_cons] at found
      by_cases same : key = here
      · rw [beq_iff_eq.2 same] at found
        cases found
        rw [same]
        exact List.mem_cons_self
      · rw [beq_false_of_ne same] at found
        exact List.mem_cons_of_mem _ (ih found)

theorem exists_lookup_of_mem {entries : List (α × β)} {entry : α × β} (member : entry ∈ entries) :
    ∃ value, entries.lookup entry.1 = some value := by
  induction entries with
  | nil => exact absurd member List.not_mem_nil
  | cons head rest ih =>
      obtain ⟨here, value⟩ := head
      rw [List.lookup_cons]
      by_cases same : entry.1 = here
      · rw [beq_iff_eq.2 same]
        exact ⟨value, rfl⟩
      · rw [beq_false_of_ne same]
        rcases List.mem_cons.1 member with rfl | inRest
        · exact absurd rfl same
        · exact ih inRest

theorem mem_keys_first_entries {entries : List (α × β)} {key : α} :
    key ∈ (firstEntries entries).map Prod.fst ↔ key ∈ entries.map Prod.fst := by
  induction entries with
  | nil => rfl
  | cons entry rest ih =>
      obtain ⟨here, value⟩ := entry
      by_cases same : key = here
      · simp [firstEntries, same]
      · rw [firstEntries, List.map_cons, List.map_cons, List.mem_cons, List.mem_cons, ← ih]
        simp [same]

theorem nodup_keys_first_entries (entries : List (α × β)) :
    ((firstEntries entries).map Prod.fst).Nodup := by
  induction entries with
  | nil => exact List.nodup_nil
  | cons entry rest ih =>
      rw [firstEntries, List.map_cons, List.nodup_cons]
      constructor
      · simp
      · exact ih.sublist (List.filter_sublist.map Prod.fst)

theorem lookup_of_mem_first_entries {entries : List (α × β)} {entry : α × β}
    (kept : entry ∈ firstEntries entries) : entries.lookup entry.1 = some entry.2 := by
  induction entries with
  | nil => exact absurd kept List.not_mem_nil
  | cons head rest ih =>
      obtain ⟨here, value⟩ := head
      rw [firstEntries] at kept
      cases List.mem_cons.1 kept with
      | inl first =>
          rw [first]
          exact List.lookup_cons_self
      | inr later =>
          obtain ⟨inRest, different⟩ := List.mem_filter.1 later
          rw [List.lookup_cons, beq_false_of_ne (of_decide_eq_true different)]
          exact ih inRest

theorem first_entries_concat (entries : List (α × β)) (entry : α × β) :
    firstEntries (entries ++ [entry]) =
      if entry.1 ∈ entries.map Prod.fst then firstEntries entries
      else firstEntries entries ++ [entry] := by
  induction entries with
  | nil => rfl
  | cons head rest ih =>
      obtain ⟨key, value⟩ := head
      rw [List.cons_append, firstEntries, ih, firstEntries, List.map_cons]
      by_cases known : entry.1 ∈ rest.map Prod.fst
      · rw [if_pos known, if_pos (List.mem_cons_of_mem key known)]
      · rw [if_neg known, List.filter_append]
        by_cases same : entry.1 = key
        · simp [same]
        · rw [if_neg (by simpa [same] using known)]
          simp [same]

theorem is_least_of_lookup [Preorder β] {entries : List (α × β)}
    (rising : entries.Pairwise fun a b => a.2 < b.2) {key : α} {value : β}
    (found : entries.lookup key = some value) : IsLeast {other | (key, other) ∈ entries} value := by
  obtain ⟨before, after, rfl, missed⟩ := List.lookup_eq_some_iff.1 found
  constructor
  · simp
  · intro other member
    cases List.mem_append.1 member with
    | inl earlier => exact absurd rfl (bne_iff_ne.1 (missed _ earlier))
    | inr rest =>
        cases List.mem_cons.1 rest with
        | inl here => rw [(Prod.mk.inj here).2]
        | inr later =>
            have behind := (List.pairwise_append.1 rising).2.1
            exact le_of_lt (List.rel_of_pairwise_cons behind later)

end FirstEntries

namespace QueryIndex

variable {query : HashTree}

theorem exists_node_of_subtree_path? {hash : String} {path : PackagePath}
    (found : (ofTree query).subtreePath? hash = some path) :
    ∃ entry ∈ query.nodes, entry.1 = path ∧ entry.2.subtreeHash = hash := by
  rw [subtreePath?, ofTree, lookup_first_entries] at found
  obtain ⟨entry, member, same⟩ := List.mem_map.1 (mem_of_lookup_eq_some found)
  rw [Prod.mk.injEq] at same
  exact ⟨entry, member, same.2, same.1⟩

theorem subtree_path?_of_mem {entry : PackagePath × HashNode} (member : entry ∈ query.nodes) :
    ∃ path, (ofTree query).subtreePath? entry.2.subtreeHash = some path := by
  rw [subtreePath?, ofTree, lookup_first_entries]
  exact exists_lookup_of_mem
    (List.mem_map_of_mem (f := fun entry : PackagePath × HashNode =>
      (entry.2.subtreeHash, entry.1)) member)

end QueryIndex

theorem exact_paths?_eq_some_iff (index : QueryIndex) (trees : List HashTree)
    (paths : List PackagePath) :
    exactPaths? index trees = some paths ↔
      List.Forall₂ (fun tree path => index.subtreePath? tree.subtreeHash = some path)
        trees paths := by
  induction trees generalizing paths with
  | nil => simp [exactPaths?]
  | cons tree trees ih =>
      rw [exactPaths?]
      cases first : index.subtreePath? tree.subtreeHash with
      | none =>
          constructor
          · intro found
            cases found
          · intro pairs
            cases pairs with
            | cons found _ =>
                rw [first] at found
                cases found
      | some path =>
          cases rest : exactPaths? index trees with
          | none =>
              constructor
              · intro found
                cases found
              · intro pairs
                cases pairs with
                | cons _ others =>
                    rw [(ih _).2 others] at rest
                    cases rest
          | some others =>
              constructor
              · intro found
                cases found
                exact .cons first ((ih others).1 rest)
              · intro pairs
                cases pairs with
                | @cons _ place _ places found below =>
                    rw [first, Option.some.injEq] at found
                    rw [(ih places).2 below, Option.some.injEq] at rest
                    rw [found, rest]

theorem exists_exact_paths_iff (index : QueryIndex) (trees : List HashTree) :
    (∃ paths, exactPaths? index trees = some paths) ↔
      ∀ tree ∈ trees, ∃ path, index.subtreePath? tree.subtreeHash = some path := by
  simp only [exact_paths?_eq_some_iff]
  induction trees with
  | nil => simp
  | cons tree trees ih =>
      rw [List.forall_mem_cons, ← ih]
      constructor
      · rintro ⟨paths, pairs⟩
        cases pairs with
        | @cons _ path _ others found below => exact ⟨⟨path, found⟩, others, below⟩
      · rintro ⟨⟨path, found⟩, others, below⟩
        exact ⟨path :: others, .cons found below⟩

namespace Fingerprint

variable {fingerprint : Fingerprint} {classes : List ClassDescriptor} {options : HashOptions}
  {query : HashTree}

theorem strategy_partial_match? {settings : MatchSettings} {counts : Counts} {found : LibraryMatch}
    (result : fingerprint.partialMatch? settings counts = .ok (some found)) :
    found.strategy = .inPart := by
  rw [partialMatch?] at result
  cases first : ratio counts.loose.1 counts.total with
  | error error => simp [first] at result
  | ok loose =>
      cases second : counts.alignedShare with
      | error error => simp [first, second] at result
      | ok aligned =>
          simp only [first, second] at result
          split at result
          · cases result
          · split at result
            · cases result
            · cases result
              rfl

theorem match?_of_exact_paths (profiled : fingerprint.ProfiledFrom classes options)
    (sameOptions : query.options = options) (settings : MatchSettings) {paths : List PackagePath}
    (places : exactPaths? (QueryIndex.ofTree query) fingerprint.hashTrees = some paths) :
    fingerprint.match? (QueryIndex.ofTree query) settings =
      .ok (some (fingerprint.exactMatch settings paths)) := by
  have counted : fingerprint.classCount ≠ 0 := by
    have positive := profiled.class_count_pos
    omega
  have compatible : ¬ fingerprint.options ≠ (QueryIndex.ofTree query).tree.options := by
    intro different
    rw [profiled.options_eq] at different
    exact different sameOptions.symm
  rw [match?, if_neg counted, if_neg compatible, places]

theorem exists_exact_paths_of_match? {index : QueryIndex} {settings : MatchSettings}
    {found : LibraryMatch} (result : fingerprint.match? index settings = .ok (some found))
    (isExact : found.strategy = .exact) :
    ∃ paths, exactPaths? index fingerprint.hashTrees = some paths ∧
      found = fingerprint.exactMatch settings paths := by
  rw [match?] at result
  split at result
  · cases result
  · split at result
    · cases result
    · cases places : exactPaths? index fingerprint.hashTrees with
      | none =>
          rw [places] at result
          rw [strategy_partial_match? result] at isExact
          cases isExact
      | some paths =>
          rw [places] at result
          cases result
          exact ⟨paths, rfl, rfl⟩

theorem match?_exact_iff (profiled : fingerprint.ProfiledFrom classes options)
    (sameOptions : query.options = options) (settings : MatchSettings) :
    (∃ found, fingerprint.match? (QueryIndex.ofTree query) settings = .ok (some found) ∧
        found.strategy = .exact) ↔
      ∀ tree ∈ fingerprint.hashTrees, ∃ entry ∈ query.nodes,
        entry.2.subtreeHash = tree.subtreeHash := by
  constructor
  · rintro ⟨found, result, isExact⟩ tree member
    obtain ⟨paths, places, _⟩ := exists_exact_paths_of_match? result isExact
    obtain ⟨path, place⟩ := (exists_exact_paths_iff _ _).1 ⟨paths, places⟩ tree member
    obtain ⟨entry, inQuery, _, same⟩ := QueryIndex.exists_node_of_subtree_path? place
    exact ⟨entry, inQuery, same⟩
  · intro everywhere
    have places : ∃ paths,
        exactPaths? (QueryIndex.ofTree query) fingerprint.hashTrees = some paths := by
      refine (exists_exact_paths_iff _ _).2 ?_
      intro tree member
      obtain ⟨entry, inQuery, same⟩ := everywhere tree member
      rw [← same]
      exact QueryIndex.subtree_path?_of_mem inQuery
    obtain ⟨paths, found⟩ := places
    exact ⟨fingerprint.exactMatch settings paths,
      match?_of_exact_paths profiled sameOptions settings found, rfl⟩

end Fingerprint

end LibraryDetection

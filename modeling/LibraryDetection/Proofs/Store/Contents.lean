import LibraryDetection.Proofs.Collection.Sorted
import LibraryDetection.Proofs.Store.FileTree
import Mathlib.Data.List.Nodup

/-!
# Contents of folders

The walk below an entry lists, each once, the names that lead from it to an entry.
-/

namespace LibraryDetection

set_option autoImplicit false

open LibraryDetection.Text

namespace FileEntry

theorem descendants_of_eq_flatMap (names : List String) (entries : List (String × FileEntry)) :
    descendantsOf names entries = entries.flatMap fun entry =>
      (names ++ [entry.1], entry.2) :: descendants (names ++ [entry.1]) entry.2 := by
  induction entries with
  | nil => rfl
  | cons head tail ih =>
      rw [descendantsOf, ih, List.flatMap_cons, List.cons_append]

theorem mem_descendants_iff {entry found : FileEntry} (ordered : entry.Ordered)
    {names place : List String} :
    (place, found) ∈ descendants names entry ↔
      ∃ name rest, place = names ++ name :: rest ∧ entry.get? (name :: rest) = some found := by
  induction ordered generalizing names with
  | file bytes =>
      constructor
      · intro member
        cases member
      · rintro ⟨name, rest, _, nothing⟩
        cases nothing
  | @folder entries rising _ ih =>
      rw [descendants, descendants_of_eq_flatMap, List.mem_flatMap]
      constructor
      · rintro ⟨⟨name, child⟩, isChild, member⟩
        have listed := (lookup_eq_some_iff rising).2 isChild
        rcases List.mem_cons.1 member with same | below
        · cases same
          exact ⟨name, [], rfl, by rw [get?_cons, listed]; rfl⟩
        · obtain ⟨next, rest, rfl, inside⟩ := (ih _ isChild).1 below
          refine ⟨name, next :: rest, by rw [List.append_assoc]; rfl, ?_⟩
          rw [get?_cons, listed]
          exact inside
      · rintro ⟨name, rest, rfl, there⟩
        rw [get?_cons] at there
        obtain ⟨child, listed, inside⟩ := Option.bind_eq_some_iff.1 there
        have isChild := mem_of_lookup listed
        refine ⟨(name, child), isChild, ?_⟩
        cases rest with
        | nil =>
            cases inside
            exact List.mem_cons_self
        | cons next more =>
            apply List.mem_cons_of_mem
            exact (ih _ isChild).2 ⟨next, more, by rw [List.append_assoc]; rfl, inside⟩

theorem prefix_of_mem_descendants {child : FileEntry} (ordered : child.Ordered)
    {names place : List String}
    (member : place ∈ ((names, child) :: descendants names child).map Prod.fst) :
    names <+: place := by
  obtain ⟨⟨_, found⟩, listed, rfl⟩ := List.mem_map.1 member
  rcases List.mem_cons.1 listed with same | below
  · cases same
    exact List.prefix_refl names
  · obtain ⟨name, rest, rfl, _⟩ := (mem_descendants_iff ordered).1 below
    exact List.prefix_append names _

theorem nodup_descendants {entry : FileEntry} (ordered : entry.Ordered) (names : List String) :
    ((descendants names entry).map Prod.fst).Nodup := by
  induction ordered generalizing names with
  | file bytes => exact List.nodup_nil
  | @folder entries rising within ih =>
      rw [descendants, descendants_of_eq_flatMap, List.map_flatMap, List.nodup_flatMap]
      constructor
      · rintro ⟨name, child⟩ isChild
        rw [List.map_cons, List.nodup_cons]
        refine ⟨?_, ih _ isChild _⟩
        intro again
        obtain ⟨⟨place, found⟩, member, same⟩ := List.mem_map.1 again
        obtain ⟨next, rest, rfl, _⟩ := (mem_descendants_iff (within _ isChild)).1 member
        simp at same
      · refine rising.imp_of_mem ?_
        rintro ⟨name, child⟩ ⟨other, sibling⟩ isChild isSibling less place below beside
        -- the names to both children have the same length and begin the same names
        have first := prefix_of_mem_descendants (within _ isChild) below
        have second := prefix_of_mem_descendants (within _ isSibling) beside
        have equal : names ++ [name] = names ++ [other] := by
          apply (List.prefix_of_prefix_length_le first second ?_).eq_of_length ?_ <;> simp
        have same : name = other := by simpa using equal
        exact String.lt_irrefl name (same ▸ less)

end FileEntry

namespace FileTree

variable {tree : FileTree} {folder : FilePath} {place : List String}

theorem is_folder_of_folder_at (located : tree.locate folder = .ok place)
    (isFolder : tree.root.FolderAt place) : tree.isFolder folder = .ok true := by
  obtain ⟨entries, found⟩ := isFolder
  rw [FileTree.isFolder, entry?_of_locate located, found]
  rfl

/-- The path of every folder below is short enough for its entries to be listed. -/
def Listable (tree : FileTree) (folder : FilePath) (place : List String) : Prop :=
  ∀ names, names ≠ [] → tree.root.FolderAt (place ++ names) →
    Utf8.size (folder.below names).text ≤ longestPath

theorem folder_at_append {entries : List (String × FileEntry)}
    (there : tree.root.get? place = some (.folder entries)) (names : List String) :
    tree.root.FolderAt (place ++ names) ↔ (FileEntry.folder entries).FolderAt names := by
  rw [FileEntry.FolderAt, FileEntry.get?_append, there, Option.bind_some]
  rfl

theorem too_deep?_eq_none_iff (ordered : tree.Ordered) {entries : List (String × FileEntry)}
    (there : tree.root.get? place = some (.folder entries)) :
    tooDeep? folder ((FileEntry.folder entries).descendants []) = none ↔
      tree.Listable folder place := by
  have inner := FileEntry.ordered_get? ordered there
  rw [tooDeep?, Option.map_eq_none_iff, List.find?_eq_none]
  constructor
  · intro short names some isFolder
    obtain ⟨name, rest, rfl⟩ := List.exists_cons_of_ne_nil some
    obtain ⟨held, found⟩ := (folder_at_append there _).1 isFolder
    have listed : (name :: rest, FileEntry.folder held) ∈
        (FileEntry.folder entries).descendants [] :=
      (FileEntry.mem_descendants_iff inner).2 ⟨name, rest, rfl, found⟩
    have fits := short _ listed
    simp only [FileEntry.isFolder, Bool.true_and, decide_eq_true_eq] at fits
    exact Nat.le_of_not_lt fits
  · rintro listable ⟨names, found⟩ member long
    obtain ⟨name, rest, rfl, held⟩ := (FileEntry.mem_descendants_iff inner).1 member
    rw [Bool.and_eq_true, decide_eq_true_eq] at long
    cases found with
    | file bytes => cases long.1
    | folder within =>
        have short := listable _ (List.cons_ne_nil name rest)
          ((folder_at_append there _).2 ⟨within, held⟩)
        exact absurd long.2 (Nat.not_lt.2 short)

/-- At a folder a search is refused for the first folder below that cannot be listed, and else
keeps what passes of everything below. -/
theorem search_of_get? {entries : List (String × FileEntry)}
    (located : tree.locate folder = .ok place)
    (there : tree.root.get? place = some (.folder entries)) (passes : String → Bool) :
    tree.search folder passes =
      match tooDeep? folder ((FileEntry.folder entries).descendants []) with
      | some deep => .error (.file ⟨.nameTooLong, deep⟩)
      | none => .ok (sortBy FilePath.listedBefore
          (((((FileEntry.folder entries).descendants []).map Prod.fst).filter
            fun names => passes (names.getLast?.getD "")).map folder.below)) := by
  have entry : tree.entry? folder = .ok (some (.folder entries)) := by
    rw [entry?_of_locate located, there]
  rw [search, is_folder_of_folder_at located ⟨entries, there⟩]
  dsimp only
  rw [entry, List.filter_map, List.map_map]
  rfl

theorem search_of_listable (ordered : tree.Ordered) (located : tree.locate folder = .ok place)
    (isFolder : tree.root.FolderAt place) (listable : tree.Listable folder place)
    (passes : String → Bool) :
    ∃ below : List (List String),
      tree.search folder passes = .ok (sortBy FilePath.listedBefore (below.map folder.below)) ∧
      below.Nodup ∧
      ∀ names, names ∈ below ↔ passes (names.getLast?.getD "") = true ∧ names ≠ [] ∧
        ∃ entry, tree.root.get? (place ++ names) = some entry := by
  obtain ⟨entries, there⟩ := isFolder
  have inner := FileEntry.ordered_get? ordered there
  refine ⟨(((FileEntry.folder entries).descendants []).map Prod.fst).filter
    fun (names : List String) => passes (names.getLast?.getD ""), ?_, ?_, ?_⟩
  · rw [search_of_get? located there, (too_deep?_eq_none_iff ordered there).2 listable]
  · exact (FileEntry.nodup_descendants inner []).filter _
  · intro names
    rw [List.mem_filter, and_comm, List.mem_map]
    apply and_congr_right'
    rw [FileEntry.get?_append, there, Option.bind_some]
    constructor
    · rintro ⟨⟨_, found⟩, member, rfl⟩
      obtain ⟨name, rest, rfl, held⟩ := (FileEntry.mem_descendants_iff inner).1 member
      exact ⟨List.cons_ne_nil name rest, found, held⟩
    · rintro ⟨some, found, held⟩
      obtain ⟨name, rest, rfl⟩ := List.exists_cons_of_ne_nil some
      exact ⟨_, (FileEntry.mem_descendants_iff inner).2 ⟨name, rest, rfl, held⟩, rfl⟩

end FileTree

end LibraryDetection

import LibraryDetection.Store.FileTree
import Mathlib.Data.List.Basic

/-!
# Entries of file trees

Folders list their entries by rising names.  A change at one place leaves every folder a
folder, and what was put at a place is found there.
-/

namespace LibraryDetection.FileEntry

set_option autoImplicit false

/-- The entries of every folder stand in the order of their names, each name once. -/
inductive Ordered : FileEntry → Prop
  | file (bytes : List UInt8) : Ordered (.file bytes)
  | folder {entries : List (String × FileEntry)}
      (rising : entries.Pairwise fun first second => first.1 < second.1)
      (within : ∀ entry ∈ entries, entry.2.Ordered) : Ordered (.folder entries)

theorem ordered_empty_folder : emptyFolder.Ordered := by
  apply Ordered.folder
  · exact List.Pairwise.nil
  · intro entry member
    cases member

theorem Ordered.rising {entries : List (String × FileEntry)}
    (ordered : (FileEntry.folder entries).Ordered) :
    entries.Pairwise fun first second => first.1 < second.1 := by
  cases ordered
  assumption

theorem Ordered.within {entries : List (String × FileEntry)}
    (ordered : (FileEntry.folder entries).Ordered) : ∀ entry ∈ entries, entry.2.Ordered := by
  cases ordered
  assumption

section Entries

variable {name : String} {change : FileEntry → FileEntry} {entries : List (String × FileEntry)}

theorem mem_of_lookup {entry : FileEntry} (found : entries.lookup name = some entry) :
    (name, entry) ∈ entries := by
  induction entries with
  | nil => cases found
  | cons head tail ih =>
      obtain ⟨other, old⟩ := head
      by_cases same : name = other
      · subst same
        rw [List.lookup_cons_self] at found
        cases found
        exact List.mem_cons_self
      · rw [List.lookup_cons, beq_eq_false_iff_ne.2 same] at found
        exact List.mem_cons_of_mem _ (ih found)

theorem lookup_eq_some_iff (rising : entries.Pairwise fun first second => first.1 < second.1)
    {entry : FileEntry} : entries.lookup name = some entry ↔ (name, entry) ∈ entries := by
  refine ⟨mem_of_lookup, ?_⟩
  intro member
  induction entries with
  | nil => cases member
  | cons head tail ih =>
      obtain ⟨other, old⟩ := head
      obtain ⟨above, tailRising⟩ := List.pairwise_cons.1 rising
      rcases List.mem_cons.1 member with same | inTail
      · cases same
        exact List.lookup_cons_self
      · have different : name ≠ other := by
          rintro rfl
          exact String.lt_irrefl name (above _ inTail)
        rw [List.lookup_cons, beq_eq_false_iff_ne.2 different]
        exact ih tailRising inTail

theorem lookup_eq_none (above : ∀ entry ∈ entries, name < entry.1) :
    entries.lookup name = none := by
  cases found : entries.lookup name with
  | none => rfl
  | some entry => exact absurd (above _ (mem_of_lookup found)) (String.lt_irrefl name)

theorem lt_of_mem_cons {head : String × FileEntry} (less : name < head.1)
    (above : ∀ entry ∈ entries, head.1 < entry.1) : ∀ entry ∈ head :: entries, name < entry.1 := by
  intro entry member
  rcases List.mem_cons.1 member with rfl | inTail
  · exact less
  · exact String.lt_trans less (above entry inTail)

theorem mem_change_entry {entry : String × FileEntry}
    (member : entry ∈ changeEntry name change entries) :
    entry ∈ entries ∨
      ∃ old, (old = emptyFolder ∨ (name, old) ∈ entries) ∧ entry = (name, change old) := by
  induction entries with
  | nil => exact .inr ⟨emptyFolder, .inl rfl, List.mem_singleton.1 member⟩
  | cons head tail ih =>
      obtain ⟨other, old⟩ := head
      rw [changeEntry] at member
      split at member
      · rename_i same
        subst same
        rcases List.mem_cons.1 member with rfl | inTail
        · exact .inr ⟨old, .inr List.mem_cons_self, rfl⟩
        · exact .inl (List.mem_cons_of_mem _ inTail)
      · split at member
        · rcases List.mem_cons.1 member with rfl | before
          · exact .inr ⟨emptyFolder, .inl rfl, rfl⟩
          · exact .inl before
        · rcases List.mem_cons.1 member with rfl | below
          · exact .inl List.mem_cons_self
          · rcases ih below with inTail | ⟨origin, found, same⟩
            · exact .inl (List.mem_cons_of_mem _ inTail)
            · refine .inr ⟨origin, ?_, same⟩
              exact found.imp id (List.mem_cons_of_mem _)

theorem rising_change_entry (rising : entries.Pairwise fun first second => first.1 < second.1) :
    (changeEntry name change entries).Pairwise fun first second => first.1 < second.1 := by
  induction entries with
  | nil => exact List.pairwise_singleton _ _
  | cons head tail ih =>
      obtain ⟨other, old⟩ := head
      obtain ⟨above, tailRising⟩ := List.pairwise_cons.1 rising
      rw [changeEntry]
      split
      · rename_i same
        subst same
        exact List.pairwise_cons.2 ⟨above, tailRising⟩
      · rename_i different
        split
        · rename_i less
          exact List.pairwise_cons.2 ⟨lt_of_mem_cons less above, rising⟩
        · rename_i notLess
          refine List.pairwise_cons.2 ⟨?_, ih tailRising⟩
          intro entry member
          rcases mem_change_entry member with inTail | ⟨origin, _, rfl⟩
          · exact above entry inTail
          · exact Std.lt_of_le_of_ne (String.not_lt.1 notLess) different

theorem lookup_change_entry_self
    (rising : entries.Pairwise fun first second => first.1 < second.1) :
    (changeEntry name change entries).lookup name =
      some (change ((entries.lookup name).getD emptyFolder)) := by
  induction entries with
  | nil => rw [changeEntry, List.lookup_cons_self]; rfl
  | cons head tail ih =>
      obtain ⟨other, old⟩ := head
      obtain ⟨above, tailRising⟩ := List.pairwise_cons.1 rising
      rw [changeEntry]
      split
      · rename_i same
        subst same
        rw [List.lookup_cons_self, List.lookup_cons_self]
        rfl
      · rename_i different
        split
        · rename_i less
          have missing : List.lookup name ((other, old) :: tail) = none :=
            lookup_eq_none (lt_of_mem_cons less above)
          rw [List.lookup_cons_self, missing]
          rfl
        · have miss : (name == other) = false := beq_eq_false_iff_ne.2 (Ne.symm different)
          rw [List.lookup_cons, miss, List.lookup_cons, miss]
          exact ih tailRising

theorem lookup_change_entry_other {other : String} (different : other ≠ name) :
    (changeEntry name change entries).lookup other = entries.lookup other := by
  have miss : (other == name) = false := beq_eq_false_iff_ne.2 different
  induction entries with
  | nil => rw [changeEntry, List.lookup_cons, miss]
  | cons head tail ih =>
      obtain ⟨first, old⟩ := head
      rw [changeEntry]
      split
      · rename_i same
        subst same
        rw [List.lookup_cons, miss, List.lookup_cons, miss]
      · split
        · rw [List.lookup_cons, miss]
        · rw [List.lookup_cons, List.lookup_cons, ih]

end Entries

variable {new root : FileEntry} {place : List String}

theorem get?_cons (name : String) (rest : List String) (entries : List (String × FileEntry)) :
    get? (name :: rest) (.folder entries) = (entries.lookup name).bind (get? rest) := by
  rw [get?]
  cases entries.lookup name <;> rfl

theorem get?_file_cons (bytes : List UInt8) (name : String) (rest : List String) :
    get? (name :: rest) (.file bytes) = none := rfl

theorem get?_empty_folder_cons (name : String) (rest : List String) :
    get? (name :: rest) emptyFolder = none := rfl

theorem get?_append (front back : List String) (root : FileEntry) :
    root.get? (front ++ back) = (root.get? front).bind (get? back) := by
  induction front generalizing root with
  | nil => rfl
  | cons name rest ih =>
      cases root with
      | file bytes => rfl
      | folder entries =>
          rw [List.cons_append, get?_cons, get?_cons]
          cases entries.lookup name with
          | none => rfl
          | some entry => exact ih entry

theorem ordered_get? (ordered : root.Ordered) {found : FileEntry}
    (there : root.get? place = some found) : found.Ordered := by
  induction place generalizing root with
  | nil =>
      cases there
      exact ordered
  | cons name rest ih =>
      cases root with
      | file bytes => cases there
      | folder entries =>
          rw [get?_cons] at there
          obtain ⟨child, isChild, below⟩ := Option.bind_eq_some_iff.1 there
          exact ih (ordered.within _ (mem_of_lookup isChild)) below

theorem ordered_put (newOrdered : new.Ordered) (rootOrdered : root.Ordered) (place : List String) :
    (put new place root).Ordered := by
  induction place generalizing root with
  | nil => exact newOrdered
  | cons name rest ih =>
      cases root with
      | file bytes => exact rootOrdered
      | folder entries =>
          rw [put]
          apply Ordered.folder
          · exact rising_change_entry rootOrdered.rising
          · intro entry member
            rcases mem_change_entry member with before | ⟨old, found, rfl⟩
            · exact rootOrdered.within entry before
            · rcases found with rfl | inEntries
              · exact ih ordered_empty_folder
              · exact ih (rootOrdered.within _ inEntries)

def FolderAt (root : FileEntry) (place : List String) : Prop :=
  ∃ entries, root.get? place = some (.folder entries)

theorem not_folder_at_of_absent (absent : root.get? place = none) : ¬ root.FolderAt place := by
  intro folder
  obtain ⟨entries, found⟩ := folder
  rw [absent] at found
  cases found

theorem folder_at_of_get?_append {front rest : List String} {name : String} {found : FileEntry}
    (there : root.get? (front ++ name :: rest) = some found) : root.FolderAt front := by
  rw [get?_append] at there
  obtain ⟨entry, first, second⟩ := Option.bind_eq_some_iff.1 there
  cases entry with
  | folder inner => exact ⟨inner, first⟩
  | file bytes => cases second

theorem FolderAt.of_append {front back : List String} (folder : root.FolderAt (front ++ back)) :
    root.FolderAt front := by
  obtain ⟨entries, found⟩ := folder
  cases back with
  | nil =>
      rw [List.append_nil] at found
      exact ⟨entries, found⟩
  | cons name rest => exact folder_at_of_get?_append found

theorem FolderAt.drop_last (folder : root.FolderAt place) : root.FolderAt place.dropLast := by
  rcases List.eq_nil_or_concat place with rfl | ⟨front, name, rfl⟩
  · exact folder
  · rw [List.concat_eq_append] at folder ⊢
    rw [List.dropLast_concat]
    exact folder.of_append

theorem get?_put_self (ordered : root.Ordered) (above : root.FolderAt place.dropLast) :
    (put new place root).get? place = some new := by
  induction place generalizing root with
  | nil => rfl
  | cons name rest ih =>
      cases root with
      | file bytes =>
          obtain ⟨entries, found⟩ := above
          cases rest with
          | nil => cases found
          | cons second others => cases found
      | folder entries =>
          rw [put, get?_cons, lookup_change_entry_self ordered.rising, Option.bind_some]
          cases rest with
          | nil => rfl
          | cons second others =>
              obtain ⟨inner, found⟩ := above
              rw [List.dropLast_cons_cons, get?_cons] at found
              obtain ⟨child, isChild, below⟩ := Option.bind_eq_some_iff.1 found
              rw [isChild, Option.getD_some]
              exact ih (ordered.within _ (mem_of_lookup isChild)) ⟨inner, below⟩

theorem get?_put_append (ordered : root.Ordered) (above : root.FolderAt place.dropLast)
    (rest : List String) : (put new place root).get? (place ++ rest) = new.get? rest := by
  rw [get?_append, get?_put_self ordered above, Option.bind_some]

def bytes? : FileEntry → Option (List UInt8)
  | .file bytes => some bytes
  | .folder _ => none

theorem map_bytes?_get?_put (ordered : root.Ordered) (above : root.FolderAt place.dropLast)
    {other : List String} (outside : ¬ place <+: other) :
    ((put new place root).get? other).map bytes? = (root.get? other).map bytes? := by
  induction place generalizing root other with
  | nil => exact absurd List.nil_prefix outside
  | cons name rest ih =>
      cases root with
      | file bytes => rfl
      | folder entries =>
          cases other with
          | nil => rfl
          | cons first others =>
              rw [put, get?_cons, get?_cons]
              by_cases same : first = name
              · subst same
                have below : ¬ rest <+: others := by
                  intro front
                  exact outside ((List.prefix_cons_inj first).2 front)
                cases rest with
                | nil => exact absurd List.nil_prefix below
                | cons second more =>
                    obtain ⟨inner, found⟩ := above
                    rw [List.dropLast_cons_cons, get?_cons] at found
                    obtain ⟨child, isChild, inside⟩ := Option.bind_eq_some_iff.1 found
                    rw [lookup_change_entry_self ordered.rising, isChild, Option.getD_some,
                      Option.bind_some, Option.bind_some]
                    exact ih (ordered.within _ (mem_of_lookup isChild)) ⟨inner, inside⟩ below
              · rw [lookup_change_entry_other same]

theorem get?_put_of_file (ordered : root.Ordered) (above : root.FolderAt place.dropLast)
    (free : ¬ root.FolderAt place) {other : List String} (different : other ≠ place)
    {bytes : List UInt8} (found : root.get? other = some (.file bytes)) :
    (put new place root).get? other = some (.file bytes) := by
  have outside : ¬ place <+: other := by
    rintro ⟨rest, rfl⟩
    cases rest with
    | nil => exact different (List.append_nil place)
    | cons name more => exact free (folder_at_of_get?_append found)
  have same := @map_bytes?_get?_put new root place ordered above other outside
  rw [found, Option.map_some] at same
  obtain ⟨entry, there, isFile⟩ := Option.map_eq_some_iff.1 same
  cases entry with
  | folder inner => cases isFile
  | file held =>
      cases isFile
      exact there

theorem get?_of_put (ordered : root.Ordered) (above : root.FolderAt place.dropLast)
    (bare : ∀ name rest, new.get? (name :: rest) = none) {other : List String}
    {found : FileEntry} (there : (put new place root).get? other = some found) :
    other = place ∨ ∃ old, root.get? other = some old := by
  by_cases inside : place <+: other
  · obtain ⟨rest, rfl⟩ := inside
    rw [get?_put_append ordered above] at there
    cases rest with
    | nil => exact .inl (List.append_nil place)
    | cons name more =>
        rw [bare] at there
        cases there
  · right
    have same := @map_bytes?_get?_put new root place ordered above other inside
    rw [there, Option.map_some] at same
    obtain ⟨old, held, _⟩ := Option.map_eq_some_iff.1 same.symm
    exact ⟨old, held⟩

theorem FolderAt.of_put (ordered : root.Ordered) (above : root.FolderAt place.dropLast)
    (bare : ∀ name rest, new.get? (name :: rest) = none) {other : List String}
    (folder : (FileEntry.put new place root).FolderAt other) (elsewhere : other ≠ place) :
    root.FolderAt other := by
  obtain ⟨entries, found⟩ := folder
  have outside : ¬ place <+: other := by
    rintro ⟨rest, rfl⟩
    rw [get?_put_append ordered above] at found
    cases rest with
    | nil => exact elsewhere (List.append_nil place)
    | cons name more =>
        rw [bare] at found
        cases found
  have same := @map_bytes?_get?_put new root place ordered above other outside
  rw [found, Option.map_some] at same
  obtain ⟨entry, there, isFolder⟩ := Option.map_eq_some_iff.1 same.symm
  cases entry with
  | file bytes => cases isFolder
  | folder inner => exact ⟨inner, there⟩

theorem FolderAt.put (ordered : root.Ordered) (free : ¬ root.FolderAt place)
    {other : List String} (folder : root.FolderAt other) :
    (FileEntry.put new place root).FolderAt other := by
  induction place generalizing root other with
  | nil =>
      have whole : root.FolderAt ([] ++ other) := folder
      exact absurd whole.of_append free
  | cons name rest ih =>
      cases root with
      | file bytes => exact folder
      | folder entries =>
          cases other with
          | nil => exact ⟨_, rfl⟩
          | cons first others =>
              obtain ⟨inner, found⟩ := folder
              rw [FolderAt, FileEntry.put, get?_cons]
              rw [get?_cons] at found
              by_cases same : first = name
              · subst same
                obtain ⟨child, isChild, below⟩ := Option.bind_eq_some_iff.1 found
                rw [lookup_change_entry_self ordered.rising, isChild, Option.bind_some,
                  Option.getD_some]
                apply ih (ordered.within _ (mem_of_lookup isChild)) ?_ ⟨inner, below⟩
                rintro ⟨blocked, held⟩
                apply free
                refine ⟨blocked, ?_⟩
                rw [get?_cons, isChild]
                exact held
              · rw [lookup_change_entry_other same]
                exact ⟨inner, found⟩

end LibraryDetection.FileEntry

import LibraryDetection.Proofs.Store.FileTree

/-!
# The layout of file trees

Trees with the same folders and the same files, whatever the files hold.  A path leads to
the same place in both, folders are made in both or in neither, and where a file can be
written in one it can be written in the other.
-/

namespace LibraryDetection

set_option autoImplicit false

namespace FileEntry

variable {root other : FileEntry} {place : List String}

def SameLayout (root other : FileEntry) : Prop :=
  ∀ place, (root.get? place).map isFolder = (other.get? place).map isFolder

theorem folder_at_iff : root.FolderAt place ↔ (root.get? place).map isFolder = some true := by
  rw [FolderAt]
  cases root.get? place with
  | none => simp
  | some entry => cases entry <;> simp [isFolder]

namespace SameLayout

theorem rel_get? (same : root.SameLayout other) (place : List String) :
    Option.Rel SameLayout (root.get? place) (other.get? place) := by
  have kinds := same place
  cases found : root.get? place with
  | none =>
      rw [found] at kinds
      rw [Option.map_eq_none_iff.1 kinds.symm]
      exact .none
  | some entry =>
      rw [found] at kinds
      obtain ⟨partner, there, _⟩ := Option.map_eq_some_iff.1 kinds.symm
      rw [there]
      refine .some fun rest => ?_
      have below := same (place ++ rest)
      rwa [get?_append, get?_append, found, there, Option.bind_some, Option.bind_some] at below

theorem rel_lookup {entries others : List (String × FileEntry)}
    (same : (FileEntry.folder entries).SameLayout (.folder others)) (name : String) :
    Option.Rel SameLayout (entries.lookup name) (others.lookup name) := by
  have alone (entries : List (String × FileEntry)) :
      (FileEntry.folder entries).get? [name] = entries.lookup name := by
    rw [get?_cons]
    exact Option.bind_fun_some _
  rw [← alone entries, ← alone others]
  exact same.rel_get? [name]

theorem put (same : root.SameLayout other) (ordered : root.Ordered)
    (otherOrdered : other.Ordered) (new : FileEntry) (place : List String) :
    (FileEntry.put new place root).SameLayout (FileEntry.put new place other) := by
  induction place generalizing root other with
  | nil => exact fun _ => rfl
  | cons name rest ih =>
      have kinds := same []
      cases root with
      | file bytes =>
          cases other with
          | file others => exact same
          | folder => cases kinds
      | folder entries =>
          cases other with
          | file others => cases kinds
          | folder others =>
              intro query
              cases query with
              | nil => rfl
              | cons first more =>
                  rw [FileEntry.put, FileEntry.put, get?_cons, get?_cons]
                  by_cases here : first = name
                  · subst here
                    rw [lookup_change_entry_self ordered.rising,
                      lookup_change_entry_self otherOrdered.rising]
                    have pair := same.rel_lookup first
                    generalize found : entries.lookup first = child at pair ⊢
                    generalize there : others.lookup first = partner at pair ⊢
                    cases pair with
                    | none => rfl
                    | some alike =>
                        exact ih alike (ordered.within _ (mem_of_lookup found))
                          (otherOrdered.within _ (mem_of_lookup there)) more
                  · rw [lookup_change_entry_other here, lookup_change_entry_other here]
                    have below := same (first :: more)
                    rwa [get?_cons, get?_cons] at below

end SameLayout

theorem same_layout_put_file (ordered : root.Ordered) {old : List UInt8}
    (found : root.get? place = some (.file old)) (bytes : List UInt8) :
    root.SameLayout (put (.file bytes) place root) := by
  induction place generalizing root with
  | nil =>
      cases found
      intro query
      cases query <;> rfl
  | cons name rest ih =>
      cases root with
      | file held => cases found
      | folder entries =>
          rw [get?_cons] at found
          obtain ⟨child, isChild, below⟩ := Option.bind_eq_some_iff.1 found
          intro query
          cases query with
          | nil => rfl
          | cons first more =>
              rw [put, get?_cons, get?_cons]
              by_cases here : first = name
              · subst here
                rw [lookup_change_entry_self ordered.rising, isChild]
                exact ih (ordered.within _ (mem_of_lookup isChild)) below more
              · rw [lookup_change_entry_other here]

end FileEntry

namespace FileTree

structure SameLayout (tree other : FileTree) : Prop where
  ordered : tree.Ordered
  otherOrdered : other.Ordered
  workingFolder : tree.workingFolder = other.workingFolder
  entries : tree.root.SameLayout other.root

/-- Results that fail with the same fault, or give trees of the same layout. -/
inductive MadeAlike : Except AccessError FileTree → Except AccessError FileTree → Prop
  | ok {tree other : FileTree} (same : tree.SameLayout other) : MadeAlike (.ok tree) (.ok other)
  | error (fault : AccessError) : MadeAlike (.error fault) (.error fault)

theorem same_layout_write_bytes {tree written : FileTree} {path : FilePath}
    {old bytes : List UInt8} (ordered : tree.Ordered) (read : tree.readBytes path = .ok old)
    (done : tree.writeBytes path bytes = .ok written) : tree.SameLayout written := by
  obtain ⟨place, located, _, rfl⟩ := write_bytes_eq_ok_iff.1 done
  have found : tree.root.get? place = some (.file old) := by
    rw [readBytes, entry?_of_locate located] at read
    split at read
    · cases read
    · cases read
    · cases read
    · rename_i same
      cases read
      exact Except.ok.inj same
  exact ⟨ordered, ordered.put (.file bytes) place, rfl,
    FileEntry.same_layout_put_file ordered found bytes⟩

namespace SameLayout

variable {tree other : FileTree} (same : tree.SameLayout other)

include same

theorem folder_at_iff {place : List String} :
    tree.root.FolderAt place ↔ other.root.FolderAt place := by
  rw [FileEntry.folder_at_iff, FileEntry.folder_at_iff, same.entries]

theorem follow_eq (here names : List String) :
    follow tree.root here names = follow other.root here names := by
  induction names generalizing here with
  | nil => rfl
  | cons name rest ih =>
      rw [follow, follow]
      have pair := same.entries.rel_get? here
      generalize tree.root.get? here = entry at pair ⊢
      generalize other.root.get? here = partner at pair ⊢
      cases pair with
      | none => rfl
      | @some entry partner alike =>
          have kinds := alike []
          cases entry with
          | file bytes =>
              cases partner with
              | file others => rfl
              | folder others => cases kinds
          | folder entries =>
              cases partner with
              | file others => cases kinds
              | folder others =>
                  dsimp only
                  rw [ih]

theorem locate_eq (path : FilePath) : tree.locate path = other.locate path := by
  rw [locate, locate, startOf, startOf, same.workingFolder, same.follow_eq]

theorem is_folder_eq (path : FilePath) : tree.isFolder path = other.isFolder path := by
  rw [isFolder, isFolder, entry?, entry?, same.locate_eq]
  cases other.locate path with
  | error error => rfl
  | ok place =>
      have kinds := congrArg (Option.any id) (same.entries place)
      rw [Option.any_map, Option.any_map] at kinds
      exact congrArg Except.ok kinds

theorem put {new : FileEntry} (newOrdered : new.Ordered) (place : List String) :
    (tree.put place new).SameLayout (other.put place new) :=
  ⟨same.ordered.put newOrdered place, same.otherOrdered.put newOrdered place,
    same.workingFolder, same.entries.put same.ordered same.otherOrdered new place⟩

theorem make_folder (path : FilePath) :
    MadeAlike (tree.makeFolder path) (other.makeFolder path) := by
  rw [FileTree.makeFolder, FileTree.makeFolder, same.locate_eq]
  cases other.locate path with
  | error fault => exact .error fault
  | ok place =>
      have pair := same.entries.rel_get? place
      dsimp only
      generalize tree.root.get? place = entry at pair ⊢
      generalize other.root.get? place = partner at pair ⊢
      cases pair with
      | none => exact .ok (same.put FileEntry.ordered_empty_folder place)
      | some alike => exact .error _

theorem accept_folder (path : FilePath) (fault : AccessError) :
    MadeAlike (tree.acceptFolder path fault) (other.acceptFolder path fault) := by
  rw [FileTree.acceptFolder, FileTree.acceptFolder, same.is_folder_eq]
  split
  · exact .ok same
  · exact .error fault

theorem make_folders_within (depth : Nat) (path : FilePath) :
    MadeAlike (FileTree.makeFoldersWithin depth tree path).1
        (FileTree.makeFoldersWithin depth other path).1 ∧
      (FileTree.makeFoldersWithin depth tree path).2.SameLayout
        (FileTree.makeFoldersWithin depth other path).2 := by
  induction depth generalizing path with
  | zero =>
      have first := same.make_folder path
      rw [FileTree.makeFoldersWithin, FileTree.makeFoldersWithin]
      generalize tree.makeFolder path = made at first ⊢
      generalize other.makeFolder path = otherMade at first ⊢
      cases first with
      | ok alike => exact ⟨.ok alike, alike⟩
      | error fault =>
          split
          · rename_i failed
            cases failed
          · exact ⟨.error _, same⟩
          · exact ⟨.error _, same⟩
          · exact ⟨same.accept_folder path _, same⟩
  | succ depth ih =>
      have first := same.make_folder path
      obtain ⟨upper, left⟩ := ih path.parent
      rw [FileTree.makeFoldersWithin, FileTree.makeFoldersWithin]
      generalize tree.makeFolder path = made at first ⊢
      generalize other.makeFolder path = otherMade at first ⊢
      cases first with
      | ok alike => exact ⟨.ok alike, alike⟩
      | error fault =>
          split
          · rename_i failed
            cases failed
          · -- the folders above are missing
            dsimp only
            generalize FileTree.makeFoldersWithin depth tree path.parent = above at upper left ⊢
            generalize FileTree.makeFoldersWithin depth other path.parent = partner
              at upper left ⊢
            obtain ⟨result, behind⟩ := above
            obtain ⟨otherResult, otherBehind⟩ := partner
            cases upper with
            | error cause => exact ⟨.error cause, left⟩
            | @ok ready otherReady alike =>
                have second := alike.make_folder path
                dsimp only
                generalize ready.makeFolder path = made at second ⊢
                generalize otherReady.makeFolder path = otherMade at second ⊢
                cases second with
                | ok alike => exact ⟨.ok alike, alike⟩
                | error cause =>
                    split
                    · rename_i failed
                      cases failed
                    · exact ⟨.error _, alike⟩
                    · exact ⟨alike.accept_folder path _, alike⟩
          · exact ⟨.error _, same⟩
          · exact ⟨same.accept_folder path _, same⟩

theorem admits_iff (path : FilePath) : tree.Admits path ↔ other.Admits path := by
  have folders : MadeAlike (tree.makeFolders path.parent).1 (other.makeFolders path.parent).1 :=
    (same.make_folders_within _ path.parent).1
  rw [Admits, Admits]
  generalize (tree.makeFolders path.parent).1 = made at folders ⊢
  generalize (other.makeFolders path.parent).1 = otherMade at folders ⊢
  cases folders with
  | error fault => simp
  | ok alike =>
      simp only [Except.ok.injEq, exists_and_left, exists_eq_left', alike.locate_eq,
        alike.folder_at_iff]

end SameLayout

end FileTree

end LibraryDetection

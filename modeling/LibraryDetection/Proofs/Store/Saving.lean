import LibraryDetection.Proofs.Store.FileTree

/-!
# What saving a file changes

Making the folders above a file adds folders on the way to it and nothing else, and writing
the file changes what stands at its own place.
-/

namespace LibraryDetection

set_option autoImplicit false

open LibraryDetection.Text

namespace FileEntry

variable {root new : FileEntry} {place other : List String}

/-- What stands at a place, whatever stands below it: nothing, a folder, or a file of some
bytes. -/
def contentAt (root : FileEntry) (place : List String) : Option (Option (List UInt8)) :=
  (root.get? place).map bytes?

theorem content_at_eq_none_iff : root.contentAt place = none ↔ root.get? place = none := by
  rw [contentAt, Option.map_eq_none_iff]

theorem content_at_eq_folder_iff : root.contentAt place = some none ↔ root.FolderAt place := by
  rw [contentAt, Option.map_eq_some_iff]
  constructor
  · intro found
    obtain ⟨entry, there, isFolder⟩ := found
    cases entry with
    | file bytes => cases isFolder
    | folder entries => exact ⟨entries, there⟩
  · intro folder
    obtain ⟨entries, there⟩ := folder
    exact ⟨.folder entries, there, rfl⟩

theorem get?_below_of_not_folder_at (free : ¬ root.FolderAt place) (name : String)
    (rest : List String) : root.get? (place ++ name :: rest) = none := by
  cases found : root.get? (place ++ name :: rest) with
  | none => rfl
  | some entry => exact absurd (folder_at_of_get?_append found) free

theorem content_at_put (ordered : root.Ordered) (above : root.FolderAt place.dropLast)
    (free : ¬ root.FolderAt place) (bare : ∀ name rest, new.get? (name :: rest) = none)
    (elsewhere : other ≠ place) : (put new place root).contentAt other = root.contentAt other := by
  by_cases inside : place <+: other
  · obtain ⟨rest, rfl⟩ := inside
    cases rest with
    | nil => exact absurd (List.append_nil place) elsewhere
    | cons name more =>
        rw [contentAt, contentAt, get?_put_append ordered above, bare,
          get?_below_of_not_folder_at free]
  · exact map_bytes?_get?_put ordered above inside

end FileEntry

namespace FileTree

structure Standing (tree : FileTree) : Prop where
  ordered : tree.Ordered
  working : tree.root.FolderAt tree.workingFolder

variable {tree made ready left : FileTree} {path : FilePath} {place other : List String}
  {bytes : List UInt8}

theorem standing_empty : empty.Standing := ⟨ordered_empty, [], rfl⟩

theorem Standing.start (standing : tree.Standing) (path : FilePath) :
    tree.root.FolderAt (tree.startOf path) := by
  rw [startOf]
  split
  · exact standing.working
  · have below : tree.root.FolderAt ([] ++ tree.workingFolder) := standing.working
    exact below.of_append

theorem Standing.put (standing : tree.Standing) {new : FileEntry} (newOrdered : new.Ordered)
    (free : ¬ tree.root.FolderAt place) : (tree.put place new).Standing :=
  ⟨standing.ordered.put newOrdered place, standing.working.put standing.ordered free⟩

def OnTheWay (tree : FileTree) (path : FilePath) (place : List String) : Prop :=
  ∃ names, names <+: path.names ∧ follow tree.root (tree.startOf path) names = .ok place

/-- At the place there is now a folder of the path, and nothing stood there before. -/
structure MadeAt (before after : FileTree) (path : FilePath) (place : List String) : Prop where
  absent : before.root.contentAt place = none
  folder : after.root.contentAt place = some none
  onTheWay : after.OnTheWay path place

/-- The trees differ in folders of the path that were missing, and in nothing else. -/
structure Prepares (before : FileTree) (path : FilePath) (after : FileTree) : Prop where
  standing : after.Standing
  working : after.workingFolder = before.workingFolder
  contents : ∀ place, after.root.contentAt place = before.root.contentAt place ∨
    before.MadeAt after path place

theorem OnTheWay.put (onTheWay : tree.OnTheWay path other) (ordered : tree.Ordered)
    (free : ¬ tree.root.FolderAt place) (new : FileEntry) :
    (tree.put place new).OnTheWay path other := by
  obtain ⟨names, part, followed⟩ := onTheWay
  exact ⟨names, part, follow_put ordered free followed⟩

section Prepares

variable {before : FileTree}

theorem prepares_self (standing : tree.Standing) (path : FilePath) : tree.Prepares path tree :=
  ⟨standing, rfl, fun _ => .inl rfl⟩

theorem Prepares.content_at_of_absent (prepares : before.Prepares path tree)
    (absent : tree.root.contentAt place = none) : before.root.contentAt place = none := by
  cases prepares.contents place with
  | inl same => rw [← same, absent]
  | inr madeAt => exact madeAt.absent

theorem Prepares.contents_put (prepares : before.Prepares path tree) {new : FileEntry}
    (above : tree.root.FolderAt place.dropLast) (free : ¬ tree.root.FolderAt place)
    (bare : ∀ name rest, new.get? (name :: rest) = none) (elsewhere : other ≠ place) :
    (tree.put place new).root.contentAt other = before.root.contentAt other ∨
      before.MadeAt (tree.put place new) path other := by
  have ordered := prepares.standing.ordered
  have same : (tree.put place new).root.contentAt other = tree.root.contentAt other :=
    FileEntry.content_at_put ordered above free bare elsewhere
  cases prepares.contents other with
  | inl kept => exact .inl (same.trans kept)
  | inr madeAt =>
      exact .inr ⟨madeAt.absent, same.trans madeAt.folder, madeAt.onTheWay.put ordered free new⟩

theorem Prepares.make_folder (prepares : before.Prepares path tree) {names : List String}
    (part : names <+: path.names)
    (done : tree.makeFolder ⟨path.anchoring, names⟩ = .ok made) : before.Prepares path made := by
  obtain ⟨place, located, absent, rfl⟩ := make_folder_eq_ok done
  have ordered := prepares.standing.ordered
  have followed : follow tree.root (tree.startOf path) names = .ok place :=
    (locate_eq_ok_iff.1 located).2.2
  have free := FileEntry.not_folder_at_of_absent absent
  -- Without a name the path leads to where it starts, and there is a folder.
  have some : names ≠ [] := by
    rintro rfl
    cases followed
    exact free (prepares.standing.start path)
  have above := folder_at_of_follow some followed
  constructor
  · exact prepares.standing.put FileEntry.ordered_empty_folder free
  · exact prepares.working
  · intro other
    by_cases here : other = place
    · -- the folder that was just made
      subst here
      apply Or.inr
      constructor
      · exact prepares.content_at_of_absent (FileEntry.content_at_eq_none_iff.2 absent)
      · exact FileEntry.content_at_eq_folder_iff.2 ⟨[], FileEntry.get?_put_self ordered above⟩
      · exact ⟨names, part, follow_put ordered free followed⟩
    · exact prepares.contents_put above free FileEntry.get?_empty_folder_cons here

theorem leaves_make_folders (standing : tree.Standing) (path : FilePath) :
    Leaves (tree.Prepares path) (tree.makeFolders path) := by
  apply leaves_make_folders_within _ (prepares_self standing path)
  intro before made names part prepares done
  exact prepares.make_folder part done

end Prepares

/-- The bytes now stand in a file at the path.  Beside it there are new folders on the way to
the file where nothing stood, and everything else is as it was. -/
structure Writes (before : FileTree) (path : FilePath) (bytes : List UInt8) (after : FileTree)
    (place : List String) : Prop where
  working : after.workingFolder = before.workingFolder
  located : after.locate path = .ok place
  written : after.root.contentAt place = some (some bytes)
  noFolder : before.root.contentAt place ≠ some none
  above : ∀ names, names <+: path.parent.names → ∃ folder,
    follow after.root (after.startOf path) names = .ok folder ∧ after.root.FolderAt folder
  elsewhere : ∀ other, other ≠ place →
    after.root.contentAt other = before.root.contentAt other ∨
      before.MadeAt after path.parent other

theorem exists_follow_of_prefix {root : FileEntry} {here names target : List String}
    (done : follow root here names = .ok target) {front : List String} (part : front <+: names)
    (shorter : front ≠ names) :
    ∃ folder, follow root here front = .ok folder ∧ root.FolderAt folder := by
  induction names generalizing here front with
  | nil => exact absurd (List.prefix_nil.1 part) shorter
  | cons name rest ih =>
      obtain ⟨folder, short, next⟩ := follow_cons done
      cases front with
      | nil => exact ⟨here, rfl, folder⟩
      | cons first more =>
          obtain ⟨rfl, below⟩ := List.cons_prefix_cons.1 part
          rw [follow_of_folder_at folder short]
          exact ih next below fun same => shorter (congrArg (first :: ·) same)

theorem exists_writes (standing : tree.Standing) (named : path.names ≠ [])
    (folders : (tree.makeFolders path.parent).1 = .ok ready)
    (done : ready.writeBytes path bytes = .ok left) :
    ∃ place, tree.Writes path bytes left place := by
  have prepares := (leaves_make_folders standing path.parent).1 ready folders
  obtain ⟨place, leads, free, rfl⟩ := write_bytes_eq_ok_iff.1 done
  have ordered := prepares.standing.ordered
  have above := folder_at_of_follow named (locate_eq_ok_iff.1 leads).2.2
  have located : (ready.put place (.file bytes)).locate path = .ok place :=
    locate_put ordered free leads
  refine ⟨place, ?_⟩
  constructor
  · exact prepares.working
  · exact located
  · exact congrArg (Option.map FileEntry.bytes?) (FileEntry.get?_put_self ordered above)
  · intro folder
    cases prepares.contents place with
    | inl same => exact free (FileEntry.content_at_eq_folder_iff.1 (same.trans folder))
    | inr madeAt => exact free (FileEntry.content_at_eq_folder_iff.1 madeAt.folder)
  · intro names part
    have shorter : names ≠ path.names := by
      intro same
      have fewer := part.length_le
      have some := List.length_pos_of_ne_nil named
      rw [same, FilePath.parent, List.length_dropLast] at fewer
      omega
    have part : names <+: path.names := part.trans (List.dropLast_prefix path.names)
    exact exists_follow_of_prefix (locate_eq_ok_iff.1 located).2.2 part shorter
  · intro other elsewhere
    exact prepares.contents_put above free (FileEntry.get?_file_cons bytes) elsewhere

end FileTree

end LibraryDetection

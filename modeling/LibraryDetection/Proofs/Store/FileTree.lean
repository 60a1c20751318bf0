import LibraryDetection.Proofs.Store.FileEntry
import LibraryDetection.Proofs.Text.Utf8

/-!
# Files that were written

A path leads to the same place after a file was written there, so that the file is read
back as it was written.
-/

namespace LibraryDetection.FileTree

set_option autoImplicit false

open LibraryDetection.Text

def Ordered (tree : FileTree) : Prop := tree.root.Ordered

variable {tree : FileTree} {path : FilePath} {new : FileEntry} {place : List String}

theorem Ordered.put (ordered : tree.Ordered) (newOrdered : new.Ordered) (place : List String) :
    (tree.put place new).Ordered :=
  FileEntry.ordered_put newOrdered ordered place

def empty : FileTree := ⟨.emptyFolder, []⟩

theorem ordered_empty : empty.Ordered := FileEntry.ordered_empty_folder

section Follow

variable {root : FileEntry} {here target names : List String}

theorem follow_cons {name : String} {rest : List String}
    (done : follow root here (name :: rest) = .ok target) :
    root.FolderAt here ∧ Utf8.size name ≤ longestName ∧
      follow root (if name = ".." then here.dropLast else here ++ [name]) rest = .ok target := by
  rw [follow] at done
  split at done
  · cases done
  · cases done
  · rename_i entries found
    split at done
    · cases done
    · rename_i short
      exact ⟨⟨entries, found⟩, Nat.le_of_not_lt short, done⟩

theorem follow_of_folder_at {name : String} {rest : List String} (folder : root.FolderAt here)
    (short : Utf8.size name ≤ longestName) :
    follow root here (name :: rest) =
      follow root (if name = ".." then here.dropLast else here ++ [name]) rest := by
  obtain ⟨entries, found⟩ := folder
  rw [follow, found]
  dsimp only
  rw [if_neg (Nat.not_lt.2 short)]

theorem size_le_of_follow (done : follow root here names = .ok target) :
    ∀ name ∈ names, Utf8.size name ≤ longestName := by
  induction names generalizing here with
  | nil =>
      intro name member
      cases member
  | cons first rest ih =>
      obtain ⟨_, short, next⟩ := follow_cons done
      exact List.forall_mem_cons.2 ⟨short, ih next⟩

theorem folder_at_of_follow (some : names ≠ []) (done : follow root here names = .ok target) :
    root.FolderAt target.dropLast := by
  induction names generalizing here with
  | nil => exact absurd rfl some
  | cons name rest ih =>
      obtain ⟨folder, _, next⟩ := follow_cons done
      by_cases last : rest = []
      · subst last
        rw [follow] at next
        cases next
        split
        · exact folder.drop_last.drop_last
        · rw [List.dropLast_concat]
          exact folder
      · exact ih last next

theorem follow_put (ordered : root.Ordered) (free : ¬ root.FolderAt place)
    (done : follow root here names = .ok target) :
    follow (FileEntry.put new place root) here names = .ok target := by
  induction names generalizing here with
  | nil => exact done
  | cons name rest ih =>
      obtain ⟨folder, short, next⟩ := follow_cons done
      rw [follow_of_folder_at (folder.put ordered free) short]
      exact ih next

theorem follow_append {middle : List String} (first : follow root here names = .ok middle)
    (more : List String) : follow root here (names ++ more) = follow root middle more := by
  induction names generalizing here with
  | nil =>
      cases first
      rfl
  | cons name rest ih =>
      obtain ⟨folder, short, next⟩ := follow_cons first
      rw [List.cons_append, follow_of_folder_at folder short]
      exact ih next

theorem target_of_follow (down : ".." ∉ names) (done : follow root here names = .ok target) :
    target = here ++ names := by
  induction names generalizing here with
  | nil =>
      cases done
      rw [List.append_nil]
  | cons name rest ih =>
      obtain ⟨_, _, next⟩ := follow_cons done
      rw [if_neg (List.ne_of_not_mem_cons down).symm] at next
      rw [ih (List.not_mem_of_not_mem_cons down) next, List.append_assoc]
      rfl

theorem folder_at_of_prefix {front middle : List String} (part : front <+: names)
    (done : follow root here names = .ok target) (folder : root.FolderAt target)
    (first : follow root here front = .ok middle) : root.FolderAt middle := by
  obtain ⟨back, rfl⟩ := part
  rw [follow_append first] at done
  cases back with
  | nil =>
      cases done
      exact folder
  | cons name rest => exact (follow_cons done).1

end Follow

theorem locate_eq_ok_iff :
    tree.locate path = .ok place ↔
      hasNull path = false ∧ Utf8.size path.text ≤ longestPath ∧
        follow tree.root (tree.startOf path) path.names = .ok place := by
  rw [locate]
  by_cases null : hasNull path = true
  · simp [null]
  · by_cases long : longestPath < Utf8.size path.text
    · simp [null, long, Nat.not_le.2 long]
    · simp only [null, long, Bool.false_eq_true, if_false, Nat.le_of_not_lt long, true_and]
      cases follow tree.root (tree.startOf path) path.names <;> simp

theorem entry?_of_locate (located : tree.locate path = .ok place) :
    tree.entry? path = .ok (tree.root.get? place) := by
  simp only [located, entry?, Except.map]

theorem locate_put (ordered : tree.Ordered) (free : ¬ tree.root.FolderAt place)
    {other : FilePath} {target : List String} (done : tree.locate other = .ok target) :
    (tree.put place new).locate other = .ok target := by
  obtain ⟨null, short, followed⟩ := locate_eq_ok_iff.1 done
  exact locate_eq_ok_iff.2 ⟨null, short, follow_put ordered free followed⟩

theorem locate_eq_null_character_iff :
    tree.locate path = .error .nullCharacter ↔ hasNull path = true := by
  rw [locate]
  constructor
  · intro failed
    by_contra plain
    rw [if_neg plain] at failed
    split at failed
    · simp at failed
    · split at failed <;> simp at failed
  · intro null
    rw [if_pos null]

theorem read_chars_eq_null_character_iff :
    tree.readChars path = .error .nullCharacter ↔ hasNull path = true := by
  rw [← @locate_eq_null_character_iff tree, readChars, readBytes, entry?]
  cases tree.locate path with
  | error error => simp [Except.map]
  | ok place =>
      simp only [Except.map]
      cases tree.root.get? place with
      | none => simp
      | some entry =>
          cases entry with
          | folder entries => simp
          | file bytes => cases decoded : Utf8.decode bytes <;> simp [decoded]

theorem locate_ne_encoding (tree : FileTree) (path : FilePath) (fault : Utf8.Fault) :
    tree.locate path ≠ .error (.encoding fault) := by
  intro failed
  rw [locate] at failed
  split at failed
  · cases failed
  · split at failed
    · cases failed
    · split at failed <;> cases failed

theorem read_bytes_ne_encoding (tree : FileTree) (path : FilePath) (fault : Utf8.Fault) :
    tree.readBytes path ≠ .error (.encoding fault) := by
  have onTheWay := locate_ne_encoding tree path fault
  rw [readBytes, entry?]
  cases located : tree.locate path with
  | error error =>
      rw [located] at onTheWay
      simpa [Except.map] using onTheWay
  | ok place =>
      simp only [Except.map]
      cases tree.root.get? place with
      | none => simp
      | some entry => cases entry <;> simp

theorem read_chars_eq_ok_iff {chars : List Char} :
    tree.readChars path = .ok chars ↔
      ∃ text, tree.readBytes path = .ok (Utf8.encode text) ∧ chars = lineFeeds text.toList := by
  rw [readChars]
  cases read : tree.readBytes path with
  | error error => simp
  | ok bytes =>
      simp only [Except.ok.injEq]
      cases decoded : Utf8.decode bytes with
      | error fault =>
          have foreign := Utf8.exists_fault_iff.1 ⟨fault, decoded⟩
          simp [foreign]
      | ok others =>
          have same := Utf8.decode_eq_ok_iff.1 decoded
          simp only [Except.ok.injEq]
          constructor
          · rintro rfl
            exact ⟨String.ofList others, same, by rw [String.toList_ofList]⟩
          · rintro ⟨text, encoded, rfl⟩
            rw [encoded, Utf8.decode_encode, Except.ok.injEq] at decoded
            rw [decoded]

theorem exists_length_le_of_read_chars {chars : List Char}
    (read : tree.readChars path = .ok chars) :
    ∃ bytes, tree.readBytes path = .ok bytes ∧ chars.length ≤ bytes.length := by
  obtain ⟨text, opened, rfl⟩ := read_chars_eq_ok_iff.1 read
  refine ⟨Utf8.encode text, opened, ?_⟩
  exact Nat.le_trans (length_line_feeds_le text.toList) (Utf8.length_le_size text)

theorem exists_read_chars_encoding_iff :
    (∃ fault, tree.readChars path = .error (.encoding fault)) ↔
      ∃ bytes, tree.readBytes path = .ok bytes ∧ ∀ text, bytes ≠ Utf8.encode text := by
  have noFault := read_bytes_ne_encoding tree path
  simp only [← Utf8.exists_fault_iff]
  rw [readChars]
  cases read : tree.readBytes path with
  | error error =>
      rw [read] at noFault
      simpa using noFault
  | ok bytes => cases decoded : Utf8.decode bytes <;> simp [decoded]

theorem write_bytes_eq_ok_iff {bytes : List UInt8} {written : FileTree} :
    tree.writeBytes path bytes = .ok written ↔
      ∃ place, tree.locate path = .ok place ∧ ¬ tree.root.FolderAt place ∧
        written = tree.put place (.file bytes) := by
  rw [writeBytes]
  cases tree.locate path with
  | error error => simp
  | ok place =>
      have opened : ¬ tree.root.FolderAt place ↔
          ∀ entries, tree.root.get? place ≠ some (.folder entries) := not_exists
      simp only [Except.ok.injEq, exists_eq_left', opened]
      split
      · rename_i entries found
        simp [found]
      · rename_i other
        constructor
        · intro done
          exact ⟨other, (Except.ok.inj done).symm⟩
        · rintro ⟨_, rfl⟩
          rfl

theorem read_bytes_of_get? {bytes : List UInt8} (located : tree.locate path = .ok place)
    (found : tree.root.get? place = some (.file bytes)) : tree.readBytes path = .ok bytes := by
  rw [readBytes, entry?_of_locate located, found]

theorem read_chars_of_read_bytes {text : String} (plain : '\r' ∉ text.toList)
    (read : tree.readBytes path = .ok (Utf8.encode text)) :
    tree.readChars path = .ok text.toList :=
  read_chars_eq_ok_iff.2 ⟨text, read, (line_feeds_of_no_return plain).symm⟩

theorem exists_read_bytes_of_read_chars {chars : List Char}
    (read : tree.readChars path = .ok chars) :
    ∃ bytes, tree.readBytes path = .ok bytes := by
  obtain ⟨text, opened, _⟩ := read_chars_eq_ok_iff.1 read
  exact ⟨Utf8.encode text, opened⟩

theorem read_bytes_write_bytes (ordered : tree.Ordered) (named : path.names ≠ [])
    {bytes : List UInt8} {written : FileTree}
    (done : tree.writeBytes path bytes = .ok written) : written.readBytes path = .ok bytes := by
  obtain ⟨place, located, free, rfl⟩ := write_bytes_eq_ok_iff.1 done
  have above : tree.root.FolderAt place.dropLast :=
    folder_at_of_follow named (locate_eq_ok_iff.1 located).2.2
  apply read_bytes_of_get? (locate_put ordered free located)
  exact FileEntry.get?_put_self ordered above

theorem make_folder_eq_ok {made : FileTree} (done : tree.makeFolder path = .ok made) :
    ∃ place, tree.locate path = .ok place ∧ tree.root.get? place = none ∧
      made = tree.put place .emptyFolder := by
  rw [makeFolder] at done
  split at done
  · cases done
  · rename_i place located
    split at done
    · cases done
    · rename_i absent
      exact ⟨place, located, absent, (Except.ok.inj done).symm⟩

theorem Ordered.make_folder (ordered : tree.Ordered) {made : FileTree}
    (done : tree.makeFolder path = .ok made) : made.Ordered := by
  obtain ⟨place, _, _, rfl⟩ := make_folder_eq_ok done
  exact ordered.put FileEntry.ordered_empty_folder place

theorem accept_folder_eq_ok {error : AccessError} {accepted : FileTree}
    (done : tree.acceptFolder path error = .ok accepted) : accepted = tree := by
  rw [acceptFolder] at done
  split at done
  · exact (Except.ok.inj done).symm
  · cases done

/-- The tree that a maker of folders gives, if it gives one, and the tree that it leaves, are
both as they should be. -/
def Leaves (keeps : FileTree → Prop) (result : Except AccessError FileTree × FileTree) : Prop :=
  (∀ made, result.1 = .ok made → keeps made) ∧ keeps result.2

section Leaves

variable {keeps : FileTree → Prop}

theorem leaves_ok (kept : keeps tree) : Leaves keeps (.ok tree, tree) := by
  refine ⟨?_, kept⟩
  rintro made same
  cases same
  exact kept

theorem leaves_error (kept : keeps tree) (error : AccessError) :
    Leaves keeps (.error error, tree) := by
  refine ⟨?_, kept⟩
  intro made same
  cases same

theorem leaves_accept (kept : keeps tree) (error : AccessError) :
    Leaves keeps (tree.acceptFolder path error, tree) := by
  refine ⟨?_, kept⟩
  intro made accepted
  rw [accept_folder_eq_ok accepted]
  exact kept

theorem leaves_make_folders_within
    (step : ∀ before made names, names <+: path.names → keeps before →
      before.makeFolder ⟨path.anchoring, names⟩ = .ok made → keeps made)
    (kept : keeps tree) (depth : Nat) : Leaves keeps (makeFoldersWithin depth tree path) := by
  induction depth generalizing path with
  | zero =>
      rw [makeFoldersWithin]
      split
      · rename_i made done
        exact leaves_ok (step tree made path.names List.prefix_rfl kept done)
      · exact leaves_error kept _
      · exact leaves_error kept _
      · exact leaves_accept kept _
  | succ depth ih =>
      have above : Leaves keeps (makeFoldersWithin depth tree path.parent) := by
        apply ih
        intro before made names front
        exact step before made names (front.trans (List.dropLast_prefix path.names))
      rw [makeFoldersWithin]
      split
      · rename_i made done
        exact leaves_ok (step tree made path.names List.prefix_rfl kept done)
      · dsimp only
        split
        · rename_i error left result
          rw [result] at above
          exact leaves_error above.2 error
        · rename_i upper left result
          rw [result] at above
          have upperKept := above.1 upper rfl
          split
          · rename_i made done
            exact leaves_ok (step upper made path.names List.prefix_rfl upperKept done)
          · exact leaves_error upperKept _
          · exact leaves_accept upperKept _
      · exact leaves_error kept _
      · exact leaves_accept kept _

end Leaves

theorem Ordered.make_folders (ordered : tree.Ordered) {made : FileTree}
    (done : (tree.makeFolders path).1 = .ok made) : made.Ordered := by
  have leaves : Leaves Ordered (makeFoldersWithin path.names.length tree path) := by
    apply leaves_make_folders_within _ ordered
    intro before made names _ kept done
    exact kept.make_folder done
  exact leaves.1 made done

/-- Once the folders above the path have been made, a file can be written there. -/
def Admits (tree : FileTree) (path : FilePath) : Prop :=
  ∃ ready place, (tree.makeFolders path.parent).1 = .ok ready ∧
    ready.locate path = .ok place ∧ ¬ ready.root.FolderAt place

theorem Admits.size_le (admits : tree.Admits path) :
    ∀ name ∈ path.names, Utf8.size name ≤ longestName := by
  obtain ⟨ready, place, _, located, _⟩ := admits
  exact size_le_of_follow (locate_eq_ok_iff.1 located).2.2

end LibraryDetection.FileTree

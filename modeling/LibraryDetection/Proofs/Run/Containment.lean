import LibraryDetection.Proofs.Run.Effects
import LibraryDetection.Proofs.Run.RoundTrip

/-!
# Where fingerprints are stored

The name and the version of a library become part of a path.  Where they make one file name,
the fingerprint lies in the folder of its category, whatever the directory of all; where they
hold a slash that counts, they lead away from there.
-/

namespace LibraryDetection

set_option autoImplicit false

open LibraryDetection.Text

namespace LibraryDescription

/-- The name and the version are part of one file name: no slash is in the version or at the
front of the name, and before every other one there are only slashes and single points, which
paths leave out. -/
structure NamesOneFile (description : LibraryDescription) : Prop where
  version : '/' ∉ description.version.toList
  relative : description.name.toList.head? ≠ some '/'
  single : ∀ piece ∈ (split '/' description.name).dropLast, FilePath.isName piece = false

variable {description : LibraryDescription}

def fileChar (char : Char) : Char := if char = ' ' then '-' else char

theorem file_char_eq_iff {special : Char} (noBlank : special ≠ ' ') (noDash : special ≠ '-')
    (char : Char) : fileChar char = special ↔ char = special := by
  rw [fileChar]
  split
  · rename_i blank
    rw [blank]
    exact ⟨fun same => absurd same.symm noDash, fun same => absurd same.symm noBlank⟩
  · rfl

theorem is_name_map_file_char (piece : List Char) :
    FilePath.isName (String.ofList (piece.map fileChar)) =
      FilePath.isName (String.ofList piece) := by
  have point : piece.map fileChar = ['.'] ↔ piece = ['.'] := by
    cases piece with
    | nil => simp
    | cons char rest =>
        have same : fileChar char = '.' ↔ char = '.' :=
          file_char_eq_iff (by decide) (by decide) char
        simp [same]
  rw [Bool.eq_iff_iff]
  simp only [FilePath.is_name_ofList_iff, ne_eq, point, List.map_eq_nil_iff]

theorem anchoring_file_name (description : LibraryDescription) :
    (FilePath.ofText description.fileName).anchoring = .relative ↔
      description.name.toList.head? ≠ some '/' := by
  rw [FilePath.ofText, FilePath.anchoring_of_eq_relative_iff, toList_file_name]
  cases description.name.toList with
  | nil => simp
  | cons char rest =>
      have same : fileChar char = '/' ↔ char = '/' :=
        file_char_eq_iff (by decide) (by decide) char
      simpa [fileChar] using not_congr same

def fileEnding (description : LibraryDescription) : List Char :=
  '_' :: (description.version.toList ++ ".lib".toList)

theorem names_file_name (description : LibraryDescription) :
    (FilePath.ofText description.fileName).names =
      ((splitChars '/' (description.name.toList.map fileChar ++ description.fileEnding)).map
        String.ofList).filter FilePath.isName := by
  rw [FilePath.ofText, split, toList_file_name]
  rfl

theorem exists_names_of_free (free : '/' ∉ description.version.toList) :
    ∃ inner file, (FilePath.ofText description.fileName).names = inner ++ [file] ∧
      (inner = [] ↔ ∀ piece ∈ (split '/' description.name).dropLast,
        FilePath.isName piece = false) := by
  have ending : '/' ∉ description.fileEnding := by
    simpa [fileEnding] using free
  obtain ⟨pieces, last, alone, together⟩ :=
    split_chars_append ending (description.name.toList.map fileChar)
  have named : FilePath.isName (String.ofList (last ++ description.fileEnding)) = true := by
    rw [FilePath.is_name_ofList_iff]
    cases last <;> simp [fileEnding]
  refine ⟨(pieces.map String.ofList).filter FilePath.isName,
    String.ofList (last ++ description.fileEnding), ?_, ?_⟩
  · rw [names_file_name, together, List.map_append, List.filter_append, List.map_singleton,
      List.filter_cons_of_pos named, List.filter_nil]
  · have front : pieces =
        (splitChars '/' description.name.toList).dropLast.map (List.map fileChar) := by
      rw [List.map_dropLast, ← split_chars_map (file_char_eq_iff (by decide) (by decide)), alone,
        List.dropLast_concat]
    rw [split, ← List.map_dropLast, front, List.filter_eq_nil_iff, List.forall_mem_map,
      List.forall_mem_map, List.forall_mem_map]
    simp only [is_name_map_file_char, Bool.not_eq_true]

theorem several_names_of_slash (slash : '/' ∈ description.version.toList) :
    1 < (FilePath.ofText description.fileName).names.length := by
  obtain ⟨before, behind, same⟩ := List.append_of_mem slash
  have cut : description.name.toList.map fileChar ++ description.fileEnding =
      (description.name.toList.map fileChar ++ '_' :: before) ++
        '/' :: (behind ++ ".lib".toList) := by
    simp [fileEnding, same]
  -- Both sides of the slash have a character that no point is made of.
  have inFolder : '_' ∈ description.name.toList.map fileChar ++ '_' :: before := by simp
  have inFile : 'l' ∈ behind ++ ".lib".toList := by simp
  obtain ⟨folder, isFolder⟩ := FilePath.exists_name_of_mem inFolder (by decide) (by decide)
  obtain ⟨file, isFile⟩ := FilePath.exists_name_of_mem inFile (by decide) (by decide)
  have first := List.length_pos_of_mem isFolder
  have second := List.length_pos_of_mem isFile
  rw [names_file_name, cut, split_chars_append_separator, List.map_append, List.filter_append,
    List.length_append]
  omega

theorem names_one_file_iff : description.NamesOneFile ↔
    (FilePath.ofText description.fileName).anchoring = .relative ∧
      ∃ file, (FilePath.ofText description.fileName).names = [file] := by
  rw [anchoring_file_name]
  constructor
  · intro one
    obtain ⟨inner, file, names, noInner⟩ := exists_names_of_free one.version
    rw [noInner.2 one.single] at names
    exact ⟨one.relative, file, names⟩
  · intro one
    obtain ⟨relative, file, names⟩ := one
    have free : '/' ∉ description.version.toList := by
      intro slash
      have several := several_names_of_slash slash
      rw [names] at several
      exact absurd several (by simp)
    obtain ⟨inner, last, split, noInner⟩ := exists_names_of_free free
    rw [names] at split
    have empty : inner = [] := by
      apply List.eq_nil_of_length_eq_zero
      have size := congrArg List.length split
      rw [List.length_append, List.length_singleton, List.length_singleton] at size
      omega
    exact ⟨free, relative, noInner.1 empty⟩

theorem file_ne_points {file : String}
    (names : (FilePath.ofText description.fileName).names = [file]) : file ≠ ".." := by
  obtain ⟨others, last, ending⟩ := description.exists_names_file_name
  have ends := congrArg List.getLast? (names.symm.trans ending)
  have same : file = String.ofList (last ++ ".lib".toList) := by
    simpa using ends
  rintro rfl
  have size := congrArg (fun name => name.toList.length) same
  simp only [String.toList_ofList, List.length_append] at size
  exact absurd size (by simp)

theorem label_ne_points (category : Category) : category.label ≠ ".." := by
  cases category <;> decide

theorem exists_fingerprint_path (one : description.NamesOneFile) :
    ∃ file, file ≠ ".." ∧ ∀ profiles,
      description.fingerprintPath profiles = profiles.below [description.category.label, file] := by
  obtain ⟨relative, file, names⟩ := names_one_file_iff.1 one
  refine ⟨file, file_ne_points names, ?_⟩
  intro profiles
  rw [fingerprint_path_of_relative relative, storedNames, names]
  rfl

theorem names_one_file_of_fingerprint_path {file : String}
    (below : description.fingerprintPath ⟨.relative, []⟩ =
      FilePath.below ⟨.relative, []⟩ [description.category.label, file]) :
    description.NamesOneFile := by
  apply names_one_file_iff.2
  by_cases relative : (FilePath.ofText description.fileName).anchoring = .relative
  · rw [fingerprint_path_of_relative relative, storedNames] at below
    have names : description.category.label :: (FilePath.ofText description.fileName).names =
        [description.category.label, file] := congrArg FilePath.names below
    exact ⟨relative, file, (List.cons.inj names).2⟩
  · rw [fingerprintPath, FilePath.child, FilePath.append, if_neg relative] at below
    exact absurd (congrArg FilePath.anchoring below) relative

end LibraryDescription

namespace FileTree

variable {files left : FileTree} {profiles path : FilePath} {fingerprint : Fingerprint}

/-- A file with the bytes stands in the folder `folder` of the directory, which is at `base`.
Beside the file and the folder, only missing folders on the way to the directory were made. -/
structure SavedBelow (before after : FileTree) (profiles : FilePath) (base : List String)
    (folder file : String) (bytes : List UInt8) : Prop where
  leads : follow after.root (after.startOf profiles) profiles.names = .ok base
  written : after.root.contentAt (base ++ [folder, file]) = some (some bytes)
  only : ∀ other, after.root.contentAt other ≠ before.root.contentAt other →
    other = base ++ [folder, file] ∨ other = base ++ [folder] ∨ before.MadeAt after profiles other

theorem exists_saved_below {folder file : String} {bytes : List UInt8} {place : List String}
    (folderDown : folder ≠ "..") (fileDown : file ≠ "..")
    (writes : files.Writes (profiles.below [folder, file]) bytes left place) :
    ∃ base, files.SavedBelow left profiles base folder file bytes := by
  have followed : follow left.root (left.startOf profiles) (profiles.names ++ [folder, file]) =
      .ok place := (locate_eq_ok_iff.1 writes.located).2.2
  obtain ⟨base, leads, _⟩ :=
    exists_follow_of_prefix followed (List.prefix_append profiles.names _) (by simp)
  have down : ".." ∉ [folder, file] := by
    simp [folderDown.symm, fileDown.symm]
  have here : place = base ++ [folder, file] := by
    rw [follow_append leads] at followed
    exact target_of_follow down followed
  subst here
  refine ⟨base, leads, writes.written, ?_⟩
  intro other changed
  by_cases file : other = base ++ [folder, file]
  · exact .inl file
  · apply Or.inr
    have madeAt := (writes.elsewhere other file).resolve_left changed
    obtain ⟨names, part, onTheWay⟩ := madeAt.onTheWay
    have above : names <+: profiles.names ++ [folder] := by
      simpa [FilePath.parent, FilePath.below] using part
    cases List.prefix_concat_iff.1 above with
    | inl whole =>
        apply Or.inl
        subst whole
        have last : follow left.root base [folder] = .ok other := by
          rw [← follow_append leads]
          exact onTheWay
        exact target_of_follow (by simpa using folderDown.symm) last
    | inr outer => exact .inr ⟨madeAt.absent, madeAt.folder, names, outer, onTheWay⟩

/-- Where the name and the version make one file name, and nowhere else, the path of a
fingerprint leads to a file in the folder of its category, whatever the directory of all; and
saving the fingerprint then writes there. -/
theorem fingerprint_path_below_iff (description : LibraryDescription) :
    ((∀ profiles : FilePath, ∃ file, file ≠ ".." ∧
        description.fingerprintPath profiles =
          profiles.below [description.category.label, file]) ↔ description.NamesOneFile) ∧
      (description.NamesOneFile → ∀ (files : FileTree) (profiles path : FilePath)
        (fingerprint : Fingerprint), files.Standing → fingerprint.description = description →
        (files.saveFingerprint profiles fingerprint).1.result = .ok path →
        ∃ record base file, fingerprint.toRecord = .valid record ∧
          path = profiles.below [description.category.label, file] ∧
          files.SavedBelow (files.saveFingerprint profiles fingerprint).2 profiles base
            description.category.label file (Utf8.encode record.text)) := by
  constructor
  · constructor
    · intro below
      obtain ⟨file, _, path⟩ := below ⟨.relative, []⟩
      exact LibraryDescription.names_one_file_of_fingerprint_path path
    · intro one profiles
      obtain ⟨file, down, below⟩ := LibraryDescription.exists_fingerprint_path one
      exact ⟨file, down, below profiles⟩
  · intro one files profiles path fingerprint standing same saved
    subst same
    obtain ⟨file, down, below⟩ := LibraryDescription.exists_fingerprint_path one
    obtain ⟨rfl, record, place, told, writes⟩ := exists_writes_of_saved standing saved rfl
    rw [below profiles] at writes
    obtain ⟨base, saved⟩ :=
      exists_saved_below (LibraryDescription.label_ne_points _) down writes
    exact ⟨record, base, file, told, below profiles, saved⟩

/-- A library of a plain name is stored in the folder of its category. -/
theorem codec_saved_below :
    (Fingerprint.codecNamed "codec").description.NamesOneFile ∧
      ∃ record base file, (Fingerprint.codecNamed "codec").toRecord = .valid record ∧
        empty.SavedBelow
          (empty.saveFingerprint ⟨.relative, ["profiles"]⟩ (Fingerprint.codecNamed "codec")).2
          ⟨.relative, ["profiles"]⟩ base "Unknown" file (Utf8.encode record.text) := by
  have one : (Fingerprint.codecNamed "codec").description.NamesOneFile :=
    ⟨by decide, by decide, by decide⟩
  have done : (empty.saveFingerprint ⟨.relative, ["profiles"]⟩
      (Fingerprint.codecNamed "codec")).1.result.toOption.isSome = true := by
    decide +kernel
  obtain ⟨path, saved⟩ := Option.isSome_iff_exists.1 done
  obtain ⟨record, base, file, told, _, below⟩ :=
    (fingerprint_path_below_iff _).2 one empty ⟨.relative, ["profiles"]⟩ path
      (Fingerprint.codecNamed "codec") standing_empty rfl (toOption_eq_some_iff.1 saved)
  exact ⟨one, record, base, file, told, below⟩

def escaping : Fingerprint := Fingerprint.codecNamed "../../escape"

/-- The library is stored beside the directory of all fingerprints. -/
theorem escaping_leaves_directory :
    (∀ file, escaping.description.fingerprintPath ⟨.relative, ["profiles"]⟩ ≠
        FilePath.below ⟨.relative, ["profiles"]⟩ [escaping.description.category.label, file]) ∧
      (empty.saveFingerprint ⟨.relative, ["profiles"]⟩ escaping).2.root.contentAt
        ["escape_1.lib"] ≠ none := by
  have path : escaping.description.fingerprintPath ⟨.relative, ["profiles"]⟩ =
      ⟨.relative, ["profiles", "Unknown", "..", "..", "escape_1.lib"]⟩ := by
    decide +kernel
  constructor
  · intro file same
    rw [path] at same
    have names := congrArg (fun path => path.names.length) same
    simp [FilePath.below] at names
  · decide +kernel

end FileTree

end LibraryDetection

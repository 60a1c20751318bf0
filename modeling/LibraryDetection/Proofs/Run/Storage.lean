import LibraryDetection.Proofs.Run.Profiling
import LibraryDetection.Proofs.Store.Contents

/-!
# Files of stored fingerprints

Which files below a folder are those of fingerprints.  Making a folder on the way to such a
file leaves them as they are, and saving a fingerprint adds its own.
-/

namespace LibraryDetection

set_option autoImplicit false

theorem is_fingerprint_name_lib (front : List Char) :
    isFingerprintName (String.ofList (front ++ ".lib".toList)) = true := by
  have chars : (String.ofList (front ++ ".lib".toList)).toList = front ++ ".lib".toList :=
    String.toList_ofList
  rw [isFingerprintName, chars, List.reverse_append]
  rfl

namespace LibraryDescription

/-- The file of the fingerprint lies below the folder of its category, and no folder on the
way is named like a fingerprint. -/
structure Contained (description : LibraryDescription) : Prop where
  relative : (FilePath.ofText description.fileName).anchoring = .relative
  down : ".." ∉ (FilePath.ofText description.fileName).names
  inner : ∀ name ∈ (FilePath.ofText description.fileName).names.dropLast,
    isFingerprintName name = false

variable {description : LibraryDescription}

theorem contained_iff : description.Contained ↔
    (FilePath.ofText description.fileName).anchoring = .relative ∧
      ".." ∉ (FilePath.ofText description.fileName).names ∧
      ∀ name ∈ (FilePath.ofText description.fileName).names.dropLast,
        isFingerprintName name = false :=
  ⟨fun contained => ⟨contained.relative, contained.down, contained.inner⟩,
    fun facts => ⟨facts.1, facts.2.1, facts.2.2⟩⟩

instance (description : LibraryDescription) : Decidable description.Contained :=
  decidable_of_iff' _ contained_iff

theorem is_fingerprint_name_stored_names (description : LibraryDescription) :
    isFingerprintName (description.storedNames.getLast?.getD "") = true := by
  obtain ⟨inner, last, names⟩ := description.exists_names_file_name
  rw [storedNames, names, ← List.cons_append, List.getLast?_concat, Option.getD_some]
  exact is_fingerprint_name_lib last

namespace Contained

theorem down_stored_names (contained : description.Contained) : ".." ∉ description.storedNames := by
  intro member
  rcases List.mem_cons.1 member with same | below
  · cases found : description.category <;> rw [found] at same <;> exact absurd same (by decide)
  · exact contained.down below

theorem inner_stored_names (contained : description.Contained) {front : List String}
    (part : front <+: description.storedNames.dropLast) :
    isFingerprintName (front.getLast?.getD "") = false := by
  rcases List.eq_nil_or_concat front with rfl | ⟨before, name, rfl⟩
  · rfl
  · rw [List.concat_eq_append, List.getLast?_concat, Option.getD_some]
    have member : name ∈ description.storedNames.dropLast := by
      apply part.subset
      rw [List.concat_eq_append]
      exact List.mem_append_right _ (List.mem_singleton.2 rfl)
    obtain ⟨inner, last, names⟩ := description.exists_names_file_name
    have within := contained.inner
    rw [names, List.dropLast_concat] at within
    rw [storedNames, names, ← List.cons_append, List.dropLast_concat] at member
    rcases List.mem_cons.1 member with rfl | below
    · cases description.category <;> decide
    · exact within name below

end Contained

end LibraryDescription

namespace FileTree

/-- The fingerprint files below the folder `profiles`, which is at `place`, are those of
the given fingerprints. -/
structure Stores (tree : FileTree) (profiles : FilePath) (place : List String)
    (fingerprints : List Fingerprint) : Prop where
  ordered : tree.Ordered
  located : tree.locate profiles = .ok place
  folder : tree.root.FolderAt place
  listable : tree.Listable profiles place
  present : ∀ fingerprint ∈ fingerprints, ∃ record, fingerprint.toRecord = .valid record ∧
    tree.locate (fingerprint.description.fingerprintPath profiles) =
      .ok (place ++ fingerprint.description.storedNames) ∧
    tree.root.get? (place ++ fingerprint.description.storedNames) =
      some (.file (Text.Utf8.encode record.text))
  complete : ∀ names found, tree.root.get? (place ++ names) = some found →
    isFingerprintName (names.getLast?.getD "") = true →
      ∃ fingerprint ∈ fingerprints, names = fingerprint.description.storedNames

variable {tree left : FileTree} {profiles : FilePath} {place : List String}
  {fingerprints : List Fingerprint} {fingerprint : Fingerprint}

section Put

variable {new : FileEntry} {names : List String}

theorem Stores.present_put (stores : tree.Stores profiles place fingerprints)
    (free : ¬ tree.root.FolderAt (place ++ names))
    (above : tree.root.FolderAt (place ++ names).dropLast)
    (fresh : ∀ stored ∈ fingerprints, stored.description.storedNames ≠ names) :
    ∀ stored ∈ fingerprints, ∃ record, stored.toRecord = .valid record ∧
      (tree.put (place ++ names) new).locate (stored.description.fingerprintPath profiles) =
        .ok (place ++ stored.description.storedNames) ∧
      (tree.put (place ++ names) new).root.get? (place ++ stored.description.storedNames) =
        some (.file (Text.Utf8.encode record.text)) := by
  intro stored member
  obtain ⟨record, told, located, found⟩ := stores.present stored member
  refine ⟨record, told, locate_put stores.ordered free located, ?_⟩
  apply FileEntry.get?_put_of_file stores.ordered above free ?_ found
  exact fun same => fresh stored member (List.append_cancel_left same)

theorem Stores.listable_put (stores : tree.Stores profiles place fingerprints)
    (above : tree.root.FolderAt (place ++ names).dropLast)
    (bare : ∀ name rest, new.get? (name :: rest) = none)
    (short : new.isFolder = true →
      Text.Utf8.size (profiles.below names).text ≤ longestPath) :
    (tree.put (place ++ names) new).Listable profiles place := by
  intro others some folder
  by_cases same : others = names
  · subst same
    obtain ⟨entries, found⟩ := folder
    rw [put, FileEntry.get?_put_self stores.ordered above] at found
    cases found
    exact short rfl
  · have elsewhere : place ++ others ≠ place ++ names :=
      fun equal => same (List.append_cancel_left equal)
    exact stores.listable others some
      (FileEntry.FolderAt.of_put stores.ordered above bare folder elsewhere)

theorem Stores.put_folder (stores : tree.Stores profiles place fingerprints)
    (absent : tree.root.get? (place ++ names) = none)
    (above : tree.root.FolderAt (place ++ names).dropLast)
    (short : Text.Utf8.size (profiles.below names).text ≤ longestPath)
    (plain : isFingerprintName (names.getLast?.getD "") = false) :
    (tree.put (place ++ names) .emptyFolder).Stores profiles place fingerprints := by
  have free := FileEntry.not_folder_at_of_absent absent
  have bare := FileEntry.get?_empty_folder_cons
  refine ⟨stores.ordered.put FileEntry.ordered_empty_folder _,
    locate_put stores.ordered free stores.located, stores.folder.put stores.ordered free,
    stores.listable_put above bare fun _ => short, stores.present_put free above ?_, ?_⟩
  · rintro stored member rfl
    obtain ⟨_, _, _, found⟩ := stores.present stored member
    rw [absent] at found
    cases found
  · intro others found there passes
    rcases FileEntry.get?_of_put stores.ordered above bare there with same | ⟨old, held⟩
    · rw [List.append_cancel_left same, plain] at passes
      cases passes
    · exact stores.complete others old held passes

theorem Stores.put_file (stores : tree.Stores profiles place fingerprints)
    {record : FingerprintRecord} (told : fingerprint.toRecord = .valid record)
    (located : tree.locate (fingerprint.description.fingerprintPath profiles) =
      .ok (place ++ fingerprint.description.storedNames))
    (free : ¬ tree.root.FolderAt (place ++ fingerprint.description.storedNames))
    (above : tree.root.FolderAt (place ++ fingerprint.description.storedNames).dropLast)
    (fresh : ∀ stored ∈ fingerprints,
      stored.description.storedNames ≠ fingerprint.description.storedNames) :
    (tree.put (place ++ fingerprint.description.storedNames)
      (.file (Text.Utf8.encode record.text))).Stores profiles place
        (fingerprints ++ [fingerprint]) := by
  have bare := FileEntry.get?_file_cons (Text.Utf8.encode record.text)
  refine ⟨stores.ordered.put (.file _) _, locate_put stores.ordered free stores.located,
    stores.folder.put stores.ordered free, stores.listable_put above bare nofun, ?_, ?_⟩
  · intro stored member
    rcases List.mem_append.1 member with before | last
    · exact stores.present_put free above fresh stored before
    · rw [List.mem_singleton.1 last]
      exact ⟨record, told, locate_put stores.ordered free located,
        FileEntry.get?_put_self stores.ordered above⟩
  · intro others found there passes
    rcases FileEntry.get?_of_put stores.ordered above bare there with same | ⟨old, held⟩
    · exact ⟨fingerprint, List.mem_append_right _ (List.mem_singleton.2 rfl),
        List.append_cancel_left same⟩
    · obtain ⟨stored, member, rfl⟩ := stores.complete others old held passes
      exact ⟨stored, List.mem_append_left _ member, rfl⟩

end Put

theorem Stores.target_of_locate (stores : tree.Stores profiles place fingerprints)
    {names target : List String} (down : ".." ∉ names)
    (located : tree.locate ⟨profiles.anchoring, profiles.names ++ names⟩ = .ok target) :
    target = place ++ names := by
  have followed := (locate_eq_ok_iff.1 located).2.2
  have first := (locate_eq_ok_iff.1 stores.located).2.2
  change follow tree.root (tree.startOf profiles) (profiles.names ++ names) = .ok target
    at followed
  rw [follow_append first] at followed
  exact target_of_follow down followed

theorem Stores.make_folder (stores : tree.Stores profiles place fingerprints)
    (contained : fingerprint.description.Contained) {names : List String}
    (part : names <+: profiles.names ++ fingerprint.description.storedNames.dropLast)
    (made : tree.makeFolder ⟨profiles.anchoring, names⟩ = .ok left) :
    left.Stores profiles place fingerprints := by
  obtain ⟨target, located, absent, rfl⟩ := make_folder_eq_ok made
  have followed := (locate_eq_ok_iff.1 located).2.2
  by_cases outer : names <+: profiles.names
  · -- the folders above the files are there
    have folder := folder_at_of_prefix outer (locate_eq_ok_iff.1 stores.located).2.2
      stores.folder followed
    exact absurd folder (FileEntry.not_folder_at_of_absent absent)
  · have some : names ≠ [] := by
      rintro rfl
      exact outer List.nil_prefix
    obtain ⟨front, rfl⟩ := (List.prefix_or_prefix_of_prefix part
      (List.prefix_append profiles.names _)).resolve_left outer
    have inner := (List.prefix_append_right_inj profiles.names).1 part
    have down : ".." ∉ front := by
      intro member
      exact contained.down_stored_names
        ((List.dropLast_prefix _).subset (inner.subset member))
    have same := stores.target_of_locate down located
    subst same
    exact stores.put_folder absent (folder_at_of_follow some followed)
      (locate_eq_ok_iff.1 located).2.1 (contained.inner_stored_names inner)

theorem Stores.save_fingerprint (stores : tree.Stores profiles place fingerprints)
    (contained : fingerprint.description.Contained)
    (fresh : ∀ stored ∈ fingerprints,
      stored.description.storedNames ≠ fingerprint.description.storedNames)
    {path : FilePath} (saved : (tree.saveFingerprint profiles fingerprint).1.result = .ok path) :
    (tree.saveFingerprint profiles fingerprint).2.Stores profiles place
      (fingerprints ++ [fingerprint]) := by
  obtain ⟨rfl, ready, record, folders, told, written⟩ := save_fingerprint_eq_ok saved rfl
  have path := LibraryDescription.fingerprint_path_of_relative contained.relative profiles
  have some : fingerprint.description.storedNames ≠ [] := List.cons_ne_nil _ _
  have leaves : Leaves (fun after => after.Stores profiles place fingerprints)
      (tree.makeFolders (fingerprint.description.fingerprintPath profiles).parent) := by
    rw [path, FilePath.parent, List.dropLast_append_of_ne_nil some]
    apply leaves_make_folders_within _ stores
    intro before made names part kept done
    exact kept.make_folder contained part done
  have prepared := leaves.1 ready folders
  obtain ⟨target, located, free, left⟩ := write_bytes_eq_ok_iff.1 written
  have followed := (locate_eq_ok_iff.1 located).2.2
  have above := folder_at_of_follow
    (LibraryDescription.names_fingerprint_path profiles fingerprint.description) followed
  have same : target = place ++ fingerprint.description.storedNames := by
    rw [path] at located
    exact prepared.target_of_locate contained.down_stored_names located
  subst same
  rw [left]
  exact prepared.put_file told located free above fresh

end FileTree

end LibraryDetection

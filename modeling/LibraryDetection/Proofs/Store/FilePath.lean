import LibraryDetection.Proofs.Text.Fields
import LibraryDetection.Proofs.Text.Utf8
import LibraryDetection.Store.FilePath
import Mathlib.Algebra.GroupWithZero.Nat
import Mathlib.Data.List.Lex
import Mathlib.Data.List.Nodup
import Mathlib.Data.String.Basic

/-!
# Paths as texts

A path that was read off texts is read off its own text again, the path of a fingerprint
has a name for its file, and paths are listed in the order of their names.
-/

namespace LibraryDetection

set_option autoImplicit false

open LibraryDetection.Text

namespace FilePath

def Proper (path : FilePath) : Prop :=
  ∀ name ∈ path.names, isName name = true ∧ '/' ∉ name.toList

theorem proper_of_text (text : String) : (ofText text).Proper := by
  intro name member
  obtain ⟨piece, isProper⟩ := List.mem_filter.1 member
  obtain ⟨chars, isPiece, rfl⟩ := List.mem_map.1 piece
  refine ⟨isProper, ?_⟩
  rw [String.toList_ofList]
  exact not_mem_of_mem_split_chars isPiece

theorem Proper.append {directory path : FilePath} (first : directory.Proper)
    (second : path.Proper) : (directory.append path).Proper := by
  rw [FilePath.append]
  split
  · intro name member
    rcases List.mem_append.1 member with before | behind
    · exact first name before
    · exact second name behind
  · exact second

theorem Proper.child {directory : FilePath} (proper : directory.Proper) (text : String) :
    (directory.child text).Proper :=
  proper.append (proper_of_text text)

theorem ne_empty_of_is_name {name : String} (isProper : isName name = true) :
    name.toList ≠ [] := by
  simp only [isName, Bool.and_eq_true, decide_eq_true_eq] at isProper
  intro empty
  exact isProper.1 (String.toList_eq_nil_iff.1 empty)

theorem is_name_of_length {name : String} (long : 2 ≤ name.toList.length) :
    isName name = true := by
  simp only [isName, Bool.and_eq_true, decide_eq_true_eq]
  constructor
  · rintro rfl
    exact absurd long (by decide)
  · rintro rfl
    exact absurd long (by decide)

theorem is_name_ofList_iff {chars : List Char} :
    isName (String.ofList chars) = true ↔ chars ≠ [] ∧ chars ≠ ['.'] := by
  have empty : String.ofList chars = "" ↔ chars = [] := by
    rw [← String.toList_inj, String.toList_ofList]
    rfl
  have point : String.ofList chars = "." ↔ chars = ['.'] := by
    rw [← String.toList_inj, String.toList_ofList]
    rfl
  simp [isName, empty, point]

theorem exists_name_of_mem {chars : List Char} {char : Char} (member : char ∈ chars)
    (noSlash : char ≠ '/') (noPoint : char ≠ '.') :
    ∃ name, name ∈ ((splitChars '/' chars).map String.ofList).filter isName := by
  rw [← intercalate_split_chars '/' chars] at member
  obtain ⟨piece, isPiece, inPiece⟩ := (mem_intercalate member).resolve_left noSlash
  have named : isName (String.ofList piece) = true := by
    rw [is_name_ofList_iff]
    constructor
    · exact List.ne_nil_of_mem inPiece
    · rintro rfl
      exact noPoint (List.mem_singleton.1 inPiece)
  exact ⟨_, List.mem_filter.2 ⟨List.mem_map_of_mem isPiece, named⟩⟩

theorem mem_names_child (directory : FilePath) {text name : String}
    (member : name ∈ (ofText text).names) : name ∈ (directory.child text).names := by
  rw [child, append]
  split
  · exact List.mem_append_right _ member
  · exact member

section Join

variable {names : List String}

theorem toList_join_slash (names : List String) :
    (join "/" names).toList = ['/'].intercalate (names.map String.toList) := by
  rw [join, String.toList_intercalate]
  rfl

theorem split_chars_join (some : names ≠ []) (free : ∀ name ∈ names, '/' ∉ name.toList) :
    (splitChars '/' (join "/" names).toList).map String.ofList = names := by
  rw [toList_join_slash, split_chars_intercalate]
  · rw [List.map_map]
    have back : String.ofList ∘ String.toList = id := funext fun _ => String.ofList_toList
    rw [back, List.map_id]
  · exact fun empty => some (List.map_eq_nil_iff.1 empty)
  · intro piece member
    obtain ⟨name, isMember, rfl⟩ := List.mem_map.1 member
    exact free name isMember

theorem exists_head_join {name : String} (others : List String)
    (proper : isName name = true ∧ '/' ∉ name.toList) :
    ∃ char rest, (join "/" (name :: others)).toList = char :: rest ∧ char ≠ '/' := by
  cases chars : name.toList with
  | nil => exact absurd chars (ne_empty_of_is_name proper.1)
  | cons char rest =>
      have different : char ≠ '/' := by
        intro same
        apply proper.2
        rw [chars, same]
        exact List.mem_cons_self
      rw [toList_join_slash, List.map_cons, chars]
      cases others with
      | nil => exact ⟨char, rest, by simp [List.intercalate], different⟩
      | cons second more =>
          rw [List.map_cons, List.intercalate_cons_cons]
          exact ⟨char, _, rfl, different⟩

end Join

theorem anchoring_of_eq_relative_iff {chars : List Char} :
    anchoringOf chars = .relative ↔ chars.head? ≠ some '/' := by
  cases chars with
  | nil => simp [anchoringOf]
  | cons char rest =>
      by_cases slash : char = '/'
      · subst slash
        unfold anchoringOf
        split <;> simp_all
      · unfold anchoringOf
        split <;> simp_all

theorem anchoring_of_text {anchoring : Anchoring} {chars : List Char}
    (plain : ∀ rest, chars ≠ '/' :: rest) :
    anchoringOf (anchoring.text.toList ++ chars) = anchoring := by
  cases chars with
  | nil => cases anchoring <;> rfl
  | cons char rest =>
      have different : char ≠ '/' := by
        rintro rfl
        exact plain rest rfl
      cases anchoring with
      | relative =>
          change anchoringOf (char :: rest) = .relative
          rw [anchoringOf] <;> simp_all
      | absolute =>
          change anchoringOf ('/' :: char :: rest) = .absolute
          rw [anchoringOf] <;> simp_all
      | doubled =>
          change anchoringOf ('/' :: '/' :: char :: rest) = .doubled
          rw [anchoringOf]
          simp_all

theorem of_text_text {path : FilePath} (proper : path.Proper) : ofText path.text = path := by
  obtain ⟨anchoring, names⟩ := path
  have kept : names.filter isName = names := by
    apply List.filter_eq_self.2
    intro name member
    exact (proper name member).1
  have free : ∀ name ∈ names, '/' ∉ name.toList := fun name member => (proper name member).2
  cases names with
  | nil => cases anchoring <;> decide
  | cons name others =>
      have written : text ⟨anchoring, name :: others⟩ =
          anchoring.text ++ join "/" (name :: others) := by
        rw [text, if_neg]
        simp
      obtain ⟨char, rest, begins, different⟩ :=
        exists_head_join others (proper name List.mem_cons_self)
      rw [written, ofText, String.toList_append]
      congr 1
      · apply anchoring_of_text
        intro tail same
        rw [begins] at same
        exact different (List.cons.inj same).1
      · have pieces := split_chars_join (List.cons_ne_nil name others) free
        rw [split, String.toList_append]
        cases anchoring with
        | relative =>
            change (List.map String.ofList
              (splitChars '/' (join "/" (name :: others)).toList)).filter isName = _
            rw [pieces, kept]
        | absolute =>
            change (List.map String.ofList
              (splitChars '/' ([] ++ '/' :: (join "/" (name :: others)).toList))).filter isName = _
            rw [split_chars_append_cons List.not_mem_nil, List.map_cons, pieces]
            exact kept
        | doubled =>
            change (List.map String.ofList (splitChars '/' ([] ++ '/' ::
              ([] ++ '/' :: (join "/" (name :: others)).toList)))).filter isName = _
            rw [split_chars_append_cons List.not_mem_nil, split_chars_append_cons List.not_mem_nil,
              List.map_cons, List.map_cons, pieces]
            exact kept

end FilePath

namespace LibraryDescription

theorem proper_fingerprint_path {profiles : FilePath} (proper : profiles.Proper)
    (description : LibraryDescription) : (description.fingerprintPath profiles).Proper :=
  (proper.child _).child _

theorem exists_names_file_name (description : LibraryDescription) :
    ∃ inner last, (FilePath.ofText description.fileName).names =
      inner ++ [String.ofList (last ++ ".lib".toList)] := by
  have ending : '/' ∉ ".lib".toList := by decide
  obtain ⟨pieces, last, _, together⟩ := split_chars_append ending
    (replaceChar ' ' '-' description.name ++ "_" ++ description.version).toList
  have named : FilePath.isName (String.ofList (last ++ ".lib".toList)) = true := by
    apply FilePath.is_name_of_length
    rw [String.toList_ofList, List.length_append]
    exact Nat.le_trans (by decide) (Nat.le_add_left 4 _)
  refine ⟨(pieces.map String.ofList).filter FilePath.isName, last, ?_⟩
  rw [FilePath.ofText, split, fileName, String.toList_append, together, List.map_append,
    List.filter_append, List.map_singleton, List.filter_cons_of_pos named, List.filter_nil]

theorem names_fingerprint_path (profiles : FilePath) (description : LibraryDescription) :
    (description.fingerprintPath profiles).names ≠ [] := by
  obtain ⟨inner, last, names⟩ := description.exists_names_file_name
  have member : String.ofList (last ++ ".lib".toList) ∈
      (FilePath.ofText description.fileName).names := by
    rw [names]
    exact List.mem_append_right _ (List.mem_singleton.2 rfl)
  exact List.ne_nil_of_mem (FilePath.mem_names_child _ member)

theorem toList_file_name (description : LibraryDescription) :
    description.fileName.toList =
      description.name.toList.map (fun char => if char = ' ' then '-' else char)
        ++ '_' :: (description.version.toList ++ ".lib".toList) := by
  rw [fileName, String.toList_append, String.toList_append, String.toList_append, replaceChar,
    String.toList_map, List.append_assoc, List.append_assoc]
  rfl

theorem file_name_mem_fingerprint_path {description : LibraryDescription}
    (free : '/' ∉ description.fileName.toList) (profiles : FilePath) :
    description.fileName ∈ (description.fingerprintPath profiles).names := by
  apply FilePath.mem_names_child
  apply List.mem_filter.2
  constructor
  · rw [split, split_chars_of_not_mem free, List.map_singleton, String.ofList_toList]
    exact List.mem_singleton.2 rfl
  · apply FilePath.is_name_of_length
    rw [toList_file_name, List.length_append, List.length_cons, List.length_append]
    have ending : ".lib".toList.length = 4 := rfl
    omega

theorem of_text_label (category : Category) :
    FilePath.ofText category.label = ⟨.relative, [category.label]⟩ := by
  cases category <;> rfl

/-- The names of the file of a fingerprint below the directory of all. -/
def storedNames (description : LibraryDescription) : List String :=
  description.category.label :: (FilePath.ofText description.fileName).names

theorem fingerprint_path_of_relative {description : LibraryDescription}
    (relative : (FilePath.ofText description.fileName).anchoring = .relative)
    (profiles : FilePath) : description.fingerprintPath profiles =
      ⟨profiles.anchoring, profiles.names ++ description.storedNames⟩ := by
  have folder : profiles.child description.category.label =
      ⟨profiles.anchoring, profiles.names ++ [description.category.label]⟩ := by
    rw [FilePath.child, of_text_label, FilePath.append_relative rfl]
  rw [fingerprintPath, folder, FilePath.child, FilePath.append_relative relative,
    List.append_assoc]
  rfl

end LibraryDescription

end LibraryDetection

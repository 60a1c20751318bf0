import LibraryDetection.Library.Metadata
import LibraryDetection.Proofs.Library.ReleaseDate
import LibraryDetection.Proofs.Store.FileTree

/-!
# What metadata files tell

A metadata file gives the description that its facts tell.  A failure to give one is reported
as such, apart from three that escape: a path that no file can have, bytes that are no text,
and a release date with a number that cannot be read.
-/

namespace LibraryDetection

set_option autoImplicit false

open LibraryDetection.Text

inductive DateToldBy : Option String → Option Date → Prop
  | absent : DateToldBy none none
  | told {text : String} {date : Date} (tells : ReleaseDate.Tells text date) :
      DateToldBy (some text) (some date)

theorem release_date_of_eq_ok_iff {source : String} {fact : Option String} {date : Option Date} :
    releaseDateOf source fact = .ok date ↔ DateToldBy fact date := by
  constructor
  · intro done
    cases fact with
    | none =>
        cases done
        exact .absent
    | some text =>
        rw [releaseDateOf] at done
        split at done
        · rename_i date read
          cases done
          exact .told (ReleaseDate.read_eq_ok_iff.1 read)
        · cases done
        · cases done
  · intro told
    cases told with
    | absent => rfl
    | told tells => rw [releaseDateOf, ReleaseDate.read_eq_ok_iff.2 tells]

theorem release_date_of_escapes_iff {source : String} {fact : Option String} :
    (∃ error, releaseDateOf source fact = .error error ∧ error.isReported = false) ↔
      ∃ text, fact = some text ∧ ReleaseDate.IsUnreadable text := by
  cases fact with
  | none => simp [releaseDateOf]
  | some text =>
      simp only [← ReleaseDate.faulty_read_iff, Option.some.injEq, exists_eq_left']
      rw [releaseDateOf, ReleaseDate.Faulty]
      constructor
      · rintro ⟨error, failed, grave⟩
        split at failed
        · cases failed
        · cases failed
          cases grave
        · rename_i fault known read
          exact ⟨fault, known, read⟩
      · rintro ⟨fault, known, failed⟩
        refine ⟨.badDateNumber fault, ?_, rfl⟩
        rw [failed]
        cases fault with
        | noDate => exact absurd rfl known
        | _ => rfl

theorem release_date_of_ne_access (source : String) (value : Option String)
    (reason : AccessError) : releaseDateOf source value ≠ .error (.access reason) := by
  intro failed
  cases value with
  | none => cases failed
  | some text =>
      rw [releaseDateOf] at failed
      split at failed <;> cases failed

structure LibraryDescription.ToldBy (description : LibraryDescription) (root : Xml.Element) :
    Prop where
  tag : root.tag = "library"
  name : fact? root "name" = some description.name
  version : fact? root "version" = some description.version
  category : description.category = ((fact? root "category").map Category.ofText).getD .unknown
  releaseDate : DateToldBy (fact? root "releasedate") description.releaseDate
  comment : description.comment = fact? root "comment"

/-- Nothing but a number of the release date keeps the root element from being a description. -/
structure HasUnreadableDate (root : Xml.Element) : Prop where
  tag : root.tag = "library"
  name : (fact? root "name").isSome = true
  version : (fact? root "version").isSome = true
  releaseDate : ∃ text, fact? root "releasedate" = some text ∧ ReleaseDate.IsUnreadable text

namespace LibraryDescription

variable {source : String} {root : Xml.Element} {description : LibraryDescription}

theorem of_element_eq_ok_iff :
    ofElement source root = .ok description ↔ description.ToldBy root := by
  rw [ofElement]
  constructor
  · intro done
    split at done
    · cases done
    · rename_i tag
      split at done
      · rename_i name version named versioned
        split at done
        · cases done
        · rename_i date dated
          cases done
          exact ⟨not_not.1 tag, named, versioned, rfl, release_date_of_eq_ok_iff.1 dated, rfl⟩
      · cases done
  · rintro ⟨tag, named, versioned, category, dated, comment⟩
    rw [if_neg (not_not.2 tag), named, versioned]
    simp only [release_date_of_eq_ok_iff.2 dated, ← category, ← comment]

theorem of_element_escapes_iff :
    (∃ error, ofElement source root = .error error ∧ error.isReported = false) ↔
      HasUnreadableDate root := by
  rw [ofElement]
  constructor
  · rintro ⟨error, failed, grave⟩
    split at failed
    · cases failed
      cases grave
    · rename_i tag
      split at failed
      · rename_i name version named versioned
        split at failed
        · rename_i dated
          cases failed
          refine ⟨not_not.1 tag, by rw [named]; rfl, by rw [versioned]; rfl, ?_⟩
          exact release_date_of_escapes_iff.1 ⟨error, dated, grave⟩
        · cases failed
      · cases failed
        cases grave
  · rintro ⟨tag, named, versioned, dated⟩
    obtain ⟨error, failed, grave⟩ := (@release_date_of_escapes_iff source _).2 dated
    obtain ⟨name, named⟩ := Option.isSome_iff_exists.1 named
    obtain ⟨version, versioned⟩ := Option.isSome_iff_exists.1 versioned
    refine ⟨error, ?_, grave⟩
    rw [if_neg (not_not.2 tag), named, versioned]
    simp only [failed]

theorem of_xml_eq_ok_iff {chars : List Char} :
    ofXml source chars = .ok description ↔
      ∃ root, Xml.readDocument chars = some root ∧ description.ToldBy root := by
  rw [ofXml]
  cases Xml.readDocument chars with
  | none => simp
  | some root => simp [of_element_eq_ok_iff]

theorem of_xml_escapes_iff {chars : List Char} :
    (∃ error, ofXml source chars = .error error ∧ error.isReported = false) ↔
      ∃ root, Xml.readDocument chars = some root ∧ HasUnreadableDate root := by
  rw [ofXml]
  cases Xml.readDocument chars with
  | none => simp [MetadataError.isReported]
  | some root => simp [of_element_escapes_iff]

theorem of_xml_ne_access (source : String) (chars : List Char) (reason : AccessError) :
    ofXml source chars ≠ .error (.access reason) := by
  intro failed
  rw [ofXml] at failed
  split at failed
  · rw [ofElement] at failed
    split at failed
    · cases failed
    · split at failed
      · split at failed
        · rename_i error dated
          cases failed
          exact release_date_of_ne_access _ _ _ dated
        · cases failed
      · cases failed
  · cases failed

end LibraryDescription

namespace FileTree

variable {tree : FileTree} {path : FilePath}

/-- The file at the path is a well-formed document with this root element. -/
def HoldsDocument (tree : FileTree) (path : FilePath) (root : Xml.Element) : Prop :=
  ∃ text, tree.readBytes path = .ok (Utf8.encode text) ∧
    Xml.readDocument (lineFeeds text.toList) = some root

theorem holds_document_iff {root : Xml.Element} :
    tree.HoldsDocument path root ↔
      ∃ chars, tree.readChars path = .ok chars ∧ Xml.readDocument chars = some root := by
  constructor
  · rintro ⟨text, read, document⟩
    exact ⟨_, read_chars_eq_ok_iff.2 ⟨text, read, rfl⟩, document⟩
  · rintro ⟨chars, read, document⟩
    obtain ⟨text, encoded, rfl⟩ := read_chars_eq_ok_iff.1 read
    exact ⟨text, encoded, document⟩

theorem read_metadata_eq_ok_iff {description : LibraryDescription} :
    tree.readMetadata path = .ok description ↔
      ∃ root, tree.HoldsDocument path root ∧ description.ToldBy root := by
  simp only [holds_document_iff]
  rw [readMetadata]
  cases tree.readChars path with
  | error error => cases error <;> simp
  | ok chars => simp [LibraryDescription.of_xml_eq_ok_iff]

theorem read_metadata_escapes_iff :
    (∃ error, tree.readMetadata path = .error error ∧ error.isReported = false) ↔
      hasNull path = true ∨
        (∃ bytes, tree.readBytes path = .ok bytes ∧ ∀ text, bytes ≠ Utf8.encode text) ∨
          ∃ root, tree.HoldsDocument path root ∧ HasUnreadableDate root := by
  simp only [holds_document_iff]
  rw [← exists_read_chars_encoding_iff, ← @read_chars_eq_null_character_iff tree, readMetadata]
  cases tree.readChars path with
  | error error => cases error <;> simp [MetadataError.isReported]
  | ok chars => simp [LibraryDescription.of_xml_escapes_iff]

/-- A metadata file gives the description that its facts tell, and a date exactly for three
groups of digits that form one.  Where there is no description the failure is reported as such,
unless the path cannot be that of a file, the bytes of the file are no text, or a number in the
release date of an otherwise proper document cannot be read. -/
theorem read_metadata_outcome (tree : FileTree) (path : FilePath) :
    (∀ description, tree.readMetadata path = .ok description ↔
      ∃ root, tree.HoldsDocument path root ∧ description.ToldBy root) ∧
    (∀ text date, releaseDateOf path.text (some text) = .ok (some date) ↔
      ReleaseDate.Tells text date) ∧
    ((∃ error, tree.readMetadata path = .error error ∧ error.isReported = false) ↔
      hasNull path = true ∨
        (∃ bytes, tree.readBytes path = .ok bytes ∧ ∀ text, bytes ≠ Utf8.encode text) ∨
          ∃ root, tree.HoldsDocument path root ∧ HasUnreadableDate root) := by
  refine ⟨fun description => read_metadata_eq_ok_iff, ?_, read_metadata_escapes_iff⟩
  intro text date
  rw [release_date_of_eq_ok_iff]
  constructor
  · intro told
    cases told with
    | told tells => exact tells
  · intro tells
    exact .told tells

/-- A file that is no text, and one whose release date has a superscript for a year. -/
def brokenMetadata : FileTree :=
  ⟨.folder [("bytes.xml", .file [0xFF]), ("year.xml", .file (Utf8.encode
    "<library><name>codec</name><version>1</version><releasedate>²-1-1</releasedate></library>"))],
    []⟩

theorem broken_metadata_escapes :
    (brokenMetadata.readMetadata (FilePath.ofText "bytes.xml") =
        .error (.access (.encoding ⟨.invalidStart, 0xFF, 0, 1⟩))) ∧
      brokenMetadata.readMetadata (FilePath.ofText "year.xml") =
        .error (.badDateNumber (.badDigits "²")) := by
  constructor <;> rfl

end FileTree

end LibraryDetection

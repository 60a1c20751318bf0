import LibraryDetection.Library.Description
import LibraryDetection.Library.ReleaseDate
import LibraryDetection.Store.FileTree
import LibraryDetection.Text.Blank
import LibraryDetection.Text.LowerCase
import LibraryDetection.Xml.Document

/-!
# Library metadata files

A library is described by a small XML document with a child element for each fact.  The
name and the version are required.
-/

namespace LibraryDetection

set_option autoImplicit false

open LibraryDetection.Text

inductive MetadataError
  | unreadable (path : FilePath) (error : FileError)
  | malformed (source : String)
  | wrongRoot (source tag : String)
  | incomplete (source : String)
  | invalidDate (source value : String)
  /-- A number in the release date cannot be read. -/
  | badDateNumber (fault : ReleaseDate.Fault)
  | access (error : AccessError)
  deriving DecidableEq

namespace MetadataError

/-- Stands for the reason that an XML parser gives, with its line and column.  The reader of
this library tells a document malformed or not, and leaves the wording of the reason open. -/
def malformedReason : String := "not well-formed"

def message : MetadataError → String
  | .unreadable path error => "cannot read " ++ path.text ++ ": " ++ error.message
  | .malformed source => source ++ ": malformed XML: " ++ malformedReason
  | .wrongRoot source tag => source ++ ": root element must be <library>, got <" ++ tag ++ ">"
  | .incomplete source => source ++ ": <name> and <version> are required"
  | .invalidDate source value => source ++ ": invalid release date " ++ quoted value
  | .badDateNumber fault => fault.text
  | .access error => error.message

/-- Whether the failure is one of the description, which a batch of artifacts survives. -/
def isReported : MetadataError → Bool
  | .badDateNumber _ => false
  | .access _ => false
  | _ => true

end MetadataError

namespace Category

def aliases : List (String × Category) :=
  [("ads", .advertising), ("tracker", .analytics), ("social-media", .socialMedia),
    ("social media", .socialMedia), ("utility", .utilities)]

/-- The category that a text names, the blanks around it and the case of its letters set aside.
A text that names none is no fault; the category is unknown then. -/
def ofText (value : String) : Category :=
  let key := lower (trim value)
  match all.find? fun category => lower category.label = key with
  | some category => category
  | none => (aliases.lookup key).getD .unknown

end Category

/-- The text of a child element without the blanks around it.  A child with nothing else tells
no more than one that is absent. -/
def fact? (root : Xml.Element) (tag : String) : Option String :=
  match (root.childText? tag).map trim with
  | some "" => none
  | found => found

def releaseDateOf (source : String) : Option String → Except MetadataError (Option Date)
  | none => .ok none
  | some value =>
      match ReleaseDate.read value with
      | .ok date => .ok (some date)
      | .error .noDate => .error (.invalidDate source value)
      | .error fault => .error (.badDateNumber fault)

/-- The description in a root element.  The name of the root is looked at first, then the name
and the version of the library, and only then the release date. -/
def LibraryDescription.ofElement (source : String) (root : Xml.Element) :
    Except MetadataError LibraryDescription :=
  if root.tag ≠ "library" then .error (.wrongRoot source root.tag)
  else match fact? root "name", fact? root "version" with
    | some name, some version =>
        match releaseDateOf source (fact? root "releasedate") with
        | .error error => .error error
        | .ok releaseDate =>
            .ok
              { name, version, releaseDate
                category := ((fact? root "category").map Category.ofText).getD .unknown
                comment := fact? root "comment" }
    | _, _ => .error (.incomplete source)

def LibraryDescription.ofXml (source : String) (chars : List Char) :
    Except MetadataError LibraryDescription :=
  match Xml.readDocument chars with
  | some root => LibraryDescription.ofElement source root
  | none => .error (.malformed source)

/-- The description in the metadata file at a path.  Bytes that are no text fail it in a way of
their own, which is none of the description and which a batch does not survive. -/
def FileTree.readMetadata (tree : FileTree) (path : FilePath) :
    Except MetadataError LibraryDescription :=
  match tree.readChars path with
  | .ok chars => LibraryDescription.ofXml path.text chars
  | .error (.file error) => .error (.unreadable path error)
  | .error error => .error (.access error)

end LibraryDetection

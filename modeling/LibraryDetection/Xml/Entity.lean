import LibraryDetection.Xml.Markup

/-!
# XML entities

A document may declare names for texts of its own.  The text of an entity is put in the
place of a reference to it and read there in turn; an entity must not lead back to itself.
-/

namespace LibraryDetection.Xml

set_option autoImplicit false

open LibraryDetection.Text

abbrev Entities := List (String × Option (List Char))

/-- The text of an entity from its declaration: references to characters count at once,
those to entities are kept, and a per cent sign may not stand.  `fuel` bounds the number
of characters and references. -/
def entityText? : Nat → List Char → List Char → Option (List Char)
  | 0, _, _ => none
  | _ + 1, passed, [] => some passed.reverse
  | _ + 1, _, '%' :: _ => none
  | fuel + 1, passed, '&' :: rest =>
      match takeReference rest with
      | none => none
      | some (.char char, left) => entityText? fuel (char :: passed) left
      | some (.entity name, left) =>
          entityText? fuel (';' :: (name.toList.reverse ++ '&' :: passed)) left
  | fuel + 1, passed, char :: rest => entityText? fuel (char :: passed) rest

def attributeText? (expand : String → Option (List Char)) :
    Nat → List Char → List Char → Option (List Char)
  | 0, _, _ => none
  | _ + 1, passed, [] => some passed.reverse
  | _ + 1, _, '<' :: _ => none
  | fuel + 1, passed, '&' :: rest =>
      match takeReference rest with
      | none => none
      | some (reference, left) =>
          match reference.resolved with
          | .char char => attributeText? expand fuel (char :: passed) left
          | .entity name =>
              match expand name with
              | some text => attributeText? expand fuel (text.reverse ++ passed) left
              | none => none
  | fuel + 1, passed, char :: rest =>
      if isDocumentChar char then
        attributeText? expand fuel ((if isSpace char then ' ' else char) :: passed) rest
      else none

/-- The text of an entity in an attribute.  `lenient` passes over names without a
declaration; `depth` bounds the entities within each other. -/
def expandInAttribute (entities : Entities) (lenient : Bool) (depth : Nat) (name : String) :
    Option (List Char) :=
  match entities.lookup name with
  | none => if lenient then some [] else none
  | some none => none
  | some (some text) =>
      match depth with
      | 0 => none
      | depth + 1 =>
          attributeText? (expandInAttribute entities lenient depth) (text.length + 1) [] text

end LibraryDetection.Xml

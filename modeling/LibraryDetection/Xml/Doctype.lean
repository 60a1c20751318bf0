import LibraryDetection.Xml.Amplification
import LibraryDetection.Xml.Declaration

/-!
# XML document types

A document type may declare entities, and values of attributes that are not given.  Parts
outside the document are not read.  Once something outside has been referred to, further
declarations count only in a document that stands alone.
-/

namespace LibraryDetection.Xml

set_option autoImplicit false

open LibraryDetection.Text

structure Attribute where
  name : QName
  value : String
  deriving DecidableEq, Repr

/-- A declared attribute of an element, with its value when it is not given. -/
structure AttributeDefault where
  element : String
  name : String
  value : Option String
  deriving DecidableEq, Repr

structure Doctype where
  standsAlone : Bool
  /-- The bytes of the whole document. -/
  size : Nat
  entities : Entities := []
  defaults : List AttributeDefault := []
  /-- There are parts outside the document. -/
  isOpen : Bool := false
  /-- A part outside was referred to among the declarations. -/
  refersOutside : Bool := false
  /-- What was read with the last declaration. -/
  meter : Meter := {}

namespace Doctype

def closed (standsAlone : Bool) (size : Nat) : Doctype := { standsAlone, size }

def heeds (doctype : Doctype) : Bool := doctype.standsAlone || !doctype.refersOutside

def isLenient (doctype : Doctype) : Bool := doctype.isOpen && !doctype.standsAlone

def referOutside (doctype : Doctype) : Doctype :=
  { doctype with isOpen := true, refersOutside := true }

def declare (name : String) (text : Option (List Char)) (doctype : Doctype) : Doctype :=
  if (predefined? name).isSome || (doctype.entities.lookup name).isSome then doctype
  else { doctype with entities := (name, text) :: doctype.entities }

def declareAttribute (added : AttributeDefault) (doctype : Doctype) : Doctype :=
  if doctype.defaults.any fun known =>
      known.element = added.element && known.name = added.name then doctype
  else { doctype with defaults := doctype.defaults ++ [added] }

def attributeText? (doctype : Doctype) (chars : List Char) : Option String :=
  (Xml.attributeText?
    (expandInAttribute doctype.entities doctype.isLenient doctype.entities.length)
    (chars.length + 1) [] chars).map String.ofList

def costs (doctype : Doctype) : List (String × Nat) :=
  entityCosts doctype.entities doctype.entities.length

def ahead (left : List Char) (doctype : Doctype) : Doctype :=
  { doctype with meter.direct := doctype.size - byteCount left }

/-- The document type after a text of a declaration with its references. -/
def charge (chars : List Char) (doctype : Doctype) : Doctype :=
  let cost := costOfAll doctype.costs (referencesIn (chars.length + 1) chars)
  { doctype with meter.indirect := doctype.meter.indirect + cost }

/-- Whether the entities do not bring too much to a content.  A document that declares none
cannot do so. -/
def admitsContent (doctype : Doctype) (content : List Char) : Bool :=
  doctype.entities.isEmpty ||
    (doctype.ahead content).meter.admits doctype.costs (pieces (content.length + 1) content)

def isPublicChar (char : Char) : Bool :=
  char.isAlphanum || char = ' ' || char = '\n' || "-'()+,./:=?;!*#@$_%".toList.contains char

def isExternalPlace : List Word → Bool
  | [.name "SYSTEM", .literal _] => true
  | [.name "PUBLIC", .literal publicName, .literal _] => publicName.all isPublicChar
  | _ => false

def isDataPlace (words : List Word) : Bool :=
  match words.reverse with
  | .name _ :: .name "NDATA" :: place => isExternalPlace place.reverse
  | _ => false

def isNotation : List Word → Bool
  | [.name _, .name "PUBLIC", .literal publicName] => publicName.all isPublicChar
  | .name _ :: place => isExternalPlace place
  | _ => false

def declareEntity (words : List Word) (doctype : Doctype) : Option Doctype :=
  match words with
  | [.name name, .literal value] =>
      if doctype.heeds then
        (entityText? (value.length + 1) [] value).map fun text =>
          doctype.declare name (some text)
      else some doctype
  | [.percent, .name _, .literal value] =>
      if doctype.heeds then (entityText? (value.length + 1) [] value).map fun _ => doctype
      else some doctype
  | .percent :: .name _ :: place => if isExternalPlace place then some doctype else none
  | .name name :: place =>
      if isExternalPlace place || isDataPlace place then
        some (if doctype.heeds then doctype.declare name none else doctype)
      else none
  | _ => none

def elementName? : Word → Option String
  | .name text => some text
  | .scopedName text => some text
  | _ => none

def isMixedRest : List Word → Bool
  | [.closeGroup .anyNumber] => true
  | .bar :: name :: rest => (elementName? name).isSome && isMixedRest rest
  | _ => false

def isMixed : List Word → Bool
  | [.closeGroup .once] => true
  | words => isMixedRest words

/-- Whether `connector` may stand in a group with the connector before, if there is one. -/
def connects (before : Option Word) (connector : Word) : Bool :=
  before = none || before = some connector

/-- The rest of a content model.  `groups` holds the connectors of the open groups, and
`complete` tells that a part has just ended. -/
def isModelRest (complete : Bool) : List (Option Word) → List Word → Bool
  | [], words => words.isEmpty
  | _ :: _, [] => false
  | connector :: outer, word :: words =>
      if complete then
        match word with
        | .closeGroup _ => isModelRest true outer words
        | .comma => connects connector .comma && isModelRest false (some .comma :: outer) words
        | .bar => connects connector .bar && isModelRest false (some .bar :: outer) words
        | _ => false
      else
        match word with
        | .openGroup => isModelRest false (none :: connector :: outer) words
        | .name _ => isModelRest true (connector :: outer) words
        | .scopedName _ => isModelRest true (connector :: outer) words
        | .marked _ => isModelRest true (connector :: outer) words
        | _ => false

def isContentModel : List Word → Bool
  | [.name word] => word = "EMPTY" || word = "ANY"
  | .openGroup :: .hashName word :: rest => word = "PCDATA" && isMixed rest
  | .openGroup :: rest => isModelRest false [none] rest
  | _ => false

def isElement : List Word → Bool
  | name :: model => (elementName? name).isSome && isContentModel model
  | [] => false

def attributeTypes : List String :=
  ["CDATA", "ID", "IDREF", "IDREFS", "ENTITY", "ENTITIES", "NMTOKEN", "NMTOKENS"]

def isChoice (notations : Bool) : Word → Bool
  | .name _ => true
  | .scopedName _ => !notations
  | .nameToken _ => !notations
  | _ => false

def afterChoices? (notations : Bool) : List Word → Option (List Word)
  | choice :: .bar :: rest =>
      if isChoice notations choice then afterChoices? notations rest else none
  | choice :: .closeGroup .once :: rest =>
      if isChoice notations choice then some rest else none
  | _ => none

def afterType? : List Word → Option (List Word)
  | .name "NOTATION" :: .openGroup :: rest => afterChoices? true rest
  | .name type :: rest => if attributeTypes.contains type then some rest else none
  | .openGroup :: rest => afterChoices? false rest
  | _ => none

def defaultValue? : List Word → Option (Option (List Char) × List Word)
  | .hashName "IMPLIED" :: rest => some (none, rest)
  | .hashName "REQUIRED" :: rest => some (none, rest)
  | .hashName "FIXED" :: .literal value :: rest => some (some value, rest)
  | .literal value :: rest => some (some value, rest)
  | _ => none

def addDefault (element name : String) (value : Option (List Char)) (doctype : Doctype) :
    Option Doctype :=
  if doctype.heeds then
    match value with
    | none => some (doctype.declareAttribute ⟨element, name, none⟩)
    | some chars =>
        let charged := doctype.charge chars
        if charged.meter.isTolerated then
          (charged.attributeText? chars).map fun text =>
            charged.declareAttribute ⟨element, name, some text⟩
        else none
  else some doctype

def declareAttributes (element : String) : Nat → List Word → Doctype → Option Doctype
  | _, [], doctype => some doctype
  | 0, _ :: _, _ => none
  | fuel + 1, name :: words, doctype =>
      match elementName? name, (afterType? words).bind defaultValue? with
      | some name, some (value, rest) =>
          (doctype.addDefault element name value).bind (declareAttributes element fuel rest)
      | _, _ => none

def declareList (words : List Word) (doctype : Doctype) : Option Doctype :=
  match words with
  | element :: rest =>
      (elementName? element).bind fun element =>
        declareAttributes element (rest.length + 1) rest doctype
  | [] => none

def addDeclaration (kind : String) (words : List Word) (doctype : Doctype) : Option Doctype :=
  match kind with
  | "ENTITY" => doctype.declareEntity words
  | "ATTLIST" => doctype.declareList words
  | "ELEMENT" => if isElement words then some doctype else none
  | "NOTATION" => if isNotation words then some doctype else none
  | _ => none

def takeSubset : Nat → Doctype → List Char → Taken Doctype
  | 0, _, _ => none
  | fuel + 1, doctype, chars =>
      match takeWord chars with
      | some (.aside, left) => takeSubset fuel doctype left
      | some (.parameter, left) => takeSubset fuel doctype.referOutside left
      | some (.declaration kind, left) =>
          match takeWords (· = .finish) (left.length + 1) [] left with
          | some ((words, _), left) =>
              ((doctype.ahead left).addDeclaration kind words).bind fun doctype =>
                takeSubset fuel doctype left
          | none => none
      | some (.closeSubset, left) =>
          match takeWord left with
          | some (.finish, left) => some (doctype, left)
          | _ => none
      | _ => none

def isHeading : List Word → Bool
  | [name] => (elementName? name).isSome
  | name :: place => (elementName? name).isSome && isExternalPlace place
  | [] => false

def take (standsAlone : Bool) (size : Nat) (chars : List Char) : Taken Doctype :=
  let stops (word : Word) : Bool := word = .finish || word = .openSubset
  match takeWords stops (chars.length + 1) [] chars with
  | some ((words, stop), left) =>
      if isHeading words then
        let doctype : Doctype := { standsAlone, size, isOpen := 1 < words.length }
        if stop = .finish then some (doctype, left)
        else takeSubset (left.length + 1) doctype left
      else none
  | none => none

end Doctype

end LibraryDetection.Xml

import LibraryDetection.Text.Newline
import LibraryDetection.Xml.Namespace

/-!
# XML documents

A document is read into its root element.  Of the text of an element the part before its
first child is kept.
-/

namespace LibraryDetection.Xml

set_option autoImplicit false

open LibraryDetection.Text

structure Element where
  /-- The full name. -/
  tag : String
  /-- The text before the first child. -/
  text : String
  children : List Element
  deriving Inhabited, Repr

namespace Element

def childText? (element : Element) (tag : String) : Option String :=
  (element.children.find? (·.tag = tag)).map (·.text)

end Element

structure OpenElement where
  name : QName
  tag : String
  bindings : Bindings
  /-- The last character first. -/
  text : List Char
  /-- The last child first. -/
  children : List Element

namespace OpenElement

def close (element : OpenElement) : Element :=
  ⟨element.tag, String.ofList element.text.reverse, element.children.reverse⟩

def addText (element : OpenElement) (chars : List Char) : OpenElement :=
  if element.children.isEmpty then
    { element with text := chars.reverse ++ element.text }
  else element

def addChild (element : OpenElement) (child : Element) : OpenElement :=
  { element with children := child :: element.children }

end OpenElement

def openElement (bindings : Bindings) (name : QName) (attributes : List Attribute) :
    Option OpenElement :=
  match bindings.extend attributes with
  | none => none
  | some inner =>
      match inner.elementName? name with
      | none => none
      | some tag =>
          if inner.acceptsAttributes attributes then some ⟨name, tag, inner, [], []⟩ else none

/-- A start tag behind its opening: the element, and whether it has ended already. -/
def takeStartTag (doctype : Doctype) (bindings : Bindings) (chars : List Char) :
    Taken (OpenElement × Bool) :=
  match takeQName chars with
  | none => none
  | some (name, rest) =>
      match takeTagEnd doctype (rest.length + 1) [] rest with
      | none => none
      | some (tagEnd, left) =>
          let attributes := tagEnd.attributes ++ doctype.added name tagEnd.attributes
          (openElement bindings name attributes).map fun element =>
            ((element, tagEnd.closed), left)

def takeEndTag (name : QName) (chars : List Char) : Option (List Char) :=
  match (withoutStart? name.text.toList chars).map skipSpace with
  | some ('>' :: left) => some left
  | _ => none

inductive ContentEnd
  /-- At the end tag of the outermost element. -/
  | endTag
  /-- With the text of an entity, all elements that began in it being closed. -/
  | entity
  deriving DecidableEq

/-- The content of the innermost open element up to the end of the outermost one, which is
given back with what is left.  `expand` adds the content that an entity stands for.  Each
step takes a character at least, which `fuel` counts. -/
def readContent (doctype : Doctype) (expand : OpenElement → String → Option OpenElement)
    (stop : ContentEnd) : Nat → OpenElement → List OpenElement → List Char → Taken OpenElement
  | 0, _, _, _ => none
  | _ + 1, element, outer, [] =>
      if stop = .entity ∧ outer.isEmpty then some (element, []) else none
  | fuel + 1, element, outer, '<' :: rest =>
      match rest with
      | '/' :: rest =>
          match outer with
          | [] =>
              if stop = .endTag then
                (takeEndTag element.name rest).map fun left => (element, left)
              else none
          | parent :: above =>
              match takeEndTag element.name rest with
              | none => none
              | some left =>
                  readContent doctype expand stop fuel (parent.addChild element.close) above left
      | '?' :: rest =>
          match takeInstruction rest with
          | some left => readContent doctype expand stop fuel element outer left
          | none => none
      | '!' :: rest =>
          match withoutStart? ['-', '-'] rest with
          | some comment =>
              match takeComment comment with
              | some left => readContent doctype expand stop fuel element outer left
              | none => none
          | none =>
              match (withoutStart? "[CDATA[".toList rest).bind (takeUntil "]]>".toList []) with
              | some (chars, left) =>
                  readContent doctype expand stop fuel (element.addText chars) outer left
              | none => none
      | _ =>
          match takeStartTag doctype element.bindings rest with
          | none => none
          | some ((child, true), left) =>
              readContent doctype expand stop fuel (element.addChild child.close) outer left
          | some ((child, false), left) =>
              readContent doctype expand stop fuel child (element :: outer) left
  | fuel + 1, element, outer, '&' :: rest =>
      match takeReference rest with
      | none => none
      | some (reference, left) =>
          match reference.resolved with
          | .char char =>
              readContent doctype expand stop fuel (element.addText [char]) outer left
          | .entity name =>
              match expand element name with
              | some grown => readContent doctype expand stop fuel grown outer left
              | none => none
  | _ + 1, _, _, ']' :: ']' :: '>' :: _ => none
  | fuel + 1, element, outer, char :: rest =>
      if isDocumentChar char then
        readContent doctype expand stop fuel (element.addText [char]) outer rest
      else none

/-- Adds the content that an entity stands for.  `depth` bounds the entities within each
other. -/
def expandInContent (doctype : Doctype) (entities : Entities) :
    Nat → OpenElement → String → Option OpenElement
  | 0, _, _ => none
  | depth + 1, element, name =>
      match entities.lookup name with
      | some (some text) =>
          (readContent doctype (expandInContent doctype entities depth) .entity
            (text.length + 1) element [] text).map (·.1)
      | _ => none

/-- A pseudo attribute of the declaration: white space, a name, an equals sign and a
quoted word. -/
def takeSetting (chars : List Char) : Taken (String × String) :=
  match chars with
  | [] => none
  | first :: _ =>
      if isSpace first then
        let (name, rest) := (skipSpace chars).span fun char => char ≠ '=' && !isSpace char
        match skipSpace rest with
        | '=' :: rest =>
            match skipSpace rest with
            | quote :: rest =>
                if (quote = '"' ∨ quote = '\'') ∧ !name.isEmpty then
                  let (value, left) := rest.span fun char =>
                    char.isAlphanum || char = '.' || char = '-' || char = '_'
                  match left with
                  | last :: left =>
                      if last = quote then
                        some ((String.ofList name, String.ofList value), left)
                      else none
                  | [] => none
                else none
            | [] => none
        | _ => none
      else none

def takeSettings : Nat → List Char → Option (List (String × String))
  | 0, _ => none
  | fuel + 1, chars =>
      if (skipSpace chars).isEmpty then some []
      else match takeSetting chars with
        | some (setting, left) => (takeSettings fuel left).map (setting :: ·)
        | none => none

def isEncodingName (name : String) : Bool := (name.toList.head?.map Char.isAlpha).getD false

/-- A version, then perhaps an encoding, then perhaps whether the document stands alone. -/
def isDeclaration (settings : List (String × String)) : Bool :=
  match settings with
  | ("version", _) :: rest =>
      let rest := match rest with
        | ("encoding", name) :: more => if isEncodingName name then more else rest
        | _ => rest
      match rest with
      | [] => true
      | [("standalone", value)] => value = "yes" || value = "no"
      | _ => false
  | _ => false

/-- The declaration of a document, if it begins with one: whether it says that the document
stands alone. -/
def takeDeclaration (chars : List Char) : Taken Bool :=
  match withoutStart? "<?xml".toList chars with
  | some (char :: rest) =>
      if isSpace char then
        match takeUntil ['?', '>'] [] (char :: rest) with
        | some (inside, left) =>
            match takeSettings (inside.length + 1) inside with
            | some settings =>
                if isDeclaration settings then
                  some (settings.lookup "standalone" = some "yes", left)
                else none
            | none => none
        | none => none
      else some (false, chars)
  | _ => some (false, chars)

def skipMisc : Nat → List Char → Option (List Char)
  | 0, _ => none
  | fuel + 1, chars =>
      match skipSpace chars with
      | '<' :: '?' :: rest => (takeInstruction rest).bind (skipMisc fuel)
      | '<' :: '!' :: '-' :: '-' :: rest => (takeComment rest).bind (skipMisc fuel)
      | rest => some rest

/-- The document type, if there is one, with what follows it.  `size` counts the bytes of the
whole document. -/
def takeDoctype (standsAlone : Bool) (size : Nat) (chars : List Char) : Taken Doctype :=
  match withoutStart? "<!DOCTYPE".toList chars with
  | none => some (Doctype.closed standsAlone size, chars)
  | some (char :: rest) =>
      if isSpace char then
        match Doctype.take standsAlone size rest with
        | some (doctype, left) =>
            (skipMisc (left.length + 1) left).map fun left => (doctype, left)
        | none => none
      else none
  | some [] => none

def readRoot (doctype : Doctype) (chars : List Char) : Taken Element :=
  match takeStartTag doctype .initial chars with
  | none => none
  | some ((root, true), left) => some (root.close, left)
  | some ((root, false), left) =>
      let expand := expandInContent doctype doctype.entities doctype.entities.length
      (readContent doctype expand .endTag (left.length + 1) root [] left).map
        fun (root, left) => (root.close, left)

def isEpilog (chars : List Char) : Bool := skipMisc (chars.length + 1) chars = some []

def withoutMark : List Char → List Char
  | '\ufeff' :: rest => rest
  | chars => chars

def takeProlog (chars : List Char) : Taken Doctype :=
  let document := withoutMark (lineFeeds chars)
  match takeDeclaration document with
  | none => none
  | some (standsAlone, body) =>
      (skipMisc (body.length + 1) body).bind (takeDoctype standsAlone (byteCount document))

/-- The root element of a document, if the document is well-formed.  What stands around the root
is read and dropped. -/
def readDocument (chars : List Char) : Option Element :=
  match takeProlog chars with
  | some (doctype, '<' :: rest) =>
      if doctype.admitsContent ('<' :: rest) then
        match readRoot doctype rest with
        | some (root, left) => if isEpilog left then some root else none
        | none => none
      else none
  | _ => none

end LibraryDetection.Xml

import LibraryDetection.Xml.Doctype

/-!
# XML tags

Start tags with their attributes, those that the document type adds included.
-/

namespace LibraryDetection.Xml

set_option autoImplicit false

def takeAttribute (doctype : Doctype) (chars : List Char) : Taken Attribute :=
  match takeQName chars with
  | none => none
  | some (name, rest) =>
      match skipSpace rest with
      | '=' :: rest =>
          match skipSpace rest with
          | quote :: rest =>
              if quote = '"' ∨ quote = '\'' then
                match rest.span (· ≠ quote) with
                | (text, _ :: left) =>
                    (doctype.attributeText? text).map fun value => (⟨name, value⟩, left)
                | _ => none
              else none
          | [] => none
      | _ => none

structure TagEnd where
  attributes : List Attribute
  /-- The element ends with its start tag. -/
  closed : Bool

def takeTagEnd (doctype : Doctype) : Nat → List Attribute → List Char → Taken TagEnd
  | 0, _, _ => none
  | fuel + 1, passed, chars =>
      let rest := skipSpace chars
      match rest with
      | '>' :: left => some (⟨passed.reverse, false⟩, left)
      | '/' :: '>' :: left => some (⟨passed.reverse, true⟩, left)
      | _ =>
          if (chars.head?.map isSpace).getD false then
            match takeAttribute doctype rest with
            | some (given, left) => takeTagEnd doctype fuel (given :: passed) left
            | none => none
          else none

def qNameOf (text : String) : QName :=
  match Text.split ':' text with
  | [scope, localName] => ⟨some scope, localName⟩
  | _ => ⟨none, text⟩

/-- The attributes that the document type adds to those of an element. -/
def Doctype.added (doctype : Doctype) (element : QName) (given : List Attribute) :
    List Attribute :=
  doctype.defaults.filterMap fun known =>
    let name := qNameOf known.name
    if known.element = element.text ∧ !given.any (·.name = name) then
      known.value.map fun value => ⟨name, value⟩
    else none

end LibraryDetection.Xml

import LibraryDetection.Xml.Tag

/-!
# XML namespaces

Which namespace a prefix stands for inside an element, and the full name that an element
has by it.
-/

namespace LibraryDetection.Xml

set_option autoImplicit false

/-- The names of the namespaces that belong to XML itself begin with the same host. -/
def standardNamespace (path : String) : String := "http://" ++ "www.w3.org" ++ path

def xmlNamespace : String := standardNamespace "/XML/1998/namespace"

def xmlnsNamespace : String := standardNamespace "/2000/xmlns/"

/-- Namespaces by prefix, the innermost declaration first; the empty prefix stands for
names without one. -/
abbrev Bindings := List (String × String)

def Bindings.initial : Bindings := [("xml", xmlNamespace)]

def Attribute.declares? (given : Attribute) : Option String :=
  match given.name.scope with
  | none => if given.name.localName = "xmlns" then some "" else none
  | some scope => if scope = "xmlns" then some given.name.localName else none

/-- Whether a prefix may stand for a namespace.  A closing brace would end the namespace
in a full name too early. -/
def mayBind (scope namespaceName : String) : Bool :=
  (scope = "" || namespaceName ≠ "")
    && scope ≠ "xmlns"
    && (scope = "xml") = (namespaceName = xmlNamespace)
    && namespaceName ≠ xmlnsNamespace
    && !namespaceName.toList.contains '\x7d'

def Bindings.extend (bindings : Bindings) : List Attribute → Option Bindings
  | [] => some bindings
  | given :: rest =>
      match given.declares? with
      | none => Bindings.extend bindings rest
      | some scope =>
          if mayBind scope given.value then
            Bindings.extend ((scope, given.value) :: bindings) rest
          else none

def fullName (namespaceName localName : String) : String :=
  if namespaceName = "" then localName
  else "\x7b" ++ namespaceName ++ "\x7d" ++ localName

def Bindings.elementName? (bindings : Bindings) (name : QName) : Option String :=
  match name.scope with
  | none => some (fullName ((bindings.lookup "").getD "") name.localName)
  | some scope => (bindings.lookup scope).map fun found => fullName found name.localName

def Bindings.attributeName? (bindings : Bindings) (name : QName) : Option String :=
  match name.scope with
  | none => some name.localName
  | some scope => (bindings.lookup scope).map fun found => fullName found name.localName

/-- No two attributes have the same name, as written or in full, and every prefix is
bound. -/
def Bindings.acceptsAttributes (bindings : Bindings) (attributes : List Attribute) : Bool :=
  let plain := attributes.filter fun given => given.declares?.isNone
  let names := plain.map fun given => bindings.attributeName? given.name
  decide (attributes.map fun given => given.name).Nodup
    && names.all Option.isSome && decide names.Nodup

end LibraryDetection.Xml

import LibraryDetection.ClassDump.Kind
import LibraryDetection.Json.Display

/-!
# Reading class dumps

A dump is a list of class records, or an object with such a list.  A record has a name;
its kind, its methods and its fields may be left out.
-/

namespace LibraryDetection

set_option autoImplicit false

open LibraryDetection.Text

inductive DumpFault
  | notClassList
  | badClass (index : Nat)
  | unknownKind (className : String) (kind : Json)
  | badMember (className : String)
  | membersNotList (className field : String) (found : Json)

def DumpFault.message : DumpFault → String
  | .notClassList => "class dump must be a list or an object with a 'classes' list"
  | .badClass index =>
      "classes[" ++ toString index ++ "]: expected an object with a non-empty 'name'"
  | .unknownKind className kind => className ++ ": unknown class kind " ++ kind.display
  | .badMember className =>
      className ++ ": member must be a string or an object with a 'signature'"
  | .membersNotList className field found =>
      className ++ ": '" ++ field ++ "' must be a list, got " ++ found.typeName

def flag (name : String) (absent : Bool) (fields : List (String × Json)) : Bool :=
  match Json.field? name fields with
  | some value => value.truth
  | none => absent

/-- A member is a bare signature or an object with one.  A bare signature is that of a public
member that is neither synthetic nor a bridge; an object may say otherwise by its flags, each of
which counts by its truth. -/
def Member.ofJson (isMethod : Bool) (className : String) : Json → Except DumpFault Member
  | .text signature => .ok { signature, isMethod }
  | .object fields =>
      match Json.field? "signature" fields with
      | some (.text signature) =>
          .ok ⟨signature, flag "public" true fields, flag "synthetic" false fields,
            flag "bridge" false fields, isMethod⟩
      | _ => .error (.badMember className)
  | _ => .error (.badMember className)

def membersOf (isMethod : Bool) (className : String) :
    List Json → Except DumpFault (List Member)
  | [] => .ok []
  | item :: rest =>
      match Member.ofJson isMethod className item with
      | .error fault => .error fault
      | .ok member =>
          match membersOf isMethod className rest with
          | .error fault => .error fault
          | .ok members => .ok (member :: members)

/-- The members in one field of a record; there are none where the field is absent. -/
def membersIn (field : String) (isMethod : Bool) (className : String)
    (fields : List (String × Json)) : Except DumpFault (List Member) :=
  match Json.field? field fields with
  | none => .ok []
  | some (.list items) => membersOf isMethod className items
  | some found => .error (.membersNotList className field found)

/-- The kind that a record names by one of the six labels.  Where the field is absent or null
the name of the class tells the kind; any other value fails the record. -/
def kindIn (className : String) (fields : List (String × Json)) : Except DumpFault ClassKind :=
  match Json.field? "kind" fields with
  | none | some .null => .ok (ClassKind.ofName className)
  | some (.text label) =>
      match ClassKind.known? label with
      | some kind => .ok kind
      | none => .error (.unknownKind className (.text label))
  | some found => .error (.unknownKind className found)

def DumpedClass.ofFields (name : String) (fields : List (String × Json)) :
    Except DumpFault DumpedClass :=
  match kindIn name fields with
  | .error fault => .error fault
  | .ok kind =>
      match membersIn "methods" true name fields with
      | .error fault => .error fault
      | .ok methods =>
          match membersIn "fields" false name fields with
          | .error fault => .error fault
          | .ok others => .ok ⟨name, kind, flag "public" true fields, methods ++ others⟩

def DumpedClass.ofJson (index : Nat) : Json → Except DumpFault DumpedClass
  | .object fields =>
      match Json.field? "name" fields with
      | some (.text name) =>
          if name = "" then .error (.badClass index)
          else DumpedClass.ofFields (replaceChar '/' '.' name) fields
      | _ => .error (.badClass index)
  | _ => .error (.badClass index)

def DumpedClass.allOfJson : Nat → List Json → Except DumpFault (List DumpedClass)
  | _, [] => .ok []
  | index, item :: rest =>
      match DumpedClass.ofJson index item with
      | .error fault => .error fault
      | .ok dumped =>
          match DumpedClass.allOfJson (index + 1) rest with
          | .error fault => .error fault
          | .ok others => .ok (dumped :: others)

/-- The classes of a dump in the order of their records.  The first record that is not that of a
class fails the whole dump. -/
def readClassDump (dump : Json) : Except DumpFault (List DumpedClass) :=
  let records := match dump with
    | .object fields => Json.field? "classes" fields
    | other => some other
  match records with
  | some (.list items) => DumpedClass.allOfJson 0 items
  | _ => .error .notClassList

end LibraryDetection

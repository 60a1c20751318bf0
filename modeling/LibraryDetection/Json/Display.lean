import LibraryDetection.Json.Value
import LibraryDetection.Number.Layout
import LibraryDetection.Text.Quoted
import LibraryDetection.Text.Fields

/-!
# Values in messages

The short form in which a message quotes a value, and the name of its type.
-/

namespace LibraryDetection.Json

set_option autoImplicit false

open LibraryDetection.Text

mutual

def display : Json → String
  | .null => "None"
  | .bool value => if value then "True" else "False"
  | .whole value => toString value
  | .real value => Number.plainLayout.text value
  | .text value => quoted value
  | .list items => "[" ++ join ", " (displayItems items) ++ "]"
  | .object fields => "\x7b" ++ join ", " (displayFields fields) ++ "\x7d"

def displayItems : List Json → List String
  | [] => []
  | item :: rest => display item :: displayItems rest

def displayFields : List (String × Json) → List String
  | [] => []
  | (name, value) :: rest => (quoted name ++ ": " ++ display value) :: displayFields rest

end

def typeName : Json → String
  | .null => "NoneType"
  | .bool _ => "bool"
  | .whole _ => "int"
  | .real _ => "float"
  | .text _ => "str"
  | .list _ => "list"
  | .object _ => "dict"

end LibraryDetection.Json

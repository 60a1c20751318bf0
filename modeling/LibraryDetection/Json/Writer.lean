import LibraryDetection.Json.Value
import LibraryDetection.Number.Layout
import LibraryDetection.Text.Quoted
import LibraryDetection.Text.Fields

/-!
# Writing JSON

One writer for compact records and for indented reports, which differ in the white
space, in the characters that are escaped and in the layout of floats.
-/

namespace LibraryDetection.Json

set_option autoImplicit false

open LibraryDetection.Text

structure Style where
  /-- Characters beyond ASCII are escaped. -/
  asciiOnly : Bool
  numbers : Number.Layout
  /-- Each value stands on a line of its own. -/
  indented : Bool

def recordStyle : Style := ⟨false, Number.recordLayout, false⟩

def reportStyle : Style := ⟨false, Number.recordLayout, true⟩

def listStyle : Style := ⟨true, Number.listLayout, true⟩

def unicodeEscape (code : Nat) : List Char := '\\' :: 'u' :: hexDigits 4 code

def escapeChar (asciiOnly : Bool) (char : Char) : List Char :=
  if char = '"' ∨ char = '\\' then ['\\', char]
  else if char = '\n' then ['\\', 'n']
  else if char = '\r' then ['\\', 'r']
  else if char = '\t' then ['\\', 't']
  else if char = '\x08' then ['\\', 'b']
  else if char = '\x0c' then ['\\', 'f']
  else if char.toNat < 32 then unicodeEscape char.toNat
  else if asciiOnly && 127 ≤ char.toNat then
    if char.toNat < 0x10000 then unicodeEscape char.toNat
    else
      let code := char.toNat - 0x10000
      unicodeEscape (0xD800 + code / 0x400) ++ unicodeEscape (0xDC00 + code % 0x400)
  else [char]

def writeText (asciiOnly : Bool) (text : String) : String :=
  String.ofList ('"' :: (text.toList.flatMap (escapeChar asciiOnly) ++ ['"']))

def lineBreak (depth : Nat) : String :=
  String.ofList ('\n' :: List.replicate (2 * depth) ' ')

def group (style : Style) (depth : Nat) (opening closing : String)
    (entries : List String) : String :=
  if entries.isEmpty then opening ++ closing
  else if style.indented then
    opening ++ lineBreak (depth + 1) ++ join ("," ++ lineBreak (depth + 1)) entries
      ++ lineBreak depth ++ closing
  else opening ++ join "," entries ++ closing

mutual

def writeAt (style : Style) (depth : Nat) : Json → String
  | .null => "null"
  | .bool value => if value then "true" else "false"
  | .whole value => toString value
  | .real value => style.numbers.text value
  | .text value => writeText style.asciiOnly value
  | .list items => group style depth "[" "]" (writeItems style (depth + 1) items)
  | .object fields => group style depth "\x7b" "\x7d" (writeFields style (depth + 1) fields)

def writeItems (style : Style) (depth : Nat) : List Json → List String
  | [] => []
  | item :: rest => writeAt style depth item :: writeItems style depth rest

def writeFields (style : Style) (depth : Nat) : List (String × Json) → List String
  | [] => []
  | (name, value) :: rest =>
      (writeText style.asciiOnly name ++ (if style.indented then ": " else ":")
        ++ writeAt style depth value) :: writeFields style depth rest

end

def write (style : Style) (value : Json) : String := writeAt style 0 value

end LibraryDetection.Json

import LibraryDetection.Text.Hex
import LibraryDetection.Text.Printable

/-!
# Quoted texts

Messages show a text between single quotes, or between double quotes when it holds a
single quote and no double quote.  Characters that are not printable are written with
an escape.
-/

namespace LibraryDetection.Text

set_option autoImplicit false

def codeEscape (code : Nat) : List Char :=
  if code < 0x100 then '\\' :: 'x' :: hexDigits 2 code
  else if code < 0x10000 then '\\' :: 'u' :: hexDigits 4 code
  else '\\' :: 'U' :: hexDigits 8 code

def quotedChar (quote char : Char) : List Char :=
  if char = quote ∨ char = '\\' then ['\\', char]
  else if char = '\t' then ['\\', 't']
  else if char = '\n' then ['\\', 'n']
  else if char = '\r' then ['\\', 'r']
  else if isPrintable char then [char]
  else codeEscape char.toNat

def quoteFor (chars : List Char) : Char :=
  if '\'' ∈ chars ∧ '"' ∉ chars then '"' else '\''

def quotedChars (chars : List Char) : List Char :=
  let quote := quoteFor chars
  quote :: (chars.flatMap (quotedChar quote) ++ [quote])

def quoted (text : String) : String := String.ofList (quotedChars text.toList)

end LibraryDetection.Text

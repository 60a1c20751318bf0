import LibraryDetection.Text.CharSet

/-!
# Blank characters

The characters that are dropped from both ends of a text: the white space of the
character database, its separators, and the four information separators 28 to 31.
-/

namespace LibraryDetection.Text

set_option autoImplicit false

def blankRanges : CodeRanges :=
  [(9, 13), (28, 32), (133, 133), (160, 160), (5760, 5760), (8192, 8202), (8232, 8233),
   (8239, 8239), (8287, 8287), (12288, 12288)]

def isBlank (char : Char) : Bool := blankRanges.covers char.toNat

def trimChars (chars : List Char) : List Char :=
  ((chars.dropWhile isBlank).reverse.dropWhile isBlank).reverse

def trim (text : String) : String := String.ofList (trimChars text.toList)

end LibraryDetection.Text

import LibraryDetection.Number.Binary64
import LibraryDetection.Text.Blank
import LibraryDetection.Text.Digit
import LibraryDetection.Text.Fields

/-!
# Number literals

What counts as a number in a setting or a date: decimal digits of any script, single
underscores between digits, blanks at both ends.
-/

namespace LibraryDetection.Number

set_option autoImplicit false

open LibraryDetection.Text

def digitLimit : Nat := 4300

def asciiBlank (char : Char) : Bool :=
  char = ' ' || (9 ≤ char.toNat && char.toNat ≤ 13)

def plainChar (char : Char) : Char :=
  if char.toNat < 127 then char
  else if isBlank char then ' '
  else match decimalDigit? char with
    | some value => Char.ofNat (48 + value)
    | none => '?'

def trimAsciiBlanks (chars : List Char) : List Char :=
  ((chars.dropWhile asciiBlank).reverse.dropWhile asciiBlank).reverse

/-- The characters without underscores, each of which must stand between two digits.
`afterDigit` tells whether a digit stands in front. -/
def withoutUnderscores? (afterDigit : Bool) : List Char → Option (List Char)
  | [] => some []
  | ['_'] => none
  | '_' :: next :: rest =>
      if afterDigit && isAsciiDigit next then
        (withoutUnderscores? true rest).map (next :: ·)
      else none
  | char :: rest => (withoutUnderscores? (isAsciiDigit char) rest).map (char :: ·)

def takeSign : List Char → Bool × List Char
  | '-' :: rest => (true, rest)
  | '+' :: rest => (false, rest)
  | chars => (false, chars)

def digitsValue (digits : List Char) : Nat := Nat.ofDigitChars 10 digits 0

def takeDigits (chars : List Char) : List Char × List Char := chars.span isAsciiDigit

def exponentPart? : List Char → Option Int
  | [] => some 0
  | mark :: rest =>
      if mark = 'e' ∨ mark = 'E' then
        let (negative, digits) := takeSign rest
        if digits.isEmpty || !digits.all isAsciiDigit then none
        else
          let value := (digitsValue digits : Int)
          some (if negative then -value else value)
      else none

/-- Digits with an optional point and exponent; a digit stands before or behind the point. -/
def decimal? (negative : Bool) (chars : List Char) : Option Float :=
  let (whole, rest) := takeDigits chars
  let (places, rest) := match rest with
    | '.' :: more => takeDigits more
    | _ => ([], rest)
  if whole.isEmpty && places.isEmpty then none
  else (exponentPart? rest).map fun exponent =>
    ofDecimal negative (digitsValue (whole ++ places)) (exponent - places.length)

def asciiLower (char : Char) : Char :=
  if 65 ≤ char.toNat ∧ char.toNat ≤ 90 then Char.ofNat (char.toNat + 32) else char

/-- The value of a real number literal; the words for infinity and for no number count
as literals in any case. -/
def real? (text : String) : Option Float := do
  let chars := trimAsciiBlanks (text.toList.map plainChar)
  let chars ← withoutUnderscores? false chars
  let (negative, rest) := takeSign chars
  let word := String.ofList (rest.map asciiLower)
  if word = "inf" ∨ word = "infinity" then some (ofBits negative infinityBits)
  else if word = "nan" then some (ofBits negative (infinityBits + Nat.pow 2 51))
  else decimal? negative rest

def whole? (text : String) : Option Int := do
  let chars := trimAsciiBlanks (text.toList.map plainChar)
  let (negative, rest) := takeSign chars
  let digits ← withoutUnderscores? false rest
  if digits.isEmpty || !digits.all isAsciiDigit || digitLimit < digits.length then none
  else
    let value := (digitsValue digits : Int)
    some (if negative then -value else value)

end LibraryDetection.Number

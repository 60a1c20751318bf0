import LibraryDetection.Library.Date
import LibraryDetection.Number.Literal
import LibraryDetection.Text.Quoted

/-!
# Release dates

A release date has three groups of digits: year, month and day between dashes, or day,
month and year between points or slashes.  Digits of all scripts count.
-/

namespace LibraryDetection.ReleaseDate

set_option autoImplicit false

open LibraryDetection.Text

inductive Fault
  /-- The text is no date. -/
  | noDate
  /-- A group holds a character that has no value as a digit. -/
  | badDigits (group : String)
  | tooManyDigits (count : Nat)
  /-- A number is beyond 64 bits. -/
  | beyondWord
  /-- A number is beyond 32 bits. -/
  | beyondHalfWord
  deriving DecidableEq, Repr

def Fault.text : Fault → String
  | .noDate => ""
  | .badDigits group =>
      "invalid literal for int() with base 10: "
        ++ String.ofList ((quotedChars group.toList).take 200)
  | .tooManyDigits count =>
      "Exceeds the limit (" ++ toString Number.digitLimit
        ++ " digits) for integer string conversion: value has " ++ toString count
        ++ " digits; use sys.set_int_max_str_digits() to increase the limit"
  | .beyondWord => "Python int too large to convert to C long"
  | .beyondHalfWord => "signed integer is greater than maximum"

def isDigitGroup (group : List Char) : Bool := !group.isEmpty && group.all looksLikeDigit

/-- The value of a group of digits.  A character that only looks like a digit ends the number,
and the number of the digits before it is looked at first. -/
def value (group : List Char) : Except Fault Nat :=
  let digits := group.takeWhile isDecimalDigit
  if Number.digitLimit < digits.length then .error (.tooManyDigits digits.length)
  else if digits.length < group.length then .error (.badDigits (String.ofList group))
  else .ok (digits.foldl (fun total digit => total * 10 + (decimalDigit? digit).getD 0) 0)

def bounded (number : Nat) : Except Fault Unit :=
  if Nat.pow 2 63 ≤ number then .error .beyondWord
  else if Nat.pow 2 31 ≤ number then .error .beyondHalfWord
  else .ok ()

/-- The date of three groups.  All three are read before any of them is looked at for its size,
and only numbers of the right size are looked up in the calendar. -/
def ofGroups (year month day : List Char) : Except Fault Date := do
  let year ← value year
  let month ← value month
  let day ← value day
  bounded year
  bounded month
  bounded day
  match Date.of? year month day with
  | some date => .ok date
  | none => .error .noDate

def groups? (separator : Char) (chars : List Char) :
    Option (List Char × List Char × List Char) :=
  match splitChars separator chars with
  | [first, second, third] =>
      if isDigitGroup first && isDigitGroup second && isDigitGroup third then
        some (first, second, third)
      else none
  | _ => none

def read (text : String) : Except Fault Date :=
  let chars := text.toList
  match groups? '-' chars with
  | some (year, month, day) => ofGroups year month day
  | none =>
      match (groups? '.' chars).or (groups? '/' chars) with
      | some (day, month, year) => ofGroups year month day
      | none => .error .noDate

end LibraryDetection.ReleaseDate

import LibraryDetection.Validation.Violation
import LibraryDetection.Number.Literal
import LibraryDetection.Number.Layout

/-!
# Whole numbers and truth values

A whole number may also be written as a float without fraction, as a truth value or as
a text; a truth value as the number 0 or 1 or as one of twelve words.
-/

namespace LibraryDetection.Validation

set_option autoImplicit false

open LibraryDetection.Text LibraryDetection.Number

def wholeBound : Nat := Nat.pow 2 63

def wholePart? (value : Binary) : Option Int :=
  let (top, bottom) := value.fraction
  if top % bottom = 0 then
    let size := (top / bottom : Nat)
    some (if value.negative then -(size : Int) else size)
  else none

/-- The white space of a number in a text, the information separators not included. -/
def isMargin (char : Char) : Bool := isBlank char && !(28 ≤ char.toNat && char.toNat ≤ 31)

def withoutMargins (chars : List Char) : List Char :=
  ((chars.dropWhile isMargin).reverse.dropWhile isMargin).reverse

def wholeDigits? (chars : List Char) : Option (List Char) :=
  match chars.span (· ≠ '.') with
  | (digits, []) => some digits
  | (digits, _ :: zeros) =>
      if !zeros.isEmpty && zeros.all (· = '0') then some digits else none

def wholeOfText (value : String) : Checked Int :=
  let (negative, rest) := takeSign (withoutMargins value.toList)
  match (wholeDigits? rest).bind (withoutUnderscores? false) with
  | none => .violates .wholeText
  | some digits =>
      if digits.isEmpty || !digits.all isAsciiDigit then .violates .wholeText
      else if digitLimit < digits.length then .violates .wholeSize
      else
        let size := (digitsValue digits : Int)
        .valid (if negative then -size else size)

def whole : Json → Checked Int
  | .whole value => .valid value
  | .bool value => .valid (if value then 1 else 0)
  | .real value =>
      match binary? value with
      | none => .violates .finite
      | some parts =>
          match wholePart? parts with
          | none => .violates .wholeWithoutFraction
          | some number =>
              if number.natAbs < wholeBound then .valid number else .violates .wholeSize
  | .text value => wholeOfText value
  | _ => .violates .whole

def trueWords : List String := ["1", "t", "y", "yes", "on", "true"]

def falseWords : List String := ["0", "f", "n", "no", "off", "false"]

def truthOfWhole (value : Int) : Checked Bool :=
  if value = 0 then .valid false
  else if value = 1 then .valid true
  else .violates .truthText

def truth : Json → Checked Bool
  | .bool value => .valid value
  | .whole value =>
      if -(wholeBound : Int) ≤ value ∧ value < wholeBound then truthOfWhole value
      else .violates .truth
  | .real value =>
      match (binary? value).bind wholePart? with
      | none => .violates .truth
      | some number =>
          if number.natAbs < wholeBound then truthOfWhole number else .violates .truth
  | .text value =>
      let word := value.map asciiLower
      if word ∈ trueWords then .valid true
      else if word ∈ falseWords then .valid false
      else .violates .truthText
  | _ => .violates .truth

end LibraryDetection.Validation

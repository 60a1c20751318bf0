import LibraryDetection.Number.Shortest

/-!
# Written numbers

How the digits of a number are laid out: where the point stands, from which size on an
exponent is written, and what stands for the values that have no digits.
-/

namespace LibraryDetection.Number

set_option autoImplicit false

/-- The point of `0.d₁d₂… · 10 ^ place` lies strictly above `lowestPlace` and not above
`highestPlace` in the positional notation. -/
structure Layout where
  lowestPlace : Int
  highestPlace : Int
  exponentPlus : String
  exponentWidth : Nat
  notNumber : String
  infinity : String

def plainLayout : Layout :=
  { lowestPlace := -4, highestPlace := 16, exponentPlus := "+", exponentWidth := 2,
    notNumber := "nan", infinity := "inf" }

def listLayout : Layout :=
  { plainLayout with notNumber := "NaN", infinity := "Infinity" }

def recordLayout : Layout :=
  { lowestPlace := -5, highestPlace := 16, exponentPlus := "", exponentWidth := 1,
    notNumber := "null", infinity := "null" }

def zeros (count : Nat) : List Char := List.replicate count '0'

def padDigits (width value : Nat) : List Char :=
  let digits := Nat.toDigits 10 value
  zeros (width - digits.length) ++ digits

def positional (digits : List Char) (place : Int) : List Char :=
  if place ≤ 0 then '0' :: '.' :: (zeros (-place).toNat ++ digits)
  else
    let whole := place.toNat
    if digits.length ≤ whole then digits ++ zeros (whole - digits.length) ++ ['.', '0']
    else digits.take whole ++ '.' :: digits.drop whole

def scientific (layout : Layout) (digits : List Char) (place : Int) : List Char :=
  let exponent := place - 1
  let mantissa := match digits with
    | [] => []
    | [digit] => [digit]
    | digit :: more => digit :: '.' :: more
  let sign := if exponent < 0 then ['-'] else layout.exponentPlus.toList
  mantissa ++ 'e' :: (sign ++ padDigits layout.exponentWidth exponent.natAbs)

def Layout.chars (layout : Layout) (decimal : Decimal) : List Char :=
  let digits := Nat.toDigits 10 decimal.digits
  let place := decimal.exponent + digits.length
  if layout.lowestPlace < place ∧ place ≤ layout.highestPlace then positional digits place
  else scientific layout digits place

def isNegative (value : Float) : Bool := value.toBits.toNat / Nat.pow 2 63 == 1

def isNotNumber (value : Float) : Bool := !(value == value)

def Layout.text (layout : Layout) (value : Float) : String :=
  match binary? value with
  | none =>
      if isNotNumber value then layout.notNumber
      else if isNegative value && layout.infinity ≠ "null" then "-" ++ layout.infinity
      else layout.infinity
  | some parts =>
      let digits := if parts.mantissa = 0 then ['0', '.', '0'] else layout.chars (shortest parts)
      String.ofList (if parts.negative then '-' :: digits else digits)

def fixedText (places : Nat) (value : Float) : String :=
  match binary? value with
  | none => plainLayout.text value
  | some parts =>
      let (top, bottom) := parts.fraction
      let digits := padDigits (places + 1) (roundQuotient (top * Nat.pow 10 places) bottom)
      let whole := digits.length - places
      let text := digits.take whole ++ '.' :: digits.drop whole
      String.ofList (if parts.negative then '-' :: text else text)

end LibraryDetection.Number

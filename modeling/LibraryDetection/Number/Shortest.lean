import LibraryDetection.Number.Binary64

/-!
# Shortest decimals

The decimal with the fewest digits that reads back as a given value, and of those the
nearest one; of two equally near ones the even one.
-/

namespace LibraryDetection.Number

set_option autoImplicit false

structure Decimal where
  digits : Nat
  exponent : Int
  deriving DecidableEq, Repr

def digitCount (value : Nat) : Nat := (Nat.toDigits 10 value).length

def leadExponent (numerator denominator : Nat) : Int :=
  if denominator ≤ numerator then (digitCount (numerator / denominator) : Int) - 1
  else
    let inverse := denominator / numerator
    let width := digitCount inverse
    let isPower := inverse * numerator = denominator ∧ inverse = Nat.pow 10 (width - 1)
    if isPower then -((width : Int) - 1) else -(width : Int)

def inDecimalUnits (numerator denominator : Nat) (exponent : Int) : Nat × Nat :=
  if exponent < 0 then (numerator * Nat.pow 10 (-exponent).toNat, denominator)
  else (numerator, denominator * Nat.pow 10 exponent.toNat)

def Decimal.fraction (decimal : Decimal) : Nat × Nat :=
  if decimal.exponent < 0 then (decimal.digits, Nat.pow 10 (-decimal.exponent).toNat)
  else (decimal.digits * Nat.pow 10 decimal.exponent.toNat, 1)

def Decimal.bits (decimal : Decimal) : Nat :=
  nearestBits decimal.fraction.1 decimal.fraction.2

/-- Of the two neighbours of the fraction on the grid of `10 ^ exponent`, the one that
reads back as `bits`, and the nearer one if both do. -/
def neighbour? (numerator denominator bits : Nat) (exponent : Int) : Option Decimal :=
  let (top, bottom) := inDecimalUnits numerator denominator exponent
  let below : Decimal := ⟨top / bottom, exponent⟩
  let above : Decimal := ⟨top / bottom + 1, exponent⟩
  if below.bits = bits then
    if above.bits = bits then some ⟨roundQuotient top bottom, exponent⟩ else some below
  else if above.bits = bits then some above
  else none

def firstReadingBack (numerator denominator bits : Nat) (lead : Int) :
    Nat → Nat → Option Decimal
  | 0, _ => none
  | tries + 1, width =>
      match neighbour? numerator denominator bits (lead - width) with
      | some decimal => some decimal
      | none => firstReadingBack numerator denominator bits lead tries (width + 1)

def Decimal.reduced (decimal : Decimal) : Decimal :=
  if decimal.digits = 10 then ⟨1, decimal.exponent + 1⟩ else decimal

/-- The shortest decimal that reads back as a positive value.  Seventeen digits always suffice,
so that the last case is not met. -/
def shortest (value : Binary) : Decimal :=
  let (numerator, denominator) := value.fraction
  let bits := nearestBits numerator denominator
  let lead := leadExponent numerator denominator
  match firstReadingBack numerator denominator bits lead 17 0 with
  | some decimal => decimal.reduced
  | none => ⟨numerator / denominator, 0⟩

end LibraryDetection.Number

/-!
# Binary64 values and fractions

A finite `Float` is a whole number of units `2 ^ e`; conversely every fraction has a
nearest `Float`.  The floats from zero up are numbered by their bit patterns in
rising order, so that rounding up at a power of two carries into the exponent by itself.
-/

namespace LibraryDetection.Number

set_option autoImplicit false

structure Binary where
  negative : Bool
  mantissa : Nat
  exponent : Int
  deriving DecidableEq, Repr

def leastExponent : Int := -1074

def infinityBits : Nat := 2047 * Nat.pow 2 52

def binary? (value : Float) : Option Binary :=
  let bits := value.toBits.toNat
  let field : Nat := bits / Nat.pow 2 52 % 2048
  let fraction : Nat := bits % Nat.pow 2 52
  let negative := bits / Nat.pow 2 63 == 1
  if field = 2047 then none
  else if field = 0 then some ⟨negative, fraction, leastExponent⟩
  else some ⟨negative, fraction + Nat.pow 2 52, (field : Int) - 1075⟩

def Binary.fraction (value : Binary) : Nat × Nat :=
  if value.exponent ≤ 0 then (value.mantissa, Nat.pow 2 (-value.exponent).toNat)
  else (value.mantissa * Nat.pow 2 value.exponent.toNat, 1)

/-- The whole number nearest to `numerator / denominator`; of two, the even one. -/
def roundQuotient (numerator denominator : Nat) : Nat :=
  let quotient := numerator / denominator
  let rest := numerator % denominator
  if 2 * rest < denominator then quotient
  else if denominator < 2 * rest then quotient + 1
  else quotient + quotient % 2

def inUnits (numerator denominator : Nat) (exponent : Int) : Nat × Nat :=
  if exponent ≤ 0 then (numerator * Nat.pow 2 (-exponent).toNat, denominator)
  else (numerator, denominator * Nat.pow 2 exponent.toNat)

/-- The exponent of the unit in which the fraction has 53 binary digits, if it is not
below the least one. -/
def unitExponent (numerator denominator : Nat) : Int :=
  let guess := (numerator.log2 : Int) - (denominator.log2 : Int) - 52
  let (top, bottom) := inUnits numerator denominator guess
  let exponent := if top < bottom * Nat.pow 2 52 then guess - 1 else guess
  max exponent leastExponent

/-- The bit pattern of the value nearest to a fraction, counting on beyond infinity
where the fraction is too large. -/
def nearestBits (numerator denominator : Nat) : Nat :=
  if numerator = 0 then 0
  else
    let exponent := unitExponent numerator denominator
    let (top, bottom) := inUnits numerator denominator exponent
    (exponent - leastExponent).toNat * Nat.pow 2 52 + roundQuotient top bottom

def ofBits (negative : Bool) (bits : Nat) : Float :=
  Float.ofBits (UInt64.ofNat (if negative then bits + Nat.pow 2 63 else bits))

def nearest (negative : Bool) (numerator denominator : Nat) : Float :=
  ofBits negative (min (nearestBits numerator denominator) infinityBits)

/-- The quotient of two whole numbers, worked out exactly and rounded once.  There is none where
it is too large for a finite value. -/
def quotient? (numerator denominator : Int) : Option Float :=
  let bits := nearestBits numerator.natAbs denominator.natAbs
  if bits < infinityBits then
    some (ofBits ((numerator < 0) != (denominator < 0)) bits)
  else none

/-- `digits · 10 ^ exponent`, rounded once.  Far outside the range of values the power
is not worked out. -/
def ofDecimal (negative : Bool) (digits : Nat) (exponent : Int) : Float :=
  let width := ((Nat.toDigits 10 digits).length : Int)
  if digits = 0 then ofBits negative 0
  else if 310 < width + exponent then ofBits negative infinityBits
  else if width + exponent < -330 then ofBits negative 0
  else if exponent < 0 then nearest negative digits (Nat.pow 10 (-exponent).toNat)
  else nearest negative (digits * Nat.pow 10 exponent.toNat) 1

/-- The value rounded to `places` decimal places, a half to the even neighbour. -/
def roundPlaces (places : Nat) (value : Float) : Float :=
  match binary? value with
  | none => value
  | some parts =>
      let (top, bottom) := parts.fraction
      let unit := Nat.pow 10 places
      nearest parts.negative (roundQuotient (top * unit) bottom) unit

theorem round_quotient_le_succ (numerator denominator : Nat) :
    roundQuotient numerator denominator ≤ numerator / denominator + 1 := by
  simp only [roundQuotient]
  split
  · omega
  · split <;> omega

theorem le_round_quotient (numerator denominator : Nat) :
    numerator / denominator ≤ roundQuotient numerator denominator := by
  simp only [roundQuotient]
  split
  · omega
  · split <;> omega

end LibraryDetection.Number

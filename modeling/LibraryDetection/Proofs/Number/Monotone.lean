import LibraryDetection.Proofs.Number.Order

/-!
# Quotients of growing parts

Of one whole, a larger part has no smaller quotient, and the whole itself has quotient one:
a larger part asks for no smaller unit, and in one unit rounding keeps the order.
-/

namespace LibraryDetection.Number

set_option autoImplicit false

theorem round_quotient_le_round_quotient {numerator other denominator : Nat}
    (bound : numerator ≤ other) :
    roundQuotient numerator denominator ≤ roundQuotient other denominator := by
  have quotients := Nat.div_le_div_right (c := denominator) bound
  rcases quotients.eq_or_lt with same | less
  · have first := Nat.div_add_mod numerator denominator
    have second := Nat.div_add_mod other denominator
    rw [same] at first
    have rests : numerator % denominator ≤ other % denominator := by omega
    simp only [roundQuotient, same]
    grind
  · exact (round_quotient_le_succ numerator denominator).trans
      ((Nat.succ_le_of_lt less).trans (le_round_quotient other denominator))

theorem le_of_least_exponent_lt {part whole : Nat} (positive : part ≠ 0) (bound : part ≤ whole)
    (above : leastExponent < unitExponent part whole) :
    whole * 2 ^ 52 ≤ part * 2 ^ (-unitExponent part whole).toNat := by
  have order := log2_le_log2 positive bound
  have small : (part.log2 : Int) - (whole.log2 : Int) - 52 ≤ 0 := by omega
  have unit : Nat.pow 2 52 = 2 ^ 52 := rfl
  have guessed : (-((part.log2 : Int) - (whole.log2 : Int) - 52)).toNat =
      whole.log2 - part.log2 + 52 := by omega
  have next : (-((part.log2 : Int) - (whole.log2 : Int) - 52 - 1)).toNat =
      whole.log2 - part.log2 + 53 := by omega
  rw [unitExponent, in_units_of_nonpos small] at above ⊢
  simp only [guessed, unit] at above ⊢
  split at above
  · rename_i low
    rw [if_pos low, max_eq_left (by omega), next]
    have least : 2 ^ part.log2 ≤ part := Nat.log2_self_le positive
    have most : whole < 2 ^ (whole.log2 + 1) := Nat.lt_log2_self
    calc whole * 2 ^ 52
        ≤ 2 ^ (whole.log2 + 1) * 2 ^ 52 := Nat.mul_le_mul_right _ most.le
      _ = 2 ^ part.log2 * 2 ^ (whole.log2 - part.log2 + 53) := by
          rw [← Nat.pow_add, ← Nat.pow_add]
          congr 1
          omega
      _ ≤ part * 2 ^ (whole.log2 - part.log2 + 53) := Nat.mul_le_mul_right _ least
  · rename_i high
    rw [if_neg high, max_eq_left (by omega), guessed]
    exact Nat.not_lt.1 high

theorem unit_exponent_le_unit_exponent {part more whole : Nat} (positive : part ≠ 0)
    (grows : part ≤ more) (bound : more ≤ whole) :
    unitExponent part whole ≤ unitExponent more whole := by
  have partBound := grows.trans bound
  have morePositive : more ≠ 0 := by omega
  by_contra larger
  rw [not_le] at larger
  have least : leastExponent ≤ unitExponent more whole := le_max_right _ _
  have digits := le_of_least_exponent_lt positive partBound (least.trans_lt larger)
  obtain ⟨small, few⟩ := unit_exponent_spec morePositive bound
  -- one unit further down the larger part would have a digit too many
  have further : (-unitExponent part whole).toNat + 1 ≤ (-unitExponent more whole).toNat := by
    have := (unit_exponent_spec positive partBound).1
    omega
  have shifted : whole * 2 ^ 53 ≤ more * 2 ^ (-unitExponent more whole).toNat := by
    calc whole * 2 ^ 53
        = whole * 2 ^ 52 * 2 := by rw [Nat.mul_assoc, ← Nat.pow_succ]
      _ ≤ part * 2 ^ (-unitExponent part whole).toNat * 2 := Nat.mul_le_mul_right _ digits
      _ ≤ more * 2 ^ (-unitExponent part whole).toNat * 2 :=
          Nat.mul_le_mul_right _ (Nat.mul_le_mul_right _ grows)
      _ = more * 2 ^ ((-unitExponent part whole).toNat + 1) := by
          rw [Nat.pow_succ, Nat.mul_assoc]
      _ ≤ more * 2 ^ (-unitExponent more whole).toNat :=
          Nat.mul_le_mul_left _ (Nat.pow_le_pow_right (by decide) further)
  exact absurd few (Nat.not_lt.2 shifted)

theorem scaled_le {low high rounded full unit : Nat} (places : low + 1 ≤ high)
    (digits : rounded ≤ 2 * unit) (top : unit ≤ full) :
    low * unit + rounded ≤ high * unit + full := by
  have scaled := Nat.mul_le_mul_right unit places
  rw [Nat.add_mul, Nat.one_mul] at scaled
  omega

theorem nearest_bits_le_nearest_bits {part more whole : Nat} (grows : part ≤ more)
    (bound : more ≤ whole) : nearestBits part whole ≤ nearestBits more whole := by
  by_cases empty : part = 0
  · rw [nearestBits, if_pos empty]
    exact Nat.zero_le _
  · have partBound := grows.trans bound
    have moreOccupied : more ≠ 0 := by omega
    obtain ⟨low, few⟩ := unit_exponent_spec empty partBound
    have moreLow := (unit_exponent_spec moreOccupied bound).1
    have least : leastExponent ≤ unitExponent part whole := le_max_right _ _
    rw [nearest_bits_eq empty rfl (by omega), nearest_bits_eq moreOccupied rfl (by omega)]
    rcases (unit_exponent_le_unit_exponent empty grows bound).eq_or_lt with same | above
    · rw [same]
      exact Nat.add_le_add_left
        (round_quotient_le_round_quotient (Nat.mul_le_mul_right _ grows)) _
    · have places : (unitExponent part whole - leastExponent).toNat + 1 ≤
          (unitExponent more whole - leastExponent).toNat := by
        clear few
        omega
      have digits := le_of_least_exponent_lt moreOccupied bound (least.trans_lt above)
      have positive : 0 < whole := Nat.pos_of_ne_zero fun zero => empty (by omega)
      refine scaled_le places ?_ ?_
      · exact (round_quotient_le_succ _ _).trans (Nat.div_lt_of_lt_mul few)
      · refine le_trans ?_ (le_round_quotient _ _)
        rw [Nat.le_div_iff_mul_le positive, Nat.mul_comm]
        exact digits

theorem nearest_bits_self {whole : Nat} (positive : whole ≠ 0) :
    nearestBits whole whole = 1023 * 2 ^ 52 := by
  have guess : (whole.log2 : Int) - (whole.log2 : Int) - 52 = -52 := by omega
  have unit : unitExponent whole whole = -52 := by
    have shifted : inUnits whole whole (-52) = (whole * 2 ^ 52, whole) :=
      in_units_of_nonpos (by decide)
    have same : Nat.pow 2 52 = 2 ^ 52 := rfl
    rw [unitExponent, guess, shifted]
    simp only [same, Nat.lt_irrefl, if_false]
    rfl
  rw [nearest_bits_eq positive unit (by decide)]
  have rounded : roundQuotient (whole * 2 ^ 52) whole = 2 ^ 52 := by
    have place : 0 < whole := Nat.pos_of_ne_zero positive
    rw [roundQuotient, Nat.mul_mod_right, Nat.mul_zero, if_pos place,
      Nat.mul_div_cancel_left _ place]
  exact (congrArg _ rounded).trans rfl

theorem quotient_le_quotient {part more whole : Int} (nonneg : 0 ≤ part) (grows : part ≤ more)
    (bound : more ≤ whole) {value other : Float} (divided : quotient? part whole = some value)
    (otherDivided : quotient? more whole = some other) : rank value ≤ rank other := by
  rw [quotient?_eq_some nonneg (grows.trans bound)] at divided
  rw [quotient?_eq_some (nonneg.trans grows) bound] at otherDivided
  cases divided
  cases otherDivided
  have moreSizes : more.natAbs ≤ whole.natAbs := by omega
  have sizes : part.natAbs ≤ more.natAbs := by omega
  rw [rank_ofBits (nearest_bits_lt_infinity_bits (sizes.trans moreSizes)),
    rank_ofBits (nearest_bits_lt_infinity_bits moreSizes)]
  exact Int.ofNat_le.2 (nearest_bits_le_nearest_bits sizes moreSizes)

theorem quotient?_self {whole : Int} (positive : 0 < whole) : quotient? whole whole = some 1.0 := by
  rw [quotient?_eq_some positive.le le_rfl, nearest_bits_self (by omega)]
  rfl

end LibraryDetection.Number

import LibraryDetection.Number.Binary64
import Mathlib.Algebra.Order.Group.Nat

/-!
# Quotients of a part by the whole

A whole number divided by one that is not smaller has a nearest float: the significand has
at most 53 binary digits, in units far below the infinities.
-/

namespace LibraryDetection.Number

set_option autoImplicit false

theorem log2_le_log2 {part whole : Nat} (positive : part ≠ 0) (bound : part ≤ whole) :
    part.log2 ≤ whole.log2 := by
  have nonzero : whole ≠ 0 := by omega
  apply (Nat.le_log2 nonzero).2
  exact (Nat.log2_self_le positive).trans bound

theorem mul_pow_lt {part whole : Nat} (positive : part ≠ 0) (bound : part ≤ whole) :
    part * 2 ^ (whole.log2 - part.log2 + 52) < whole * 2 ^ 53 := by
  have order := log2_le_log2 positive bound
  have nonzero : whole ≠ 0 := by omega
  have below : part < 2 ^ (part.log2 + 1) := Nat.lt_log2_self
  have above : 2 ^ whole.log2 ≤ whole := Nat.log2_self_le nonzero
  calc part * 2 ^ (whole.log2 - part.log2 + 52)
      < 2 ^ (part.log2 + 1) * 2 ^ (whole.log2 - part.log2 + 52) :=
        Nat.mul_lt_mul_of_pos_right below (Nat.two_pow_pos _)
    _ = 2 ^ whole.log2 * 2 ^ 53 := by
        rw [← Nat.pow_add, ← Nat.pow_add]
        congr 1
        omega
    _ ≤ whole * 2 ^ 53 := Nat.mul_le_mul_right _ above

theorem in_units_of_nonpos {numerator denominator : Nat} {exponent : Int}
    (small : exponent ≤ 0) :
    inUnits numerator denominator exponent =
      (numerator * 2 ^ (-exponent).toNat, denominator) := by
  rw [inUnits, if_pos small]
  rfl

theorem unit_exponent_spec {part whole : Nat} (positive : part ≠ 0) (bound : part ≤ whole) :
    unitExponent part whole ≤ -52 ∧
      part * 2 ^ (-unitExponent part whole).toNat < whole * 2 ^ 53 := by
  have order := log2_le_log2 positive bound
  have shifted := mul_pow_lt positive bound
  have guessed : (-((part.log2 : Int) - (whole.log2 : Int) - 52)).toNat =
      whole.log2 - part.log2 + 52 := by omega
  have small : (part.log2 : Int) - (whole.log2 : Int) - 52 ≤ 0 := by omega
  -- a smaller exponent in front of the least one keeps the digits within the bound
  have finish : ∀ exponent : Int, exponent ≤ -52 →
      part * 2 ^ (-exponent).toNat < whole * 2 ^ 53 →
        max exponent leastExponent ≤ -52 ∧
          part * 2 ^ (-(max exponent leastExponent)).toNat < whole * 2 ^ 53 := by
    intro exponent low digits
    have least : leastExponent ≤ -52 := by decide
    refine ⟨max_le low least, ?_⟩
    have fewer : (-(max exponent leastExponent)).toNat ≤ (-exponent).toNat := by
      have upper := le_max_left exponent leastExponent
      omega
    have powers : 2 ^ (-(max exponent leastExponent)).toNat ≤ 2 ^ (-exponent).toNat :=
      Nat.pow_le_pow_right (by decide) fewer
    exact (Nat.mul_le_mul_left part powers).trans_lt digits
  rw [unitExponent, in_units_of_nonpos small]
  simp only [guessed]
  split
  · rename_i low
    apply finish
    · omega
    · have next : (-((part.log2 : Int) - (whole.log2 : Int) - 52 - 1)).toNat =
          whole.log2 - part.log2 + 52 + 1 := by omega
      have unit : Nat.pow 2 52 = 2 ^ 52 := rfl
      rw [next, Nat.pow_succ]
      rw [unit] at low
      have double : (2 : Nat) ^ 53 = 2 ^ 52 * 2 := by decide
      rw [double, ← Nat.mul_assoc, ← Nat.mul_assoc]
      exact Nat.mul_lt_mul_of_pos_right low (by decide)
  · apply finish
    · omega
    · rw [guessed]
      exact shifted

theorem infinity_bits_eq : infinityBits = 2047 * 2 ^ 52 := rfl

theorem nearest_bits_eq {part whole : Nat} {exponent : Int} (positive : part ≠ 0)
    (chosen : unitExponent part whole = exponent) (small : exponent ≤ 0) :
    nearestBits part whole = (exponent - leastExponent).toNat * 2 ^ 52 +
      roundQuotient (part * 2 ^ (-exponent).toNat) whole := by
  unfold nearestBits
  have unit : Nat.pow 2 52 = 2 ^ 52 := rfl
  rw [if_neg positive, chosen, unit]
  -- the shifted part is hidden from the kernel, which would work it out
  obtain ⟨shifted, same⟩ : ∃ shifted, part * 2 ^ (-exponent).toNat = shifted := ⟨_, rfl⟩
  simp only [in_units_of_nonpos small, same]

theorem scaled_lt {place rounded : Nat} (low : place ≤ 1022) (digits : rounded ≤ 2 ^ 53) :
    place * 2 ^ 52 + rounded < 2047 * 2 ^ 52 := by
  have scaled := Nat.mul_le_mul_right (2 ^ 52) low
  have double : (2 : Nat) ^ 53 = 2 ^ 52 * 2 := Nat.pow_succ 2 52
  have positive : 0 < (2 : Nat) ^ 52 := Nat.two_pow_pos 52
  rw [double] at digits
  generalize (2 : Nat) ^ 52 = unit at *
  omega

theorem nearest_bits_lt_infinity_bits {part whole : Nat} (bound : part ≤ whole) :
    nearestBits part whole < infinityBits := by
  rw [infinity_bits_eq]
  by_cases empty : part = 0
  · rw [nearestBits, if_pos empty]
    exact Nat.mul_pos (by decide) (Nat.two_pow_pos 52)
  · obtain ⟨low, digits⟩ := unit_exponent_spec empty bound
    have rounded := round_quotient_le_succ (part * 2 ^ (-unitExponent part whole).toNat) whole
    have quotient := Nat.div_lt_of_lt_mul digits
    have place : (unitExponent part whole - leastExponent).toNat ≤ 1022 := by
      have least : leastExponent = -1074 := rfl
      omega
    rw [nearest_bits_eq empty rfl (by omega)]
    exact scaled_lt place (rounded.trans quotient)

theorem quotient?_eq_some {part whole : Int} (nonneg : 0 ≤ part) (bound : part ≤ whole) :
    quotient? part whole = some (ofBits false (nearestBits part.natAbs whole.natAbs)) := by
  have noSign : ((part < 0 : Bool) != (whole < 0 : Bool)) = false := by
    rw [decide_eq_false (Int.not_lt.2 nonneg), decide_eq_false (Int.not_lt.2 (nonneg.trans bound))]
    rfl
  have sizes : part.natAbs ≤ whole.natAbs := by omega
  rw [quotient?, noSign, if_pos (nearest_bits_lt_infinity_bits sizes)]

end LibraryDetection.Number

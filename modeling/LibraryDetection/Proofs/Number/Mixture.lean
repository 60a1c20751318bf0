import LibraryDetection.Proofs.Number.Order

/-!
# Mixtures of values

A mixture `(1.0 - weight) * one + weight * other` of unsigned values with a weight between
zero and one is ordered: nothing in it is negative, so that no infinities cancel.  At weight
zero it is the first value, bit for bit.
-/

namespace LibraryDetection.Number

set_option autoImplicit false

open Float.Model Float.Model.UnpackedFloat

theorem mantissa_shift_right (extended : ExtendedMantissa) (places : Nat) :
    (extended >>> places).mantissa = extended.mantissa / 2 ^ places := by
  induction places with
  | zero => exact (Nat.div_one _).symm
  | succ places ih =>
      change (extended >>> places).mantissa / 2 = _
      rw [ih, Nat.div_div_eq_div_mul, Nat.pow_succ]

theorem rounded_mantissa_le (extended : ExtendedMantissa) :
    extended.roundedMantissa ≤ extended.mantissa + 1 := by
  obtain ⟨mantissa, roundBit, stickyBit⟩ := extended
  have parity := Nat.mod_lt mantissa (by decide : 0 < 2)
  cases roundBit <;> cases stickyBit
  · exact Nat.le_succ mantissa
  · exact Nat.le_succ mantissa
  · change mantissa + mantissa % 2 ≤ mantissa + 1
    omega
  · exact Nat.le_refl _

theorem target_exponent_eq (mantissa : Nat) (exponent : Int) :
    Format.binary64.targetExponent (totalExponent mantissa exponent) =
      max (mantissa.log2 + exponent - 52) leastExponent := by
  change max ((mantissa.log2 : Int) + 1 + exponent - 53) (-1074) = _
  rw [leastExponent]
  congr 1
  omega

theorem shift_to_target_exponent_spec (mantissa : Nat) (exponent : Int) :
    (shiftToTargetExponent Format.binary64 mantissa exponent .exact).2 =
        max exponent (max (mantissa.log2 + exponent - 52) leastExponent) ∧
      (shiftToTargetExponent Format.binary64 mantissa exponent .exact).1.mantissa < 2 ^ 53 := by
  obtain ⟨target, chosen⟩ : ∃ target, max (mantissa.log2 + exponent - 52) leastExponent = target :=
    ⟨_, rfl⟩
  have shifted : shiftToTargetExponent Format.binary64 mantissa exponent .exact =
      ((⟨mantissa, false, false⟩ : ExtendedMantissa) >>> (target - exponent).toNat,
        exponent + (target - exponent).toNat) := by
    rw [shiftToTargetExponent, target_exponent_eq, chosen]
    rfl
  rw [shifted, chosen, mantissa_shift_right]
  constructor
  · change exponent + (target - exponent).toNat = max exponent target
    omega
  · apply Nat.div_lt_of_lt_mul
    rw [← Nat.pow_add]
    have below : mantissa < 2 ^ (mantissa.log2 + 1) := Nat.lt_log2_self
    refine below.trans_le (Nat.pow_le_pow_right (by decide) ?_)
    omega

theorem log2_le_of_le_pow {number power : Nat} (bound : number ≤ 2 ^ power) :
    number.log2 ≤ power := by
  by_cases zero : number = 0
  · rw [zero]
    exact Nat.zero_le power
  · have below := bound.trans_lt (Nat.pow_lt_pow_right (by decide) (Nat.lt_succ_self power))
    exact Nat.lt_succ_iff.1 ((Nat.log2_lt zero).2 below)

theorem exists_round_with_accuracy (sign : Sign) (mantissa : Nat) (exponent : Int) :
    roundWithAccuracy Format.binary64 sign mantissa exponent .exact = .zero sign ∨
      ∃ rounded unit positive,
        unit ≤ max exponent (max (mantissa.log2 + exponent - 52) leastExponent) + 1 ∧
        roundWithAccuracy Format.binary64 sign mantissa exponent .exact =
          .finite sign rounded unit positive := by
  obtain ⟨unit, digits⟩ := shift_to_target_exponent_spec mantissa exponent
  unfold roundWithAccuracy
  dsimp only
  generalize shiftToTargetExponent Format.binary64 mantissa exponent .exact = shifted at *
  obtain ⟨first, firstUnit⟩ := shifted
  have rounded := rounded_mantissa_le first
  dsimp only at unit digits ⊢
  have carried := (shift_to_target_exponent_spec first.roundedMantissa firstUnit).1
  have width : first.roundedMantissa.log2 ≤ 53 := log2_le_of_le_pow (by omega)
  generalize shiftToTargetExponent Format.binary64 first.roundedMantissa firstUnit .exact = again
    at carried ⊢
  by_cases nothing : again.1.mantissa = 0
  · exact .inl (dif_pos nothing)
  · refine .inr ⟨_, _, Nat.pos_of_ne_zero nothing, ?_, dif_neg nothing⟩
    rw [carried]
    omega

def NonNegative : UnpackedFloat → Prop
  | .notANumber => False
  | .infinity sign => sign = .positive
  | .zero _ => True
  | .finite sign _ _ _ => sign = .positive

def Bounded : UnpackedFloat → Prop
  | .zero _ => True
  | .finite sign _ exponent _ => sign = .positive ∧ exponent ≤ 971
  | _ => False

theorem Bounded.non_negative {value : UnpackedFloat} (bounded : Bounded value) :
    NonNegative value := by
  cases value with
  | notANumber => exact bounded
  | infinity sign => exact bounded.elim
  | zero sign => trivial
  | finite sign mantissa exponent positive => exact bounded.1

theorem bounded_unpack_pack {value : UnpackedFloat} (bounded : Bounded value) :
    Bounded (UnpackedFloat.unpack Format.binary64 (UnpackedFloat.pack Format.binary64 value)) := by
  cases value with
  | notANumber => exact bounded.elim
  | infinity sign => exact bounded.elim
  | zero sign => cases sign <;> trivial
  | finite sign mantissa exponent positive =>
      obtain ⟨rfl, small⟩ := bounded
      obtain ⟨field, finite, fraction, packed⟩ :=
        exists_pack_finite positive (by omega : (exponent + 1023 + 52).toNat < 2047)
      have below : (@unpackExponent Format.binary64
          (packComponents Format.binary64 .positive field fraction)).toNat < 2047 := by
        rw [unpackExponent_packComponents]
        have bound := field.isLt
        have different : field.toNat ≠ 2047 := fun same => finite (BitVec.eq_of_toNat_eq same)
        omega
      rw [packed]
      rcases unpack_of_positive (unpack_sign_pack_components field fraction) below with
        zero | ⟨_, _, _, unit, same⟩
      · rw [zero]
        trivial
      · rw [same]
        exact ⟨rfl, by omega⟩

theorem non_negative_unpack_pack {value : UnpackedFloat} (nonNegative : NonNegative value) :
    NonNegative
      (UnpackedFloat.unpack Format.binary64 (UnpackedFloat.pack Format.binary64 value)) := by
  cases value with
  | notANumber => exact nonNegative.elim
  | infinity sign =>
      cases nonNegative
      rfl
  | zero sign => cases sign <;> trivial
  | finite sign mantissa exponent positive =>
      cases nonNegative
      by_cases small : exponent ≤ 971
      · have bounded : Bounded (.finite .positive mantissa exponent positive) := ⟨rfl, small⟩
        exact (bounded_unpack_pack bounded).non_negative
      · have large : 2 ^ Format.binary64.exponentBits ≤ (exponent + Format.binary64.exponentBias +
            Format.binary64.mantissaBitsWithoutImplicit).toNat + 1 := by
          change 2048 ≤ (exponent + 1023 + 52).toNat + 1
          omega
        unfold UnpackedFloat.pack
        simp only [if_pos large]
        rfl

theorem non_negative_round_with_accuracy (mantissa : Nat) (exponent : Int) :
    NonNegative (roundWithAccuracy Format.binary64 .positive mantissa exponent .exact) := by
  rcases exists_round_with_accuracy .positive mantissa exponent with zero | ⟨_, _, _, _, same⟩
  · rw [zero]
    trivial
  · rw [same]
    rfl

theorem non_negative_normalize {mantissa : Int} (nonneg : 0 ≤ mantissa) (exponent : Int) :
    NonNegative (UnpackedFloat.normalize Format.binary64 mantissa exponent .positive) := by
  rw [UnpackedFloat.normalize]
  split
  · rename_i less
    have := compare_lt_iff_lt.1 less
    omega
  · trivial
  · exact non_negative_round_with_accuracy _ _

theorem non_negative_mul {left right : UnpackedFloat} (leftBounded : Bounded left)
    (rightBounded : Bounded right) :
    NonNegative (UnpackedFloat.mul Format.binary64 left right) := by
  cases left with
  | notANumber => exact leftBounded.elim
  | infinity sign => exact leftBounded.elim
  | zero sign =>
      cases right with
      | notANumber => exact rightBounded.elim
      | infinity other => exact rightBounded.elim
      | zero other => trivial
      | finite other mantissa exponent positive => trivial
  | finite sign mantissa exponent positive =>
      cases right with
      | notANumber => exact rightBounded.elim
      | infinity other => exact rightBounded.elim
      | zero other => trivial
      | finite other otherMantissa otherExponent otherPositive =>
          obtain ⟨rfl, _⟩ := leftBounded
          obtain ⟨rfl, _⟩ := rightBounded
          exact non_negative_round_with_accuracy _ _

theorem non_negative_add {left right : UnpackedFloat} (leftNonNegative : NonNegative left)
    (rightNonNegative : NonNegative right) :
    NonNegative (UnpackedFloat.add Format.binary64 left right) := by
  cases left with
  | notANumber => exact leftNonNegative.elim
  | infinity sign =>
      cases leftNonNegative
      cases right with
      | notANumber => exact rightNonNegative.elim
      | infinity other =>
          cases rightNonNegative
          rfl
      | zero other => rfl
      | finite other mantissa exponent positive => rfl
  | zero sign =>
      cases right with
      | notANumber => exact rightNonNegative.elim
      | infinity other => exact rightNonNegative
      | zero other => cases sign <;> cases other <;> trivial
      | finite other mantissa exponent positive => exact rightNonNegative
  | finite sign mantissa exponent positive =>
      cases leftNonNegative
      cases right with
      | notANumber => exact rightNonNegative.elim
      | infinity other => exact rightNonNegative
      | zero other => rfl
      | finite other otherMantissa otherExponent otherPositive =>
          cases rightNonNegative
          exact non_negative_normalize (Int.add_nonneg (Int.natCast_nonneg _)
            (Int.natCast_nonneg _)) _

theorem bounded_round {mantissa : Nat} {unit : Int} (small : unit ≤ 0)
    (most : mantissa ≤ 2 ^ (-unit).toNat) :
    Bounded (UnpackedFloat.round Format.binary64 .positive mantissa unit) := by
  have least : leastExponent = -1074 := rfl
  rw [UnpackedFloat.round, target_exponent_eq]
  obtain ⟨places, shift⟩ : ∃ places : Nat,
      (unit - max (mantissa.log2 + unit - 52) leastExponent).toNat = places := ⟨_, rfl⟩
  have shifted : mantissa <<< places ≤ 2 ^ ((-unit).toNat + places) := by
    rw [Nat.shiftLeft_eq, Nat.pow_add]
    exact Nat.mul_le_mul_right _ most
  have width := log2_le_of_le_pow shifted
  simp only [decreaseExponent, shift]
  rcases exists_round_with_accuracy .positive (mantissa <<< places) (unit - places) with
    zero | ⟨_, _, _, bound, same⟩
  · rw [zero]
    trivial
  · rw [same]
    exact ⟨rfl, by omega⟩

theorem bounded_normalize {mantissa unit : Int} (nonneg : 0 ≤ mantissa) (small : unit ≤ 0)
    (most : mantissa ≤ 2 ^ (-unit).toNat) :
    Bounded (UnpackedFloat.normalize Format.binary64 mantissa unit .positive) := by
  rw [UnpackedFloat.normalize]
  split
  · rename_i less
    have := compare_lt_iff_lt.1 less
    omega
  · trivial
  · obtain ⟨digits, rfl⟩ := Int.eq_ofNat_of_zero_le nonneg
    exact bounded_round small (by exact_mod_cast most)

theorem unpack_one : (1.0 : Float).toModel.unpack = .finite .positive (2 ^ 52) (-52) (by decide) :=
  rfl

theorem rank_one : rank 1.0 = 1023 * 2 ^ 52 := rfl

theorem cases_of_unit {value : Float} (least : 0.0 ≤ value) (most : value ≤ 1.0) :
    (∃ sign, value.toModel.unpack = .zero sign) ∨
      ∃ mantissa exponent positive, exponent ≤ -52 ∧ mantissa ≤ 2 ^ (-exponent).toNat ∧
        value.toModel.unpack = .finite .positive mantissa exponent positive := by
  have ordered := (ordered_of_le least).2
  have canonical := canonical_unpack value.toModel.toBits.toBitVec
  have lower : 0 ≤ rank value := (le_iff_rank_le (ordered_of_le least).1 ordered).1 least
  have upper := (le_iff_rank_le ordered (ordered_of_le most).2).1 most
  have infinite : (1023 * 2 ^ 52 : Int) < infinityBits := by decide
  have lowest : leastExponent = -1074 := rfl
  rw [rank_one] at upper
  change Canonical value.toModel.unpack at canonical
  rw [rank] at lower upper
  rw [Ordered] at ordered
  generalize value.toModel.unpack = found at *
  cases found with
  | notANumber => exact absurd rfl ordered
  | infinity sign =>
      cases sign
      · change (0 : Int) ≤ -infinityBits at lower
        omega
      · change (infinityBits : Int) ≤ _ at upper
        omega
  | zero sign => exact .inl ⟨sign, rfl⟩
  | finite sign mantissa exponent positive =>
      obtain ⟨low, high, digits, full⟩ := canonical
      have above := magnitude_pos low positive
      cases sign
      · rw [place_negative] at lower
        omega
      · rw [place_positive, magnitude] at upper
        have small : exponent ≤ -52 := by omega
        refine .inr ⟨mantissa, exponent, positive, small, ?_, rfl⟩
        rcases small.eq_or_lt with rfl | smaller
        · have digits : mantissa ≤ 2 ^ 52 := by omega
          exact digits
        · exact digits.le.trans (Nat.pow_le_pow_right (by decide) (by omega))

theorem bounded_one_sub {weight : Float} (least : 0.0 ≤ weight) (most : weight ≤ 1.0) :
    Bounded (UnpackedFloat.sub Format.binary64 (1.0 : Float).toModel.unpack
      weight.toModel.unpack) := by
  rw [unpack_one]
  rcases cases_of_unit least most with ⟨sign, zero⟩ | ⟨mantissa, exponent, positive, small, digits,
    same⟩
  · rw [zero]
    exact ⟨rfl, by decide⟩
  · rw [same]
    have units : min (-52) exponent = exponent := min_eq_right small
    obtain ⟨places, shift⟩ : ∃ places : Nat, (-52 - exponent).toNat = places := ⟨_, rfl⟩
    have whole : (2 ^ 52) <<< places = 2 ^ (-exponent).toNat := by
      rw [Nat.shiftLeft_eq, ← Nat.pow_add]
      congr 1
      omega
    have unfolded : UnpackedFloat.sub Format.binary64
        (.finite .positive (2 ^ 52) (-52) (by decide))
        (.finite .positive mantissa exponent positive) =
          UnpackedFloat.normalize Format.binary64
            (((2 ^ (-exponent).toNat : Nat) : Int) - (mantissa : Int)) exponent .positive := by
      rw [← whole, ← shift]
      unfold UnpackedFloat.sub
      simp only [units, decreaseExponent, Int.sub_self, Int.toNat_zero, Nat.shiftLeft_zero]
      rfl
    rw [unfolded]
    exact bounded_normalize (by omega) (by omega) (by push_cast; omega)

theorem Unsigned.bounded {value : Float} (unsigned : Unsigned value) :
    Bounded value.toModel.unpack := by
  have canonical := canonical_unpack value.toModel.toBits.toBitVec
  change Canonical value.toModel.unpack at canonical
  rcases unsigned with zero | ⟨_, _, _, finite⟩
  · rw [zero]
    trivial
  · rw [finite] at canonical ⊢
    exact ⟨rfl, canonical.2.1⟩

theorem ordered_mixture {weight one other : Float} (least : 0.0 ≤ weight) (most : weight ≤ 1.0)
    (oneUnsigned : Unsigned one) (otherUnsigned : Unsigned other) :
    Ordered ((1.0 - weight) * one + weight * other) := by
  have share : Bounded weight.toModel.unpack := by
    rcases cases_of_unit least most with ⟨sign, zero⟩ | ⟨_, _, _, small, _, same⟩
    · rw [zero]
      trivial
    · rw [same]
      exact ⟨rfl, by omega⟩
  have remaining : Bounded (1.0 - weight).toModel.unpack :=
    bounded_unpack_pack (bounded_one_sub least most)
  have first : NonNegative ((1.0 - weight) * one).toModel.unpack :=
    non_negative_unpack_pack (non_negative_mul remaining oneUnsigned.bounded)
  have second : NonNegative (weight * other).toModel.unpack :=
    non_negative_unpack_pack (non_negative_mul share otherUnsigned.bounded)
  have sum : NonNegative ((1.0 - weight) * one + weight * other).toModel.unpack :=
    non_negative_unpack_pack (non_negative_add first second)
  intro notNumber
  rw [notNumber] at sum
  exact sum

theorem one_sub_of_zero {weight : Float} (zero : (weight == 0.0) = true) :
    1.0 - weight = 1.0 := by
  obtain ⟨sign, isZero⟩ := exists_zero_of_beq zero
  have unfolded : 1.0 - weight = .ofModel (pack (UnpackedFloat.sub .binary64
      (1.0 : Float).toModel.unpack weight.toModel.unpack)) := rfl
  rw [unfolded, isZero]
  rfl

theorem shift_right_exact (mantissa places : Nat) :
    ((⟨2 ^ places * mantissa, false, false⟩ : ExtendedMantissa) >>> places) =
      ⟨mantissa, false, false⟩ := by
  induction places generalizing mantissa with
  | zero =>
      change (⟨1 * mantissa, false, false⟩ : ExtendedMantissa) = _
      rw [Nat.one_mul]
  | succ places ih =>
      have shifted := ih (2 * mantissa)
      rw [← Nat.mul_assoc, ← Nat.pow_succ] at shifted
      change ((⟨2 ^ (places + 1) * mantissa, false, false⟩ : ExtendedMantissa) >>>
        places).shiftRightOne = _
      rw [shifted, ExtendedMantissa.shiftRightOne, Nat.mul_div_cancel_left _ (by decide),
        Nat.mul_mod_right]
      rfl

theorem log2_pow_mul {mantissa : Nat} (positive : 0 < mantissa) (power : Nat) :
    (2 ^ power * mantissa).log2 = power + mantissa.log2 := by
  induction power with
  | zero => rw [Nat.pow_zero, Nat.one_mul, Nat.zero_add]
  | succ power ih =>
      rw [Nat.pow_succ, Nat.mul_comm _ 2, Nat.mul_assoc,
        Nat.log2_two_mul (Nat.mul_pos (Nat.two_pow_pos power) positive).ne', ih]
      omega

theorem target_exponent_of_canonical {mantissa : Nat} {exponent : Int} {positive : 0 < mantissa}
    (canonical : Canonical (.finite .positive mantissa exponent positive)) :
    max (mantissa.log2 + exponent - 52) leastExponent = exponent := by
  obtain ⟨low, _, digits, full⟩ := canonical
  have below := (Nat.log2_lt positive.ne').2 digits
  rcases full with least | full
  · omega
  · have above := (Nat.le_log2 positive.ne').2 full
    omega

theorem round_with_accuracy_exact {mantissa : Nat} {exponent : Int} {positive : 0 < mantissa}
    (canonical : Canonical (.finite .positive mantissa exponent positive)) :
    roundWithAccuracy Format.binary64 .positive (2 ^ 52 * mantissa) (-52 + exponent) .exact =
      .finite .positive mantissa exponent positive := by
  have place := target_exponent_of_canonical canonical
  have wide : max (((2 ^ 52 * mantissa).log2 : Int) + (-52 + exponent) - 52) leastExponent =
      exponent := by
    rw [log2_pow_mul positive]
    omega
  have first : shiftToTargetExponent Format.binary64 (2 ^ 52 * mantissa) (-52 + exponent) .exact =
      (⟨mantissa, false, false⟩, exponent) := by
    rw [shiftToTargetExponent, target_exponent_eq, wide, shiftToExponent]
    have places : (exponent - (-52 + exponent)).toNat = 52 := by omega
    have back : -52 + exponent + ((52 : Nat) : Int) = exponent := by omega
    simp only [places, back, ExtendedMantissa.ofMantissaAndAccuracy, shift_right_exact]
  have second : shiftToTargetExponent Format.binary64 mantissa exponent .exact =
      (⟨mantissa, false, false⟩, exponent) := by
    rw [shiftToTargetExponent, target_exponent_eq, place, shiftToExponent]
    have places : (exponent - exponent).toNat = 0 := by omega
    have back : exponent + ((0 : Nat) : Int) = exponent := by omega
    simp only [places, back, ExtendedMantissa.ofMantissaAndAccuracy]
    rfl
  have rounded : (⟨mantissa, false, false⟩ : ExtendedMantissa).roundedMantissa = mantissa := rfl
  unfold roundWithAccuracy
  dsimp only
  generalize shiftToTargetExponent Format.binary64 (2 ^ 52 * mantissa) (-52 + exponent) .exact =
    shifted at first ⊢
  subst first
  rw [rounded]
  generalize shiftToTargetExponent Format.binary64 mantissa exponent .exact = again at second ⊢
  subst second
  exact dif_neg positive.ne'

theorem one_mul_ofBits {bits : Nat} (bound : bits < infinityBits) :
    1.0 * ofBits false bits = ofBits false bits := by
  have canonical := canonical_unpack (BitVec.ofNat 64 bits)
  have product : UnpackedFloat.mul Format.binary64 (1.0 : Float).toModel.unpack
      (UnpackedFloat.unpack Format.binary64 (BitVec.ofNat 64 bits)) =
        UnpackedFloat.unpack Format.binary64 (BitVec.ofNat 64 bits) := by
    rw [unpack_one]
    rcases unpack_of_positive (unpack_sign_eq bound) (unpack_exponent_lt bound) with
      zero | ⟨mantissa, exponent, positive, _, same⟩
    · rw [zero]
      rfl
    · rw [same] at canonical ⊢
      exact round_with_accuracy_exact canonical
  have unfolded : 1.0 * ofBits false bits = .ofModel (pack (UnpackedFloat.mul .binary64
      (1.0 : Float).toModel.unpack (ofBits false bits).toModel.unpack)) := rfl
  rw [unfolded, unpack_ofBits bound, product]
  rfl

theorem ofBits_add_zero {bits : Nat} (bound : bits < infinityBits) {zero : Float}
    {sign : UnpackedFloat.Sign} (isZero : zero.toModel.unpack = .zero sign) :
    ofBits false bits + zero = ofBits false bits := by
  have sum : UnpackedFloat.add Format.binary64
      (UnpackedFloat.unpack Format.binary64 (BitVec.ofNat 64 bits)) (.zero sign) =
        UnpackedFloat.unpack Format.binary64 (BitVec.ofNat 64 bits) := by
    rcases unpack_of_positive (unpack_sign_eq bound) (unpack_exponent_lt bound) with
      nothing | ⟨mantissa, exponent, positive, _, same⟩
    · rw [nothing]
      cases sign <;> rfl
    · rw [same]
      rfl
  have unfolded : ofBits false bits + zero = .ofModel (pack (UnpackedFloat.add .binary64
      (ofBits false bits).toModel.unpack zero.toModel.unpack)) := rfl
  rw [unfolded, unpack_ofBits bound, isZero, sum]
  rfl

theorem unpack_mul_of_zero {weight value : Float} (zero : (weight == 0.0) = true)
    (unsigned : Unsigned value) : ∃ sign, (weight * value).toModel.unpack = .zero sign := by
  obtain ⟨sign, isZero⟩ := exists_zero_of_beq zero
  rw [mul_of_zero isZero unsigned]
  cases sign
  · exact ⟨.negative, rfl⟩
  · exact ⟨.positive, rfl⟩

theorem mixture_of_zero {weight other : Float} (zero : (weight == 0.0) = true) {bits : Nat}
    (bound : bits < infinityBits) (unsigned : Unsigned other) :
    (1.0 - weight) * ofBits false bits + weight * other = ofBits false bits := by
  obtain ⟨sign, isZero⟩ := unpack_mul_of_zero zero unsigned
  rw [one_sub_of_zero zero, one_mul_ofBits bound, ofBits_add_zero bound isZero]

end LibraryDetection.Number

import LibraryDetection.Proofs.Number.Quotient

/-!
# Unsigned values

Quotients of counts are finite and have no sign, so that a weight of zero, whatever its own
sign, takes all of them to the same product.
-/

namespace LibraryDetection.Number

set_option autoImplicit false

open Float.Model Float.Model.UnpackedFloat

def Unsigned (value : Float) : Prop :=
  value.toModel.unpack = .zero .positive ∨
    ∃ mantissa exponent positive,
      value.toModel.unpack = .finite .positive mantissa exponent positive

theorem unpack_zero : (0.0 : Float).toModel.unpack = .zero .positive := rfl

theorem exists_zero_of_beq {value : Float} (zero : (value == 0.0) = true) :
    ∃ sign, value.toModel.unpack = .zero sign := by
  have compared : value.toModel.unpack.compare (0.0 : Float).toModel.unpack = some .eq :=
    eq_of_beq zero
  rw [unpack_zero] at compared
  generalize value.toModel.unpack = found at compared
  cases found with
  | zero sign => exact ⟨sign, rfl⟩
  | notANumber => cases compared
  | infinity sign => cases sign <;> cases compared
  | finite sign => cases sign <;> cases compared

theorem mul_of_zero {weight value : Float} {sign : UnpackedFloat.Sign}
    (isZero : weight.toModel.unpack = .zero sign) (unsigned : Unsigned value) :
    weight * value = .ofModel (pack (.zero (sign * .positive))) := by
  have unfolded : weight * value =
      .ofModel (pack (UnpackedFloat.mul .binary64 weight.toModel.unpack
        value.toModel.unpack)) := rfl
  rw [unfolded, isZero]
  rcases unsigned with same | ⟨mantissa, exponent, positive, same⟩
  · rw [same]
    rfl
  · rw [same]
    rfl

theorem mul_eq_of_zero {weight left right : Float} (zero : (weight == 0.0) = true)
    (leftUnsigned : Unsigned left) (rightUnsigned : Unsigned right) :
    weight * left = weight * right := by
  obtain ⟨sign, isZero⟩ := exists_zero_of_beq zero
  rw [mul_of_zero isZero leftUnsigned, mul_of_zero isZero rightUnsigned]

theorem unpack_exponent_lt {bits : Nat} (bound : bits < infinityBits) :
    (@unpackExponent Format.binary64 (BitVec.ofNat 64 bits)).toNat < 2047 := by
  rw [infinity_bits_eq] at bound
  change (BitVec.extractLsb 62 52 (BitVec.ofNat 64 bits)).toNat < 2047
  rw [BitVec.extractLsb_toNat, BitVec.toNat_ofNat, Nat.shiftRight_eq_div_pow]
  omega

theorem unpack_sign_eq {bits : Nat} (bound : bits < infinityBits) :
    @unpackSign Format.binary64 (BitVec.ofNat 64 bits) = 0#1 := by
  rw [infinity_bits_eq] at bound
  apply BitVec.eq_of_toNat_eq
  change (BitVec.extractLsb 63 63 (BitVec.ofNat 64 bits)).toNat = 0
  rw [BitVec.extractLsb_toNat, BitVec.toNat_ofNat, Nat.shiftRight_eq_div_pow]
  omega

theorem unpack_sign_pack_components (exponent : BitVec 11) (mantissa : BitVec 52) :
    @unpackSign Format.binary64
      (packComponents Format.binary64 .positive exponent mantissa) = 0#1 := by
  change (0#1 ++ exponent ++ mantissa).extractLsb' 63 1 = 0#1
  rw [BitVec.extractLsb'_append_eq_of_le (by decide),
    BitVec.extractLsb'_append_eq_of_le (by decide)]
  rfl

theorem unpack_of_positive {word : BitVec 64}
    (sign : @unpackSign Format.binary64 word = 0#1)
    (small : (@unpackExponent Format.binary64 word).toNat < 2047) :
    UnpackedFloat.unpack Format.binary64 word = .zero .positive ∨
      ∃ mantissa exponent positive, (exponent + 1023 + 52).toNat < 2047 ∧
        UnpackedFloat.unpack Format.binary64 word =
          .finite .positive mantissa exponent positive := by
  have positive : Sign.ofBitVec (@unpackSign Format.binary64 word) = .positive := by
    rw [sign]
    rfl
  have bias : (Format.binary64.exponentBias : Int) +
      Format.binary64.mantissaBitsWithoutImplicit = 1075 := rfl
  generalize result : UnpackedFloat.unpack Format.binary64 word = found
  unfold UnpackedFloat.unpack at result
  dsimp only at result
  rw [positive] at result
  generalize @unpackExponent Format.binary64 word = field at small result
  have finite : field ≠ -1#11 := by
    rintro rfl
    exact absurd small (by decide)
  rw [if_neg finite] at result
  by_cases least : field = 0#11
  · rw [if_pos least] at result
    by_cases nothing : @unpackMantissa Format.binary64 word = 0#52
    · rw [dif_pos nothing] at result
      exact .inl result.symm
    · rw [dif_neg nothing] at result
      refine .inr ⟨_, _, _, ?_, result.symm⟩
      rw [least, bias]
      decide
  · rw [if_neg least] at result
    refine .inr ⟨_, _, _, ?_, result.symm⟩
    rw [bias]
    omega

/-- A word is that of an unsigned value when its sign is positive and its exponent not that
of infinity. -/
theorem unsigned_of_pack_components {exponent : BitVec 11} (finite : exponent ≠ -1#11)
    (mantissa : BitVec 52) {value : Float}
    (bits : value.toModel.toBits.toBitVec =
      packComponents Format.binary64 .positive exponent mantissa) : Unsigned value := by
  have unfolded : value.toModel.unpack =
      UnpackedFloat.unpack Format.binary64 value.toModel.toBits.toBitVec := rfl
  have small : (@unpackExponent Format.binary64
      (packComponents Format.binary64 .positive exponent mantissa)).toNat < 2047 := by
    rw [unpackExponent_packComponents]
    have bound := exponent.isLt
    have different : exponent.toNat ≠ 2047 := fun same => finite (BitVec.eq_of_toNat_eq same)
    omega
  rw [Unsigned, unfolded, bits]
  rcases unpack_of_positive (unpack_sign_pack_components exponent mantissa) small with
    zero | ⟨_, _, positive, _, same⟩
  · exact .inl zero
  · exact .inr ⟨_, _, positive, same⟩

theorem ofNat_ne_neg_one {exponent : Nat} (bound : exponent < 2047) :
    BitVec.ofNat 11 exponent ≠ -1#11 := by
  intro same
  have values := congrArg BitVec.toNat same
  rw [BitVec.toNat_ofNat] at values
  have all : (-1#11).toNat = 2047 := rfl
  omega

theorem exists_pack_finite {mantissa : Nat} {exponent : Int} (positive : 0 < mantissa)
    (bound : (exponent + 1023 + 52).toNat < 2047) :
    ∃ field : BitVec 11, field ≠ -1#11 ∧ ∃ fraction,
      UnpackedFloat.pack Format.binary64 (.finite .positive mantissa exponent positive) =
        packComponents Format.binary64 .positive field fraction := by
  have small : ¬ 2 ^ Format.binary64.exponentBits ≤ (exponent + Format.binary64.exponentBias +
      Format.binary64.mantissaBitsWithoutImplicit).toNat + 1 := by
    change ¬ 2048 ≤ (exponent + 1023 + 52).toNat + 1
    omega
  unfold UnpackedFloat.pack
  simp only [if_neg small]
  split
  · exact ⟨_, ofNat_ne_neg_one bound, _, rfl⟩
  · exact ⟨0#11, by decide, _, rfl⟩

theorem exists_pack_unpack {bits : Nat} (bound : bits < infinityBits) :
    ∃ field : BitVec 11, field ≠ -1#11 ∧ ∃ fraction,
      UnpackedFloat.pack Format.binary64
          (UnpackedFloat.unpack Format.binary64 (BitVec.ofNat 64 bits)) =
        packComponents Format.binary64 .positive field fraction := by
  rcases unpack_of_positive (unpack_sign_eq bound) (unpack_exponent_lt bound) with
    zero | ⟨_, _, positive, small, same⟩
  · rw [zero]
    exact ⟨0#11, by decide, 0, rfl⟩
  · rw [same]
    exact exists_pack_finite positive small

theorem unsigned_ofBits {bits : Nat} (bound : bits < infinityBits) :
    Unsigned (ofBits false bits) := by
  obtain ⟨field, finite, fraction, packed⟩ := exists_pack_unpack bound
  exact unsigned_of_pack_components finite fraction packed

theorem unsigned_of_quotient? {part whole : Int} (nonneg : 0 ≤ part) (positive : 0 ≤ whole)
    {value : Float} (divided : quotient? part whole = some value) : Unsigned value := by
  have noSign : ((part < 0 : Bool) != (whole < 0 : Bool)) = false := by
    rw [decide_eq_false (not_lt.2 nonneg), decide_eq_false (not_lt.2 positive)]
    rfl
  rw [quotient?, noSign] at divided
  split at divided
  · rename_i bound
    exact Option.some.inj divided ▸ unsigned_ofBits bound
  · cases divided

end LibraryDetection.Number

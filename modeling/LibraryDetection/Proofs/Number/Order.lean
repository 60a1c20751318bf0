import LibraryDetection.Proofs.Number.Unsigned
import Mathlib.Algebra.Group.Int.Defs

/-!
# The order of values

The values that are numbers, the infinities among them, are ordered as whole numbers are:
each has a place, which for an unsigned value is its bit pattern.  The two zeros share one.
-/

namespace LibraryDetection.Number

set_option autoImplicit false

open Float.Model Float.Model.UnpackedFloat

def Canonical : UnpackedFloat → Prop
  | .finite _ mantissa exponent _ =>
      leastExponent ≤ exponent ∧ exponent ≤ 971 ∧ mantissa < 2 ^ 53 ∧
        (exponent = leastExponent ∨ 2 ^ 52 ≤ mantissa)
  | _ => True

def magnitude (mantissa : Nat) (exponent : Int) : Int :=
  (exponent - leastExponent) * 2 ^ 52 + mantissa

def place : UnpackedFloat → Int
  | .infinity .positive => infinityBits
  | .infinity .negative => -infinityBits
  | .notANumber => 0
  | .zero _ => 0
  | .finite .positive mantissa exponent _ => magnitude mantissa exponent
  | .finite .negative mantissa exponent _ => -magnitude mantissa exponent

theorem place_zero (sign : Sign) : place (.zero sign) = 0 := rfl

section Finite

variable {mantissa : Nat} (exponent : Int) (positive : 0 < mantissa)

theorem place_positive :
    place (.finite .positive mantissa exponent positive) = magnitude mantissa exponent := rfl

theorem place_negative :
    place (.finite .negative mantissa exponent positive) = -magnitude mantissa exponent := rfl

end Finite

theorem toNat_implicit (fraction : BitVec 52) :
    (1#1 ++ fraction).toNat = 2 ^ 52 + fraction.toNat := by
  rw [BitVec.toNat_append, ← Nat.shiftLeft_add_eq_or_of_lt fraction.isLt, Nat.shiftLeft_eq]
  rfl

theorem canonical_unpack (word : BitVec 64) :
    Canonical (UnpackedFloat.unpack Format.binary64 word) := by
  have bias : (Format.binary64.exponentBias : Int) +
      Format.binary64.mantissaBitsWithoutImplicit = 1075 := rfl
  have least : leastExponent = -1074 := rfl
  have digits : (@unpackMantissa Format.binary64 word).toNat < 2 ^ 52 := BitVec.isLt _
  have width : (@unpackExponent Format.binary64 word).toNat < 2 ^ 11 := BitVec.isLt _
  unfold UnpackedFloat.unpack
  dsimp only
  rw [bias]
  by_cases full : @unpackExponent Format.binary64 word = -1#11
  · rw [if_pos full]
    split <;> trivial
  · have below : (@unpackExponent Format.binary64 word).toNat ≠ 2047 :=
      fun same => full (BitVec.eq_of_toNat_eq same)
    rw [if_neg full]
    by_cases zeros : @unpackExponent Format.binary64 word = 0#11
    · rw [if_pos zeros]
      by_cases nothing : @unpackMantissa Format.binary64 word = 0#52
      · rw [dif_pos nothing]
        trivial
      · rw [dif_neg nothing]
        change leastExponent ≤ _ ∧ _ ∧ _ ∧ _
        rw [zeros] at width ⊢
        refine ⟨by decide, by decide, by omega, .inl (by decide)⟩
    · have above : (@unpackExponent Format.binary64 word).toNat ≠ 0 :=
        fun zero => zeros (BitVec.eq_of_toNat_eq zero)
      rw [if_neg zeros]
      change leastExponent ≤ _ ∧ _ ∧ _ ∧ _
      rw [least, toNat_implicit]
      refine ⟨by omega, by omega, by omega, .inr (Nat.le_add_right _ _)⟩

theorem compare_finite {mantissa other : Nat} {exponent otherExponent : Int}
    (low : leastExponent ≤ exponent) (otherLow : leastExponent ≤ otherExponent)
    (digits : mantissa < 2 ^ 53) (otherDigits : other < 2 ^ 53)
    (full : exponent = leastExponent ∨ 2 ^ 52 ≤ mantissa)
    (otherFull : otherExponent = leastExponent ∨ 2 ^ 52 ≤ other) :
    (compare exponent otherExponent).then (compare mantissa other) =
      compare (magnitude mantissa exponent) (magnitude other otherExponent) := by
  have least : leastExponent = -1074 := rfl
  rw [least] at *
  rcases lt_trichotomy exponent otherExponent with less | same | greater
  · have below : magnitude mantissa exponent < magnitude other otherExponent := by
      rw [magnitude, magnitude]
      omega
    rw [compare_lt_iff_lt.2 less, compare_lt_iff_lt.2 below]
    rfl
  · subst same
    rw [compare_eq_iff_eq.2 rfl, Ordering.eq_then]
    rcases lt_trichotomy mantissa other with less | same | greater
    · have below : magnitude mantissa exponent < magnitude other exponent := by
        rw [magnitude, magnitude]
        omega
      rw [compare_lt_iff_lt.2 less, compare_lt_iff_lt.2 below]
    · rw [same, compare_eq_iff_eq.2 rfl, compare_eq_iff_eq.2 rfl]
    · have above : magnitude other exponent < magnitude mantissa exponent := by
        rw [magnitude, magnitude]
        omega
      rw [compare_gt_iff_gt.2 greater, compare_gt_iff_gt.2 above]
  · have above : magnitude other otherExponent < magnitude mantissa exponent := by
      rw [magnitude, magnitude]
      omega
    rw [compare_gt_iff_gt.2 greater, compare_gt_iff_gt.2 above]
    rfl

theorem magnitude_pos {mantissa : Nat} {exponent : Int} (low : leastExponent ≤ exponent)
    (positive : 0 < mantissa) : 0 < magnitude mantissa exponent := by
  have least : leastExponent = -1074 := rfl
  rw [magnitude]
  omega

theorem magnitude_lt {mantissa : Nat} {exponent : Int} (high : exponent ≤ 971)
    (digits : mantissa < 2 ^ 53) : magnitude mantissa exponent < infinityBits := by
  have least : leastExponent = -1074 := rfl
  rw [magnitude, infinity_bits_eq]
  omega

theorem some_lt_eq {left right : Int} (less : left < right) :
    some Ordering.lt = some (compare left right) :=
  congrArg some (compare_lt_iff_lt.2 less).symm

theorem some_gt_eq {left right : Int} (greater : right < left) :
    some Ordering.gt = some (compare left right) :=
  congrArg some (compare_gt_iff_gt.2 greater).symm

theorem some_eq_eq (place : Int) : some Ordering.eq = some (compare place place) :=
  congrArg some (compare_eq_iff_eq.2 rfl).symm

theorem compare_neg (left right : Int) : compare (-left) (-right) = (compare left right).swap := by
  rcases lt_trichotomy left right with less | rfl | greater
  · rw [compare_lt_iff_lt.2 less, compare_gt_iff_gt.2 (Int.neg_lt_neg less)]
    rfl
  · rw [compare_eq_iff_eq.2 rfl, compare_eq_iff_eq.2 rfl]
    rfl
  · rw [compare_gt_iff_gt.2 greater, compare_lt_iff_lt.2 (Int.neg_lt_neg greater)]
    rfl

theorem infinity_bits_pos : (0 : Int) < infinityBits := by decide

section Places

variable {right : UnpackedFloat} (sign : Sign) (canonical : Canonical right)
  (number : right ≠ .notANumber)

include canonical number

theorem compare_infinity :
    (UnpackedFloat.infinity sign).compare right =
      some (compare (place (.infinity sign)) (place right)) := by
  have infinite := infinity_bits_pos
  cases right with
  | notANumber => exact absurd rfl number
  | infinity other =>
      cases sign <;> cases other
      · exact some_eq_eq _
      · exact some_lt_eq ((Int.neg_neg_of_pos infinite).trans infinite)
      · exact some_gt_eq ((Int.neg_neg_of_pos infinite).trans infinite)
      · exact some_eq_eq _
  | zero other =>
      cases sign
      · exact some_lt_eq (Int.neg_neg_of_pos infinite)
      · exact some_gt_eq infinite
  | finite other mantissa exponent positive =>
      obtain ⟨low, high, digits, _⟩ := canonical
      have least := magnitude_pos low positive
      have most := magnitude_lt high digits
      cases sign <;> cases other
      · exact some_lt_eq (Int.neg_lt_neg most)
      · exact some_lt_eq ((Int.neg_neg_of_pos infinite).trans least)
      · exact some_gt_eq ((Int.neg_neg_of_pos least).trans infinite)
      · exact some_gt_eq most

theorem compare_zero :
    (UnpackedFloat.zero sign).compare right =
      some (compare (place (.zero sign)) (place right)) := by
  cases right with
  | notANumber => exact absurd rfl number
  | infinity other =>
      cases other
      · exact some_gt_eq (Int.neg_neg_of_pos infinity_bits_pos)
      · exact some_lt_eq infinity_bits_pos
  | zero other => exact some_eq_eq 0
  | finite other mantissa exponent positive =>
      have least := magnitude_pos canonical.1 positive
      cases other
      · exact some_gt_eq (Int.neg_neg_of_pos least)
      · exact some_lt_eq least

theorem compare_signed {mantissa : Nat} {exponent : Int} {positive : 0 < mantissa}
    (mine : Canonical (.finite sign mantissa exponent positive)) :
    (UnpackedFloat.finite sign mantissa exponent positive).compare right =
      some (compare (place (.finite sign mantissa exponent positive)) (place right)) := by
  obtain ⟨low, high, digits, full⟩ := mine
  have infinite := infinity_bits_pos
  have least := magnitude_pos low positive
  have most := magnitude_lt high digits
  cases right with
  | notANumber => exact absurd rfl number
  | infinity other =>
      cases sign <;> cases other
      · exact some_gt_eq (Int.neg_lt_neg most)
      · exact some_lt_eq ((Int.neg_neg_of_pos least).trans infinite)
      · exact some_gt_eq ((Int.neg_neg_of_pos infinite).trans least)
      · exact some_lt_eq most
  | zero other =>
      cases sign
      · exact some_lt_eq (Int.neg_neg_of_pos least)
      · exact some_gt_eq least
  | finite other otherMantissa otherExponent otherPositive =>
      obtain ⟨otherLow, _, otherDigits, otherFull⟩ := canonical
      have otherLeast := magnitude_pos otherLow otherPositive
      have both := compare_finite low otherLow digits otherDigits full otherFull
      cases sign <;> cases other
      · refine congrArg some ?_
        rw [both, place_negative, place_negative, compare_neg]
      · exact some_lt_eq ((Int.neg_neg_of_pos least).trans otherLeast)
      · exact some_gt_eq ((Int.neg_neg_of_pos otherLeast).trans least)
      · exact congrArg some both

end Places

theorem compare_eq_compare_place {left right : UnpackedFloat} (leftCanonical : Canonical left)
    (rightCanonical : Canonical right) (leftNumber : left ≠ .notANumber)
    (rightNumber : right ≠ .notANumber) :
    left.compare right = some (compare (place left) (place right)) := by
  cases left with
  | notANumber => exact absurd rfl leftNumber
  | infinity sign => exact compare_infinity sign rightCanonical rightNumber
  | zero sign => exact compare_zero sign rightCanonical rightNumber
  | finite sign => exact compare_signed sign rightCanonical rightNumber leftCanonical

def Ordered (value : Float) : Prop := value.toModel.unpack ≠ .notANumber

/-- The place of a value among all that are ordered, by which comparisons of floats become
comparisons of whole numbers. -/
def rank (value : Float) : Int := place value.toModel.unpack

theorem ordered_of_le {left right : Float} (below : left ≤ right) :
    Ordered left ∧ Ordered right := by
  have compared : (left.toModel.unpack.compare right.toModel.unpack).any (·.isLE) = true :=
    of_decide_eq_true below
  rw [Ordered, Ordered]
  generalize left.toModel.unpack = first at *
  generalize right.toModel.unpack = second at *
  constructor
  · rintro rfl
    cases compared
  · rintro rfl
    cases first with
    | notANumber => cases compared
    | infinity sign => cases sign <;> cases compared
    | zero sign => cases compared
    | finite sign => cases sign <;> cases compared

theorem le_of_below {left right : Float} (below : left < right) : left ≤ right := by
  have compared : (left.toModel.unpack.compare right.toModel.unpack == some .lt) = true :=
    of_decide_eq_true below
  change decide (left.toModel ≤ right.toModel) = true
  rw [decide_eq_true_eq]
  change (left.toModel.unpack.compare right.toModel.unpack).any (·.isLE) = true
  rw [beq_iff_eq.1 compared]
  rfl

section Ordered

variable {left right : Float} (leftOrdered : Ordered left) (rightOrdered : Ordered right)

include leftOrdered rightOrdered

theorem compare_eq_compare_rank :
    left.toModel.unpack.compare right.toModel.unpack = some (compare (rank left) (rank right)) :=
  compare_eq_compare_place (canonical_unpack _) (canonical_unpack _) leftOrdered rightOrdered

theorem lt_iff_rank_lt : left < right ↔ rank left < rank right := by
  change decide (left.toModel < right.toModel) = true ↔ _
  rw [decide_eq_true_eq]
  change (left.toModel.unpack.compare right.toModel.unpack == some .lt) = true ↔ _
  rw [compare_eq_compare_rank leftOrdered rightOrdered, beq_iff_eq, Option.some.injEq,
    compare_lt_iff_lt]

theorem beq_iff_rank_eq : (left == right) = true ↔ rank left = rank right := by
  change (left.toModel.unpack.compare right.toModel.unpack == some .eq) = true ↔ _
  rw [compare_eq_compare_rank leftOrdered rightOrdered, beq_iff_eq, Option.some.injEq,
    compare_eq_iff_eq]

theorem le_iff_rank_le : left ≤ right ↔ rank left ≤ rank right := by
  change decide (left.toModel ≤ right.toModel) = true ↔ _
  rw [decide_eq_true_eq]
  change (left.toModel.unpack.compare right.toModel.unpack).any (·.isLE) = true ↔ _
  rw [compare_eq_compare_rank leftOrdered rightOrdered, Option.any_some]
  exact Std.isLE_compare

theorem not_lt_of_rank_le {least : Float} (leastOrdered : Ordered least)
    (rises : rank left ≤ rank right) (high : ¬ left < least) : ¬ right < least := by
  rw [lt_iff_rank_lt leftOrdered leastOrdered, not_lt] at high
  rw [lt_iff_rank_lt rightOrdered leastOrdered, not_lt]
  exact high.trans rises

end Ordered

theorem below_of_below_of_le {value bound higher : Float} (below : value < bound)
    (rises : bound ≤ higher) : value < higher := by
  obtain ⟨valueOrdered, boundOrdered⟩ := ordered_of_le (le_of_below below)
  have higherOrdered := (ordered_of_le rises).2
  rw [lt_iff_rank_lt valueOrdered boundOrdered] at below
  rw [le_iff_rank_le boundOrdered higherOrdered] at rises
  rw [lt_iff_rank_lt valueOrdered higherOrdered]
  exact below.trans_le rises

theorem not_below_of_le {value bound : Float} (reached : bound ≤ value) : ¬ value < bound := by
  obtain ⟨boundOrdered, valueOrdered⟩ := ordered_of_le reached
  rw [lt_iff_rank_lt valueOrdered boundOrdered, not_lt]
  exact (le_iff_rank_le boundOrdered valueOrdered).1 reached

theorem toNat_unpack_exponent {bits : Nat} (bound : bits < infinityBits) :
    (@unpackExponent Format.binary64 (BitVec.ofNat 64 bits)).toNat = bits / 2 ^ 52 := by
  rw [infinity_bits_eq] at bound
  change (BitVec.extractLsb 62 52 (BitVec.ofNat 64 bits)).toNat = _
  rw [BitVec.extractLsb_toNat, BitVec.toNat_ofNat, Nat.shiftRight_eq_div_pow]
  omega

theorem toNat_unpack_mantissa (bits : Nat) :
    (@unpackMantissa Format.binary64 (BitVec.ofNat 64 bits)).toNat = bits % 2 ^ 52 := by
  change (BitVec.extractLsb 51 0 (BitVec.ofNat 64 bits)).toNat = _
  rw [BitVec.extractLsb_toNat, BitVec.toNat_ofNat, Nat.shiftRight_zero]
  omega

theorem place_unpack {bits : Nat} (bound : bits < infinityBits) :
    place (UnpackedFloat.unpack Format.binary64 (BitVec.ofNat 64 bits)) = bits := by
  have bias : (Format.binary64.exponentBias : Int) +
      Format.binary64.mantissaBitsWithoutImplicit = 1075 := rfl
  have least : leastExponent = -1074 := rfl
  have field := toNat_unpack_exponent bound
  have fraction := toNat_unpack_mantissa bits
  have sign : Sign.ofBitVec (@unpackSign Format.binary64 (BitVec.ofNat 64 bits)) = .positive := by
    rw [unpack_sign_eq bound]
    rfl
  rw [infinity_bits_eq] at bound
  unfold UnpackedFloat.unpack
  dsimp only
  rw [bias, sign]
  by_cases full : @unpackExponent Format.binary64 (BitVec.ofNat 64 bits) = -1#11
  · rw [full] at field
    have all : (-1#11).toNat = 2047 := rfl
    omega
  · rw [if_neg full]
    by_cases zeros : @unpackExponent Format.binary64 (BitVec.ofNat 64 bits) = 0#11
    · rw [if_pos zeros]
      rw [zeros] at field
      have none : (0#11).toNat = 0 := rfl
      by_cases nothing : @unpackMantissa Format.binary64 (BitVec.ofNat 64 bits) = 0#52
      · rw [nothing] at fraction
        have empty : (0#52).toNat = 0 := rfl
        rw [dif_pos nothing, place_zero]
        omega
      · rw [dif_neg nothing, place_positive, magnitude, fraction, zeros, none, least]
        omega
    · rw [if_neg zeros, place_positive, magnitude, toNat_implicit, fraction, field, least]
      omega

theorem toNat_pack_components (field : BitVec 11) (fraction : BitVec 52) :
    (packComponents Format.binary64 .positive field fraction).toNat =
      field.toNat * 2 ^ 52 + fraction.toNat := by
  change (0#1 ++ field ++ fraction).toNat = _
  rw [BitVec.toNat_append, ← Nat.shiftLeft_add_eq_or_of_lt fraction.isLt, Nat.shiftLeft_eq,
    BitVec.toNat_append, BitVec.toNat_ofNat, Nat.zero_mod, Nat.zero_shiftLeft, Nat.zero_or]

theorem toNat_pack_finite {mantissa : Nat} {exponent : Int} (positive : 0 < mantissa)
    (canonical : Canonical (.finite .positive mantissa exponent positive)) :
    ((UnpackedFloat.pack Format.binary64 (.finite .positive mantissa exponent positive)).toNat :
      Int) = magnitude mantissa exponent := by
  obtain ⟨low, high, digits, full⟩ := canonical
  have least : leastExponent = -1074 := rfl
  have biased : (exponent + Format.binary64.exponentBias +
      Format.binary64.mantissaBitsWithoutImplicit).toNat = (exponent + 1075).toNat := by
    change (exponent + 1023 + 52).toNat = _
    omega
  have small : ¬ 2 ^ Format.binary64.exponentBits ≤ (exponent + 1075).toNat + 1 := by
    change ¬ 2048 ≤ _
    omega
  have top : mantissa.log2 + 1 = Format.binary64.mantissaBits ↔ 2 ^ 52 ≤ mantissa := by
    change mantissa.log2 + 1 = 53 ↔ _
    rw [← Nat.le_log2 positive.ne']
    have below := (Nat.log2_lt positive.ne').2 digits
    omega
  unfold UnpackedFloat.pack
  dsimp only
  rw [biased, if_neg small]
  split
  · rename_i implicit
    have leading := top.1 implicit
    rw [toNat_pack_components, BitVec.toNat_ofNat, BitVec.toNat_ofNat, magnitude, least]
    change (((exponent + 1075).toNat % 2 ^ 11 * 2 ^ 52 + mantissa % 2 ^ 52 : Nat) : Int) = _
    omega
  · rename_i subnormal
    have place : exponent = leastExponent := full.resolve_right (mt top.2 subnormal)
    rw [toNat_pack_components, BitVec.toNat_ofNat, BitVec.toNat_ofNat, magnitude, place]
    change ((0 % 2 ^ 11 * 2 ^ 52 + mantissa % 2 ^ 52 : Nat) : Int) = _
    omega

theorem pack_unpack {bits : Nat} (bound : bits < infinityBits) :
    UnpackedFloat.pack Format.binary64
        (UnpackedFloat.unpack Format.binary64 (BitVec.ofNat 64 bits)) = BitVec.ofNat 64 bits := by
  have placed := place_unpack bound
  have canonical := canonical_unpack (BitVec.ofNat 64 bits)
  rcases unpack_of_positive (unpack_sign_eq bound) (unpack_exponent_lt bound) with
    zero | ⟨mantissa, exponent, positive, _, same⟩
  · rw [zero, place_zero] at placed
    have nothing : bits = 0 := by omega
    rw [zero, nothing]
    rfl
  · rw [same] at canonical placed
    have packed := toNat_pack_finite positive canonical
    rw [place_positive] at placed
    rw [infinity_bits_eq] at bound
    have word : (BitVec.ofNat 64 bits).toNat = bits := by
      rw [BitVec.toNat_ofNat]
      omega
    rw [same]
    apply BitVec.eq_of_toNat_eq
    exact Int.ofNat_inj.1 (packed.trans (placed.trans (congrArg Nat.cast word.symm)))

theorem unpack_ofBits {bits : Nat} (bound : bits < infinityBits) :
    (ofBits false bits).toModel.unpack =
      UnpackedFloat.unpack Format.binary64 (BitVec.ofNat 64 bits) :=
  congrArg (UnpackedFloat.unpack Format.binary64) (pack_unpack bound)

theorem rank_ofBits {bits : Nat} (bound : bits < infinityBits) :
    rank (ofBits false bits) = bits := by
  rw [rank, unpack_ofBits bound, place_unpack bound]

theorem Unsigned.ordered {value : Float} (unsigned : Unsigned value) : Ordered value := by
  rcases unsigned with zero | ⟨_, _, _, finite⟩
  · rw [Ordered, zero]
    exact fun same => by cases same
  · rw [Ordered, finite]
    exact fun same => by cases same

end LibraryDetection.Number

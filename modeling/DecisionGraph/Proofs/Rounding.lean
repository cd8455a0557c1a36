import DecisionGraph.Edge
import DecisionGraph.Proofs.Encoding

/-!
A negative number is more than one away from one, and rounding the difference cannot hide it: the
rounded difference is at least one in size.
-/

namespace DecisionGraph.Rounding

open Float.Model (Format UnpackedFloat totalExponent)
open Float.Model.UnpackedFloat

/-- Numbers of a sign, at least one in size and with a full mantissa where they are finite. -/
inductive Large (sign : Sign) : UnpackedFloat → Prop
  | infinity : Large sign (.infinity sign)
  | finite (mantissa : Nat) (exponent : Int) (positive : 0 < mantissa)
      (full : mantissa.log2 = 52) (high : -52 ≤ exponent) :
      Large sign (.finite sign mantissa exponent positive)

theorem ne_zero_of_full {mantissa : Nat} (full : 52 ≤ mantissa.log2) : mantissa ≠ 0 := by
  rintro rfl
  simp at full

theorem log2_div_two_pow {number count : Nat} (room : count ≤ number.log2)
    (nonzero : number ≠ 0) : (number / 2 ^ count).log2 = number.log2 - count := by
  obtain ⟨low, high⟩ := (Nat.log2_eq_iff nonzero).mp rfl
  have low : 2 ^ (number.log2 - count) ≤ number / 2 ^ count := by
    rw [Nat.le_div_iff_mul_le (Nat.two_pow_pos count), ← Nat.pow_add, Nat.sub_add_cancel room]
    exact low
  have high : number / 2 ^ count < 2 ^ (number.log2 - count + 1) := by
    rw [Nat.div_lt_iff_lt_mul (Nat.two_pow_pos count), ← Nat.pow_add]
    rwa [show number.log2 - count + 1 + count = number.log2 + 1 by omega]
  have nonzero : number / 2 ^ count ≠ 0 := by
    have := Nat.two_pow_pos (number.log2 - count)
    omega
  exact (Nat.log2_eq_iff nonzero).mpr ⟨low, high⟩

theorem log2_shiftLeft {number : Nat} (count : Nat) (nonzero : number ≠ 0) :
    (number <<< count).log2 = number.log2 + count := by
  obtain ⟨low, high⟩ := (Nat.log2_eq_iff nonzero).mp rfl
  rw [Nat.shiftLeft_eq]
  have positive := Nat.two_pow_pos count
  have scaled : number * 2 ^ count ≠ 0 := Nat.mul_ne_zero nonzero (Nat.ne_of_gt positive)
  refine (Nat.log2_eq_iff scaled).mpr ⟨?_, ?_⟩
  · rw [Nat.pow_add]
    exact Nat.mul_le_mul_right _ low
  · rw [show number.log2 + count + 1 = number.log2 + 1 + count by omega, Nat.pow_add]
    exact Nat.mul_lt_mul_of_pos_right high positive

/-! Rounding keeps a number large. -/

theorem mantissa_shiftRight (extended : ExtendedMantissa) (count : Nat) :
    (extended >>> count).mantissa = extended.mantissa / 2 ^ count := by
  induction count with
  | zero => exact (Nat.div_one _).symm
  | succ count ih =>
      change (extended >>> count).mantissa / 2 = _
      rw [ih, Nat.div_div_eq_div_mul, Nat.pow_succ]

theorem mantissa_le_roundedMantissa (extended : ExtendedMantissa) :
    extended.mantissa ≤ extended.roundedMantissa := by
  unfold ExtendedMantissa.roundedMantissa
  cases extended.accuracy with
  | exact => exact Nat.le_refl _
  | inexact order =>
      cases order with
      | lt => exact Nat.le_refl _
      | eq => exact Nat.le_add_right _ _
      | gt => exact Nat.le_add_right _ _

/-- Where the mantissa has bits to spare, shifting leaves it just full. -/
theorem shiftToTargetExponent_of_full {mantissa : Nat} {exponent : Int} (accuracy : Accuracy)
    (full : 52 ≤ mantissa.log2) (high : 0 ≤ mantissa.log2 + exponent) :
    let shifted := shiftToTargetExponent .binary64 mantissa exponent accuracy
    shifted.1.mantissa.log2 = 52 ∧ shifted.2 = exponent + (mantissa.log2 - 52 : Nat) := by
  have target : Format.binary64.targetExponent (totalExponent mantissa exponent) =
      mantissa.log2 + exponent - 52 := by
    simp only [Format.targetExponent, totalExponent, Format.mantissaBits, Format.minExponent]
    omega
  have count : (mantissa.log2 + exponent - 52 - exponent).toNat = mantissa.log2 - 52 := by omega
  have same : (ExtendedMantissa.ofMantissaAndAccuracy mantissa accuracy).mantissa = mantissa := by
    cases accuracy with
    | exact => rfl
    | inexact order => cases order <;> rfl
  simp only [shiftToTargetExponent, shiftToExponent, target, count, mantissa_shiftRight, same,
    and_true]
  rw [log2_div_two_pow (Nat.sub_le _ _) (ne_zero_of_full full)]
  omega

theorem roundWithAccuracy_full (sign : Sign) {mantissa : Nat} {exponent : Int}
    (accuracy : Accuracy) (full : 52 ≤ mantissa.log2) (high : 0 ≤ mantissa.log2 + exponent) :
    ∃ rounded raised positive, roundWithAccuracy .binary64 sign mantissa exponent accuracy =
        .finite sign rounded raised positive ∧
      rounded.log2 = 52 ∧ mantissa.log2 + exponent ≤ 52 + raised := by
  obtain ⟨first, raised⟩ := shiftToTargetExponent_of_full accuracy full high
  unfold roundWithAccuracy
  generalize shiftToTargetExponent .binary64 mantissa exponent accuracy = shifted at first raised
  obtain ⟨extended, shiftedExponent⟩ := shifted
  simp only at first raised ⊢
  have rounded : 52 ≤ extended.roundedMantissa.log2 := by
    have bound := mantissa_le_roundedMantissa extended
    have least := ((Nat.log2_eq_iff (ne_zero_of_full (Nat.le_of_eq first.symm))).mp first).1
    exact (Nat.le_log2 (by omega)).mpr (by omega)
  -- Rounding up may have filled one bit too many, so there is a second shift.
  obtain ⟨second, raisedAgain⟩ := shiftToTargetExponent_of_full .exact rounded
    (show 0 ≤ extended.roundedMantissa.log2 + shiftedExponent by omega)
  generalize shiftToTargetExponent .binary64 _ shiftedExponent .exact = shifted
    at second raisedAgain
  have nonzero := ne_zero_of_full (Nat.le_of_eq second.symm)
  rw [dif_neg nonzero]
  exact ⟨_, _, Nat.pos_of_ne_zero nonzero, rfl, second, by omega⟩

theorem roundWithAccuracy_large (sign : Sign) {mantissa : Nat} {exponent : Int}
    (accuracy : Accuracy) (full : 52 ≤ mantissa.log2) (high : 0 ≤ mantissa.log2 + exponent) :
    Large sign (roundWithAccuracy .binary64 sign mantissa exponent accuracy) := by
  obtain ⟨rounded, raised, positive, same, filled, above⟩ :=
    roundWithAccuracy_full sign accuracy full high
  rw [same]
  exact .finite _ _ _ filled (by omega)

theorem round_large (sign : Sign) {mantissa : Nat} {exponent : Int} (nonzero : mantissa ≠ 0)
    (high : 0 ≤ mantissa.log2 + exponent) :
    Large sign (UnpackedFloat.round .binary64 sign mantissa exponent) := by
  have target : Format.binary64.targetExponent (totalExponent mantissa exponent) =
      mantissa.log2 + exponent - 52 := by
    simp only [Format.targetExponent, totalExponent, Format.mantissaBits, Format.minExponent]
    omega
  simp only [UnpackedFloat.round, decreaseExponent, target]
  refine roundWithAccuracy_large sign .exact ?_ ?_
  · rw [log2_shiftLeft _ nonzero]
    omega
  · rw [log2_shiftLeft _ nonzero]
    omega

/-! So does storing it. -/

theorem toNat_one_append (bits : BitVec 52) : (1#1 ++ bits).toNat = 2 ^ 52 + bits.toNat := by
  rw [BitVec.toNat_append, ← Nat.shiftLeft_add_eq_or_of_lt bits.isLt]
  rfl

theorem log2_one_append (bits : BitVec 52) : (1#1 ++ bits).toNat.log2 = 52 := by
  have small := bits.isLt
  rw [toNat_one_append]
  exact (Nat.log2_eq_iff (by omega)).mpr ⟨by omega, by omega⟩

theorem unpack_packedInfinity (sign : Sign) :
    unpack .binary64 (packedInfinity .binary64 sign) = .infinity sign := by
  simp [unpack, packedInfinity]

/-- A full mantissa is read back as it was stored. -/
theorem unpack_pack_exact (sign : Sign) {mantissa : Nat} {exponent : Int} (positive : 0 < mantissa)
    (full : mantissa.log2 = 52) (high : -52 ≤ exponent) (room : exponent ≤ 971) :
    unpack .binary64 (pack .binary64 (.finite sign mantissa exponent positive)) =
      .finite sign mantissa exponent positive := by
  have biased : (exponent + (Format.binary64.exponentBias : Nat) + (52 : Nat)).toNat =
      (exponent + 1075).toNat := by
    rw [show Format.binary64.exponentBias = 1023 from rfl]
    omega
  have fits : ¬ 2 ^ Format.binary64.exponentBits ≤ (exponent + 1075).toNat + 1 := by
    rw [show 2 ^ Format.binary64.exponentBits = 2048 from rfl]
    omega
  have notAll : BitVec.ofNat 11 (exponent + 1075).toNat ≠ -1#11 := by
    intro same
    have := congrArg BitVec.toNat same
    simp at this
    omega
  have notNone : BitVec.ofNat 11 (exponent + 1075).toNat ≠ 0#11 := by
    intro same
    have := congrArg BitVec.toNat same
    simp at this
    omega
  have bounds := (Nat.log2_eq_iff (Nat.ne_of_gt positive)).mp full
  simp only [pack, full, biased]
  rw [if_neg fits, if_pos (show 52 + 1 = Format.binary64.mantissaBits from rfl)]
  simp only [unpack, unpackExponent_packComponents, unpackMantissa_packComponents,
    unpackSign_packComponents, Sign.ofBitVec_toBitVec]
  rw [if_neg notAll, if_neg notNone]
  rw [UnpackedFloat.finite.injEq, show Format.binary64.exponentBias = 1023 from rfl,
    BitVec.toNat_ofNat, toNat_one_append, BitVec.toNat_ofNat]
  exact ⟨rfl, by omega, by omega⟩

theorem unpack_pack_full (sign : Sign) {mantissa : Nat} {exponent : Int} (positive : 0 < mantissa)
    (full : mantissa.log2 = 52) (high : -52 ≤ exponent) :
    unpack .binary64 (pack .binary64 (.finite sign mantissa exponent positive)) = .infinity sign ∨
      unpack .binary64 (pack .binary64 (.finite sign mantissa exponent positive)) =
        .finite sign mantissa exponent positive := by
  by_cases room : exponent ≤ 971
  · exact .inr (unpack_pack_exact sign positive full high room)
  · have above : 2 ^ Format.binary64.exponentBits ≤
        (exponent + (Format.binary64.exponentBias : Nat) + (52 : Nat)).toNat + 1 := by
      rw [show Format.binary64.exponentBias = 1023 from rfl,
        show 2 ^ Format.binary64.exponentBits = 2048 from rfl]
      omega
    simp only [pack, full]
    rw [if_pos above]
    exact .inl (unpack_packedInfinity sign)

theorem unpack_pack_large {sign : Sign} {number : UnpackedFloat} (large : Large sign number) :
    Large sign (unpack .binary64 (pack .binary64 number)) := by
  cases large with
  | infinity =>
      rw [pack, unpack_packedInfinity]
      exact .infinity
  | finite mantissa exponent positive full high =>
      obtain same | same := unpack_pack_full sign positive full high
      · rw [same]
        exact .infinity
      · rw [same]
        exact .finite _ _ _ full high

theorem abs_large {sign : Sign} {number : UnpackedFloat} (large : Large sign number) :
    Large .positive number.abs := by
  cases large with
  | infinity => exact .infinity
  | finite mantissa exponent positive full high => exact .finite _ _ _ full high

/-! The distance of a negative number from one. -/

theorem sub_one_large {number : UnpackedFloat} (negative : ∃ mantissa exponent positive,
    number = .finite .negative mantissa exponent positive ∨ number = .infinity .negative) :
    Large .negative
      (UnpackedFloat.sub .binary64 number (.finite .positive (2 ^ 52) (-52) (by decide))) := by
  obtain ⟨mantissa, exponent, positive, rfl | rfl⟩ := negative
  · simp only [UnpackedFloat.sub, decreaseExponent]
    generalize least : min exponent (-52) = smaller
    have sign : Sign.apply .negative (mantissa <<< (exponent - smaller).toNat : Nat) -
        Sign.apply .positive (2 ^ 52 <<< (-52 - smaller).toNat : Nat) =
        -((mantissa <<< (exponent - smaller).toNat +
          2 ^ 52 <<< (-52 - smaller).toNat : Nat) : Int) := by
      simp only [Sign.apply]
      omega
    have one : 2 ^ 52 <<< (-52 - smaller).toNat = 2 ^ (-smaller).toNat := by
      rw [Nat.shiftLeft_eq, ← Nat.pow_add]
      congr 1
      omega
    rw [sign, one]
    generalize mantissa <<< (exponent - smaller).toNat = lower
    have positive := Nat.two_pow_pos (-smaller).toNat
    have below : compare (-((lower + 2 ^ (-smaller).toNat : Nat) : Int)) 0 = .lt :=
      Int.compare_eq_lt.mpr (by omega)
    simp only [UnpackedFloat.normalize, below, Int.neg_neg, Int.toNat_natCast]
    refine round_large .negative (by omega) ?_
    have size : (-smaller).toNat ≤ (lower + 2 ^ (-smaller).toNat).log2 :=
      (Nat.le_log2 (by omega)).mpr (Nat.le_add_left _ _)
    omega
  · exact .infinity

theorem negative_of_lt_zero {number : Float} (negative : number < 0) :
    ∃ mantissa exponent positive,
      number.toModel.unpack = .finite .negative mantissa exponent positive ∨
        number.toModel.unpack = .infinity .negative := by
  have negative : (number.toModel.unpack.compare (.zero .positive) == some .lt) = true :=
    of_decide_eq_true (p := number.toModel < (0 : Float).toModel) negative
  generalize number.toModel.unpack = unpacked at negative ⊢
  cases unpacked with
  | notANumber => cases negative
  | zero sign => cases negative
  | infinity sign =>
      cases sign with
      | negative => exact ⟨1, 0, by decide, Or.inr rfl⟩
      | positive => cases negative
  | finite sign mantissa exponent positive =>
      cases sign with
      | negative => exact ⟨mantissa, exponent, positive, Or.inl rfl⟩
      | positive => cases negative

/-- A large number is above whatever has a smaller exponent. -/
theorem not_le_of_large {number : UnpackedFloat} {mantissa : Nat} {exponent : Int}
    {positive : 0 < mantissa} (large : Large .positive number) (small : exponent < -52) :
    UnpackedFloat.le number (.finite .positive mantissa exponent positive) = false := by
  cases large with
  | infinity => rfl
  | finite other larger _ _ high =>
      have above : compare larger exponent = .gt := Int.compare_eq_gt.mpr (by omega)
      simp [UnpackedFloat.le, UnpackedFloat.compare, above]

theorem not_isNear_one_of_lt_zero {number : Float} (negative : number < 0) :
    Edge.isNear number 1.0 = false := by
  have difference := sub_one_large (negative_of_lt_zero negative)
  have size := unpack_pack_large (abs_large (unpack_pack_large difference))
  obtain ⟨mantissa, positive, noise⟩ : ∃ mantissa positive,
      (1e-9 : Float).toModel.unpack = .finite .positive mantissa (-82) positive := ⟨_, _, rfl⟩
  have above : UnpackedFloat.le _ (.finite .positive mantissa (-82) positive) = false :=
    not_le_of_large size (by decide)
  rw [← noise] at above
  have above : ¬ (number - 1.0).abs ≤ 1e-9 := fun near => by
    have near : ((number - 1.0).abs.toModel.unpack.le (1e-9 : Float).toModel.unpack) = true :=
      of_decide_eq_true (p := (number - 1.0).abs.toModel ≤ (1e-9 : Float).toModel) near
    exact Bool.false_ne_true (above.symm.trans near)
  exact decide_eq_false above

end DecisionGraph.Rounding

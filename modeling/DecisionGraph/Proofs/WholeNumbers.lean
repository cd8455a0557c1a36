import DecisionGraph.Proofs.Encoding
import DecisionGraph.Proofs.FiniteNumbers
import DecisionGraph.Proofs.WellFormed

/-!
Whole numbers below the size of a mantissa are stored exactly, and so no two of them alike.
-/

namespace DecisionGraph.Rounding

open Float.Model (Format UnpackedFloat totalExponent)
open Float.Model.UnpackedFloat

/-- The number with a full mantissa. -/
def whole (number : Nat) : UnpackedFloat :=
  if positive : 0 < number then
    .finite .positive (number * 2 ^ (52 - number.log2)) (number.log2 - 52)
      (Nat.mul_pos positive (Nat.two_pow_pos _))
  else .zero .positive

theorem log2_mul_two_pow {number : Nat} (count : Nat) (positive : 0 < number) :
    (number * 2 ^ count).log2 = number.log2 + count := by
  rw [← Nat.shiftLeft_eq, log2_shiftLeft _ positive.ne']

/-- Shifting zeros out loses nothing. -/
theorem shiftRight_exact (mantissa count : Nat) :
    ExtendedMantissa.ofMantissaAndAccuracy (mantissa * 2 ^ count) .exact >>> count =
      ⟨mantissa, false, false⟩ := by
  induction count generalizing mantissa with
  | zero =>
      rw [Nat.pow_zero, Nat.mul_one]
      rfl
  | succ count ih =>
      have shifted := ih (mantissa * 2)
      rw [Nat.mul_assoc, ← Nat.pow_succ'] at shifted
      change ExtendedMantissa.shiftRightOne
        (ExtendedMantissa.ofMantissaAndAccuracy (mantissa * 2 ^ (count + 1)) .exact >>> count) = _
      rw [shifted]
      simp [ExtendedMantissa.shiftRightOne]

section Exact

variable {mantissa count : Nat} {exponent : Int}

theorem shiftToTargetExponent_exact (full : mantissa.log2 = 52) (high : -1074 ≤ exponent + count) :
    shiftToTargetExponent .binary64 (mantissa * 2 ^ count) exponent .exact =
      (⟨mantissa, false, false⟩, exponent + count) := by
  have positive := Nat.pos_of_ne_zero (ne_zero_of_full full.ge)
  have target : Format.binary64.targetExponent (totalExponent (mantissa * 2 ^ count) exponent) =
      exponent + count := by
    simp only [Format.targetExponent, totalExponent, Format.mantissaBits, Format.minExponent,
      log2_mul_two_pow count positive, full]
    omega
  have steps : (exponent + (count : Int) - exponent).toNat = count := by omega
  simp only [shiftToTargetExponent, shiftToExponent, target, steps, shiftRight_exact]

theorem roundWithAccuracy_exact (sign : Sign) (full : mantissa.log2 = 52) (positive : 0 < mantissa)
    (high : -1074 ≤ exponent + count) :
    roundWithAccuracy .binary64 sign (mantissa * 2 ^ count) exponent .exact =
      .finite sign mantissa (exponent + count) positive := by
  have again : shiftToTargetExponent .binary64 (mantissa * 2 ^ 0) (exponent + count) .exact = _ :=
    shiftToTargetExponent_exact full (by omega)
  rw [Nat.pow_zero, Nat.mul_one] at again
  have kept : ExtendedMantissa.roundedMantissa ⟨mantissa, false, false⟩ = mantissa := rfl
  simp only [roundWithAccuracy, shiftToTargetExponent_exact full high, kept, again]
  rw [dif_neg positive.ne', UnpackedFloat.finite.injEq]
  exact ⟨rfl, rfl, by omega⟩

end Exact

section Whole

variable {number other : Nat}

theorem log2_le_of_lt (small : number < 2 ^ 53) : number.log2 ≤ 52 := by
  by_cases positive : 0 < number
  · have := (Nat.log2_lt positive.ne').mpr small
    omega
  · rw [Nat.eq_zero_of_not_pos positive]
    decide

theorem log2_filled (positive : 0 < number) (small : number < 2 ^ 53) :
    (number * 2 ^ (52 - number.log2)).log2 = 52 := by
  have := log2_le_of_lt small
  rw [log2_mul_two_pow _ positive]
  omega

theorem round_whole (positive : 0 < number) (small : number < 2 ^ 53) :
    UnpackedFloat.round .binary64 .positive number 0 = whole number := by
  have bound := log2_le_of_lt small
  have target : Format.binary64.targetExponent (totalExponent number 0) = number.log2 - 52 := by
    simp only [Format.targetExponent, totalExponent, Format.mantissaBits, Format.minExponent]
    omega
  have steps : (0 - ((number.log2 : Int) - 52)).toNat = 52 - number.log2 := by omega
  have filled := Nat.mul_pos positive (Nat.two_pow_pos (52 - number.log2))
  have rounded : roundWithAccuracy .binary64 .positive
      (number * 2 ^ (52 - number.log2) * 2 ^ 0) (0 - (52 - number.log2 : Nat)) .exact = _ :=
    roundWithAccuracy_exact .positive (log2_filled positive small) filled (by omega)
  rw [Nat.pow_zero, Nat.mul_one] at rounded
  simp only [UnpackedFloat.round, decreaseExponent, target, steps, Nat.shiftLeft_eq]
  rw [rounded, whole, dif_pos positive, UnpackedFloat.finite.injEq]
  exact ⟨rfl, rfl, by omega⟩

theorem ofNat_whole (small : number < 2 ^ 53) :
    UnpackedFloat.ofNat .binary64 number = whole number := by
  unfold UnpackedFloat.ofNat UnpackedFloat.ofInt UnpackedFloat.normalize
  split
  · next below => exact absurd (Int.compare_eq_lt.mp below) (by omega)
  · next zero =>
    have := Int.compare_eq_eq.mp zero
    rw [whole, dif_neg (by omega)]
  · next above =>
    have := Int.compare_eq_gt.mp above
    rw [Int.toNat_natCast, round_whole (by omega) small]

theorem unpack_pack_whole (small : number < 2 ^ 53) :
    unpack .binary64 (pack .binary64 (whole number)) = whole number := by
  have bound := log2_le_of_lt small
  unfold whole
  split
  · next positive =>
    exact unpack_pack_exact _ _ (log2_filled positive small) (by omega) (by omega)
  · rfl

theorem mul_one_whole (small : number < 2 ^ 53) :
    UnpackedFloat.mul .binary64 (whole number) (.finite .positive (2 ^ 52) (-52) (by decide)) =
      whole number := by
  have bound := log2_le_of_lt small
  unfold whole
  split
  · next positive =>
    have filled := Nat.mul_pos positive (Nat.two_pow_pos (52 - number.log2))
    have rounded : roundWithAccuracy .binary64 .positive
        (number * 2 ^ (52 - number.log2) * 2 ^ 52) (number.log2 - 52 + -52) .exact = _ :=
      roundWithAccuracy_exact .positive (log2_filled positive small) filled (by omega)
    refine rounded.trans ?_
    rw [UnpackedFloat.finite.injEq]
    exact ⟨rfl, rfl, by omega⟩
  · rfl

theorem whole_injective (same : whole number = whole other) : number = other := by
  unfold whole at same
  split at same
  · split at same
    · obtain ⟨_, mantissa, exponent⟩ := (UnpackedFloat.finite.injEq ..).mp same
      have size : number.log2 = other.log2 := by omega
      rw [size] at mantissa
      exact Nat.eq_of_mul_eq_mul_right (Nat.two_pow_pos _) mantissa
    · cases same
  · split at same
    · cases same
    · omega

end Whole

end DecisionGraph.Rounding

namespace DecisionGraph

open Float.Model (UnpackedFloat)
open Rounding

variable {number other : Nat}

theorem unpack_ofNat (small : number < 2 ^ 53) :
    (Float.ofNat number).toModel.unpack = whole number := by
  have stored : number.toUInt64.toFloat.toModel.unpack = whole number := by
    change UnpackedFloat.unpack .binary64 (UnpackedFloat.pack .binary64
      (UnpackedFloat.ofNat .binary64 number.toUInt64.toNat)) = whole number
    rw [UInt64.toNat_ofNat_of_lt' (Nat.lt_trans small (by decide)), ofNat_whole small,
      unpack_pack_whole small]
  have product : Float.ofNat number = number.toUInt64.toFloat * 1.0 := by
    change Float.ofScientific number false 0 = _
    unfold Float.ofScientific
    rw [dif_pos ⟨small, by decide⟩]
    rfl
  have one : (1.0 : Float).toModel.unpack = .finite .positive (2 ^ 52) (-52) (by decide) := rfl
  rw [product]
  change UnpackedFloat.unpack .binary64 (UnpackedFloat.pack .binary64
    (UnpackedFloat.mul .binary64 number.toUInt64.toFloat.toModel.unpack
      (1.0 : Float).toModel.unpack)) = whole number
  rw [stored, one, mul_one_whole small, unpack_pack_whole small]

theorem isFinite_ofNat (small : number < 2 ^ 53) : (Float.ofNat number).isFinite = true := by
  change (Float.ofNat number).toModel.unpack.isFinite = true
  rw [unpack_ofNat small]
  unfold whole
  split <;> rfl

theorem eq_zero_of_beq_zero (small : number < 2 ^ 53) (zero : (Float.ofNat number == 0) = true) :
    number = 0 := by
  have zero : (Float.ofNat number).toModel.unpack.beq (.zero .positive) = true := zero
  rw [unpack_ofNat small] at zero
  unfold whole at zero
  split at zero
  · cases zero
  · omega

/-- Whole numbers that options may set tell the options apart. -/
theorem eq_of_sameSetting {name key : String} (small : number < 2 ^ 53) (low : other < 2 ^ 53)
    (same : SameSetting (name, .ofFloat (Float.ofNat number)) (key, .ofFloat (Float.ofNat other))) :
    number = other := by
  obtain ⟨_, same⟩ := same
  rw [Double.toFloat_ofFloat, Double.toFloat_ofFloat] at same
  rcases same with bits | ⟨zero, alsoZero⟩
  · apply whole_injective
    rw [← unpack_ofNat small, ← unpack_ofNat low]
    exact congrArg (fun bits : UInt64 => UnpackedFloat.unpack .binary64 bits.toBitVec) bits
  · rw [eq_zero_of_beq_zero small zero, eq_zero_of_beq_zero low alsoZero]

end DecisionGraph

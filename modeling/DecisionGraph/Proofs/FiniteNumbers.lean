import DecisionGraph.Json.Numeral
import DecisionGraph.Proofs.Rounding

/-!
Numbers that are read are finite: digits make a finite number, and scaling it down by a power of ten
leaves it finite.
-/

namespace DecisionGraph.Rounding

open Float.Model (Format UnpackedFloat totalExponent)
open Float.Model.UnpackedFloat

/-- Numbers that are stored as finite ones. -/
inductive Small : UnpackedFloat → Prop
  | zero (sign : Sign) : Small (.zero sign)
  | finite (sign : Sign) (mantissa : Nat) (exponent : Int) (positive : 0 < mantissa)
      (low : exponent ≤ 971) : Small (.finite sign mantissa exponent positive)

theorem isFinite_unpack_packComponents (sign : Sign) {field : Nat} (low : field < 2047)
    (bits : BitVec 52) : (unpack .binary64
      (packComponents .binary64 sign (BitVec.ofNat 11 field) bits)).isFinite = true := by
  have notAll : BitVec.ofNat 11 field ≠ -1#11 := by
    intro same
    have := congrArg BitVec.toNat same
    simp at this
    omega
  simp only [unpack, unpackExponent_packComponents, unpackMantissa_packComponents,
    unpackSign_packComponents]
  rw [if_neg notAll]
  split
  · split <;> rfl
  · rfl

theorem isFinite_unpack_pack {number : UnpackedFloat} (small : Small number) :
    (unpack .binary64 (pack .binary64 number)).isFinite = true := by
  cases small with
  | zero sign => cases sign <;> rfl
  | finite sign mantissa exponent positive low =>
      have biased : (exponent + (Format.binary64.exponentBias : Nat) + (52 : Nat)).toNat < 2047 := by
        rw [show Format.binary64.exponentBias = 1023 from rfl]
        omega
      have room : ¬ 2 ^ Format.binary64.exponentBits ≤
          (exponent + (Format.binary64.exponentBias : Nat) + (52 : Nat)).toNat + 1 := by
        rw [show 2 ^ Format.binary64.exponentBits = 2048 from rfl]
        omega
      rw [pack, if_neg room]
      split
      · exact isFinite_unpack_packComponents sign biased _
      · exact isFinite_unpack_packComponents sign (show 0 < 2047 by decide) _

theorem log2_div_le (number count : Nat) : (number / 2 ^ count).log2 ≤ number.log2 - count := by
  by_cases room : count ≤ number.log2
  · by_cases nonzero : number = 0
    · simp [nonzero]
    · exact (log2_div_two_pow room nonzero).le
  · have below : number < 2 ^ count :=
      Nat.lt_log2_self.trans_le (Nat.pow_le_pow_right (by decide) (by omega))
    simp [Nat.div_eq_of_lt below]

theorem log2_le_of_le_succ {number other : Nat} (near : number ≤ other + 1) :
    number.log2 ≤ other.log2 + 1 := by
  by_cases nonzero : number = 0
  · simp [nonzero]
  · have below : other < 2 ^ (other.log2 + 1) := Nat.lt_log2_self
    have grows : 2 ^ (other.log2 + 1) < 2 ^ (other.log2 + 2) :=
      Nat.pow_lt_pow_right (by decide) (by omega)
    have := (Nat.log2_lt nonzero).mpr (show number < 2 ^ (other.log2 + 2) by omega)
    omega

theorem roundedMantissa_le (extended : ExtendedMantissa) :
    extended.roundedMantissa ≤ extended.mantissa + 1 := by
  unfold ExtendedMantissa.roundedMantissa
  cases extended.accuracy with
  | exact => exact Nat.le_succ _
  | inexact order =>
      cases order with
      | lt => exact Nat.le_succ _
      | eq =>
          change extended.mantissa + extended.mantissa % 2 ≤ _
          omega
      | gt => exact Nat.le_refl _

theorem shiftToTargetExponent_eq (mantissa : Nat) (exponent : Int) (accuracy : Accuracy) :
    ∃ count : Nat, (count : Int) ≤ max 0 (max ((mantissa.log2 : Int) - 52) (-1074 - exponent)) ∧
      (shiftToTargetExponent .binary64 mantissa exponent accuracy).1.mantissa =
        mantissa / 2 ^ count ∧
      (shiftToTargetExponent .binary64 mantissa exponent accuracy).2 = exponent + count := by
  have same : (ExtendedMantissa.ofMantissaAndAccuracy mantissa accuracy).mantissa = mantissa := by
    cases accuracy with
    | exact => rfl
    | inexact order => cases order <;> rfl
  refine ⟨_, ?_, by rw [shiftToTargetExponent, shiftToExponent, mantissa_shiftRight, same], rfl⟩
  simp only [Format.targetExponent, totalExponent, Format.mantissaBits, Format.minExponent]
  norm_num
  omega

theorem roundWithAccuracy_small (sign : Sign) {mantissa : Nat} {exponent : Int}
    (accuracy : Accuracy) (low : exponent ≤ 970) (size : mantissa.log2 + exponent ≤ 1022) :
    Small (roundWithAccuracy .binary64 sign mantissa exponent accuracy) := by
  obtain ⟨count, few, first, raised⟩ := shiftToTargetExponent_eq mantissa exponent accuracy
  unfold roundWithAccuracy
  generalize shiftToTargetExponent .binary64 mantissa exponent accuracy = shifted at first raised
  obtain ⟨extended, shiftedExponent⟩ := shifted
  simp only at first raised ⊢
  have shrunk := log2_div_le mantissa count
  have rounded := log2_le_of_le_succ (roundedMantissa_le extended)
  rw [first] at rounded
  -- Rounding up may have filled one bit too many, so there is a second shift.
  obtain ⟨again, fewAgain, _, raisedAgain⟩ :=
    shiftToTargetExponent_eq extended.roundedMantissa shiftedExponent .exact
  generalize shiftToTargetExponent .binary64 extended.roundedMantissa shiftedExponent .exact =
    shifted at raisedAgain
  obtain ⟨final, finalExponent⟩ := shifted
  simp only at raisedAgain ⊢
  split
  · exact .zero sign
  · exact .finite _ _ _ _ (by omega)

/-- What is stored as a finite number has a mantissa of 53 bits and a low exponent. -/
theorem bounds_of_unpack {bits : BitVec Format.binary64.numBits} {sign : Sign} {mantissa : Nat}
    {exponent : Int}
    {positive : 0 < mantissa}
    (stored : unpack .binary64 bits = .finite sign mantissa exponent positive) :
    mantissa.log2 ≤ 52 ∧ exponent ≤ 971 := by
  unfold unpack at stored
  simp only [show Format.binary64.exponentBias = 1023 from rfl] at stored
  have width : (unpackMantissa bits).toNat < 2 ^ 52 := BitVec.isLt _
  split at stored
  · split at stored <;> cases stored
  · next notAll =>
    have field : (unpackExponent bits).toNat < 2047 := by
      have below : (unpackExponent bits).toNat < 2 ^ 11 := BitVec.isLt _
      have other : (unpackExponent bits).toNat ≠ 2047 := fun same =>
        notAll (BitVec.eq_of_toNat_eq same)
      omega
    split at stored
    · next subnormal =>
      split at stored
      · cases stored
      · cases stored
        have least : (unpackExponent bits).toNat = 0 := congrArg BitVec.toNat subnormal
        have := (Nat.log2_lt positive.ne').mpr width
        exact ⟨by omega, by omega⟩
    · cases stored
      exact ⟨(log2_one_append _).le, by omega⟩

theorem log2_div_le_sub (number : Nat) {divisor : Nat} (nonzero : divisor ≠ 0) :
    (number / divisor).log2 ≤ number.log2 - divisor.log2 := by
  refine le_trans ?_ (log2_div_le number divisor.log2)
  have fewer : number / divisor ≤ number / 2 ^ divisor.log2 :=
    Nat.div_le_div_left (Nat.log2_self_le nonzero) (Nat.two_pow_pos _)
  by_cases gone : number / divisor = 0
  · simp [gone]
  · have below := (Nat.log2_self_le gone).trans fewer
    have kept : number / 2 ^ divisor.log2 ≠ 0 := fun none => gone (Nat.le_zero.mp (none ▸ fewer))
    exact (Nat.le_log2 kept).mpr below

/-- Numbers of at least eight, with a full mantissa where they are finite. -/
inductive Huge : UnpackedFloat → Prop
  | infinity : Huge (.infinity .positive)
  | finite (mantissa : Nat) (exponent : Int) (positive : 0 < mantissa)
      (full : mantissa.log2 = 52) (high : -49 ≤ exponent) :
      Huge (.finite .positive mantissa exponent positive)

/-- A number stays as small as it is when it is divided by a huge one. -/
theorem div_small {number divisor : UnpackedFloat} (finite : number.isFinite = true)
    (bounds : ∀ sign mantissa exponent positive,
      number = .finite sign mantissa exponent positive → mantissa.log2 ≤ 52 ∧ exponent ≤ 971)
    (huge : Huge divisor) : Small (UnpackedFloat.div .binary64 number divisor) := by
  cases number with
  | notANumber => cases finite
  | infinity sign => cases finite
  | zero sign => cases huge <;> exact .zero _
  | finite sign other larger nonzero =>
      obtain ⟨width, low⟩ := bounds sign other larger nonzero rfl
      cases huge with
      | infinity => exact .zero _
      | finite mantissa exponent positive full high =>
          simp only [UnpackedFloat.div, divCore, Format.targetExponent, totalExponent,
            Format.mantissaBits, Format.minExponent, full]
          generalize placed : min (larger - exponent) _ = target
          have shifted :=
            log2_div_le_sub (other <<< (larger - exponent - target).toNat) positive.ne'
          rw [log2_shiftLeft _ nonzero.ne', full] at shifted
          refine roundWithAccuracy_small _ _ ?_ ?_
          · omega
          · omega

theorem unpack_pack_huge {number : UnpackedFloat} (huge : Huge number) :
    Huge (unpack .binary64 (pack .binary64 number)) := by
  cases huge with
  | infinity =>
      rw [pack, unpack_packedInfinity]
      exact .infinity
  | finite mantissa exponent positive full high =>
      obtain same | same :=
        unpack_pack_full .positive positive full (show -52 ≤ exponent by omega)
      · rw [same]
        exact .infinity
      · rw [same]
        exact .finite _ _ _ full high

theorem ofScientific_huge {exponent : Nat} (positive : 0 < exponent) (room : exponent ≤ 2048) :
    Huge (UnpackedFloat.ofScientific .binary64 1 exponent) := by
  have wide : Format.binary64.mantissaBits = 53 := rfl
  simp only [UnpackedFloat.ofScientific, wide]
  rw [dif_neg (by decide), if_neg (by omega), if_neg (by omega), if_pos (by omega)]
  have size : 56 ≤ (1 <<< 53 * 10 ^ (exponent : Int).toNat).log2 := by
    have least : 10 ≤ 10 ^ (exponent : Int).toNat := Nat.le_self_pow (by omega) 10
    have product : 1 <<< 53 * 10 ^ (exponent : Int).toNat ≠ 0 := by
      rw [Nat.shiftLeft_eq]
      positivity
    refine (Nat.le_log2 product).mpr ?_
    calc 2 ^ 56 ≤ 1 <<< 53 * 10 := by decide
      _ ≤ 1 <<< 53 * 10 ^ (exponent : Int).toNat := Nat.mul_le_mul_left _ least
  obtain ⟨rounded, raised, nonzero, same, full, above⟩ := roundWithAccuracy_full .positive .exact
    (show 52 ≤ (1 <<< 53 * 10 ^ (exponent : Int).toNat).log2 by omega)
    (show 0 ≤ ((1 <<< 53 * 10 ^ (exponent : Int).toNat).log2 : Int) + (-53 + 0) by omega)
  change Huge (roundWithAccuracy .binary64 .positive (1 <<< 53 * 10 ^ (exponent : Int).toNat)
    (-53 + 0) .exact)
  rw [same]
  exact .finite _ _ _ full (by omega)

end DecisionGraph.Rounding

namespace DecisionGraph

open Float.Model (Format UnpackedFloat)
open Rounding

theorem small_of_isFinite {number : Float} (finite : number.isFinite = true) :
    Small number.toModel.unpack := by
  have finite : number.toModel.unpack.isFinite = true := finite
  cases stored : number.toModel.unpack with
  | notANumber | infinity =>
      rw [stored] at finite
      cases finite
  | zero sign => exact .zero sign
  | finite sign mantissa exponent positive =>
      exact .finite _ _ _ positive (bounds_of_unpack stored).2

theorem small_neg {number : UnpackedFloat} (small : Small number) : Small number.neg := by
  cases small with
  | zero sign => exact .zero _
  | finite sign mantissa exponent positive low => exact .finite _ _ _ positive low

theorem isFinite_neg {number : Float} (finite : number.isFinite = true) :
    (-number).isFinite = true :=
  isFinite_unpack_pack (small_neg (small_of_isFinite finite))

theorem round_small (sign : Float.Model.UnpackedFloat.Sign) {mantissa : Nat}
    (nonzero : mantissa ≠ 0) (size : mantissa.log2 ≤ 1022) :
    Small (UnpackedFloat.round .binary64 sign mantissa 0) := by
  simp only [UnpackedFloat.round, UnpackedFloat.decreaseExponent]
  refine roundWithAccuracy_small sign .exact ?_ ?_
  · omega
  · rw [log2_shiftLeft _ nonzero]
    omega

theorem ofUInt64_small (number : UInt64) : Small (UnpackedFloat.ofUInt64 .binary64 number) := by
  unfold UnpackedFloat.ofUInt64 UnpackedFloat.ofNat UnpackedFloat.ofInt UnpackedFloat.normalize
  split
  · next below => exact absurd (Int.compare_eq_lt.mp below) (by omega)
  · exact .zero _
  · next above =>
    have positive := Int.compare_eq_gt.mp above
    have nonzero : (number.toNat : Int).toNat ≠ 0 := by omega
    have := (Nat.log2_lt nonzero).mpr (show (number.toNat : Int).toNat < 2 ^ 64 from number.toNat_lt)
    exact round_small _ nonzero (by omega)

theorem isFinite_toFloat (number : UInt64) : number.toFloat.isFinite = true :=
  isFinite_unpack_pack (ofUInt64_small number)

theorem tenTo_huge {exponent : Nat} (positive : 0 < exponent) (room : exponent ≤ 308) :
    Huge (tenTo exponent).toModel.unpack := by
  by_cases listed : exponent ≤ 22
  · interval_cases exponent <;> exact .finite _ _ _ rfl (by decide)
  · unfold tenTo Float.ofScientific
    rw [dif_neg (by omega)]
    exact unpack_pack_huge (ofScientific_huge positive (by omega))

theorem isFinite_div_tenTo {number : Float} {exponent : Nat} (finite : number.isFinite = true)
    (positive : 0 < exponent) (room : exponent ≤ 308) :
    (number / tenTo exponent).isFinite = true :=
  isFinite_unpack_pack
    (div_small finite (fun _ _ _ _ stored => bounds_of_unpack stored) (tenTo_huge positive room))

theorem isFinite_scaleByTen {number scaled : Float} {exponent : Int}
    (finite : number.isFinite = true) (reached : scaleByTen? number exponent = some scaled) :
    scaled.isFinite = true := by
  fun_induction scaleByTen? number exponent with
  | case1 number exponent room upwards product kept => exact Option.some.inj reached ▸ kept
  | case2 | case6 => cases reached
  | case3 number exponent room downwards =>
      cases reached
      exact isFinite_div_tenTo finite (by omega) room
  | case4 =>
      cases reached
      exact finite
  | case5 number exponent far nonzero downwards ih =>
      exact ih (isFinite_div_tenTo finite (by decide) (by decide)) reached

/-- A number as it is held: an integer of 64 bits, with or without a sign, or a finite real. -/
def Number.Held : Number → Prop
  | .integer value => -(2 ^ 63) ≤ value ∧ value < 2 ^ 64
  | .real value => value.isFinite = true

theorem Number.Held.isFinite_toFloat {number : Number} (held : number.Held) :
    number.toFloat.isFinite = true := by
  cases number with
  | real value => exact held
  | integer value =>
      have finite := DecisionGraph.isFinite_toFloat (UInt64.ofNat value.natAbs)
      simp only [toFloat]
      generalize (UInt64.ofNat value.natAbs).toFloat = magnitude at finite ⊢
      split
      · exact isFinite_neg finite
      · exact finite

/-- What the parts of a number stand for is held. -/
theorem Scan.held_of_numberOf {negative : Bool} {whole : List Nat} {fraction : Option (List Nat)}
    {exponent : Option Int} {number : Number}
    (stands : numberOf? negative whole fraction exponent = some number) : number.Held := by
  unfold numberOf? at stands
  have wide : Nat.pow 2 64 = 2 ^ 64 := rfl
  have narrow : Nat.pow 2 63 = 2 ^ 63 := rfl
  simp only [wide, narrow] at stands
  generalize whole.foldl (fun n digit => n * 10 + digit) 0 = magnitude at stands
  split at stands
  · next fits =>
    cases stands
    obtain ⟨_, _, below⟩ := fits
    exact ⟨by omega, by omega⟩
  · split at stands
    · next fits =>
      cases stands
      obtain ⟨_, _, positive, below⟩ := fits
      exact ⟨by omega, by omega⟩
    · obtain ⟨value, scaled, rfl⟩ := Option.map_eq_some_iff.mp stands
      have finite : value.isFinite = true := isFinite_scaleByTen (isFinite_toFloat _) scaled
      cases negative with
      | false => exact finite
      | true => exact isFinite_neg finite

end DecisionGraph

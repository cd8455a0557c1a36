import DecisionGraph.Double
import Mathlib

/-!
Numbers and their encodings. A number has one encoding, and zero, which has a sign, has two; only
what is no number has more. What is known of `Float` comes with the library as a whole and with no
smaller part of it.
-/

namespace DecisionGraph.Double

open Float.Model (UnpackedFloat)

@[simp] theorem toFloat_ofFloat (value : Float) : (ofFloat value).toFloat = value :=
  Float.ofBits_toBits value

theorem ofFloat_inj {value other : Float} : ofFloat value = ofFloat other ↔ value = other := by
  rw [ofFloat, ofFloat, mk.injEq, Float.toBits_inj]

variable {number : Double}

theorem ofFloat_toFloat (isNumber : number.toFloat ≠ .nan) : ofFloat number.toFloat = number := by
  have packed := @UnpackedFloat.pack_unpack .binary64 number.bits.toBitVec (by decide)
  split at packed
  · have nothing : number.toFloat = .nan := Float.toBits_inj.mp (UInt64.toBitVec_inj.mp packed)
    exact absurd nothing isNumber
  · exact congrArg mk (UInt64.toBitVec_inj.mp packed)

theorem ofFloat_toFloat_of_isFinite (finite : number.toFloat.isFinite = true) :
    ofFloat number.toFloat = number := by
  apply ofFloat_toFloat
  intro nothing
  rw [nothing] at finite
  exact absurd finite (by decide)

theorem toFloat_beq_zero_iff :
    (number.toFloat == 0) = true ↔ number = ofFloat 0 ∨ number = ofFloat (-0) := by
  constructor
  · intro isZero
    obtain ⟨isNumber, -, same⟩ := Float.beq_iff_ne_nan_and_eq.mp isZero
    have kept := ofFloat_toFloat isNumber
    rcases same with same | ⟨same, -⟩ | ⟨same, -⟩
    · exact .inl (same ▸ kept).symm
    · exact .inl (same ▸ kept).symm
    · exact .inr (same ▸ kept).symm
  · intro isZero
    rcases isZero with rfl | rfl
    · rw [toFloat_ofFloat]
      decide
    · rw [toFloat_ofFloat]
      decide

end DecisionGraph.Double

import DecisionGraph.Decimal.Shortest
import Mathlib.Tactic.FieldSimp
import Mathlib.Tactic.Linarith
import Mathlib.Tactic.LinearCombination
import Mathlib.Tactic.Ring

/-!
The decimal that is written for a number rounds to that number and to no other. What rounds to a
number is an interval around it; the intervals of neighbours meet in one point, and a tie goes to
the even one of them.
-/

namespace DecisionGraph

def Decimal.value (d : Decimal) : ℚ := d.digits * 10 ^ d.exponent

namespace Binary

/-- A quarter of a unit of the last binary place. -/
def quarter (b : Binary) : ℚ := 2 ^ (b.exponent - 2)

def low (b : Binary) : ℚ := (4 * b.coefficient - if b.narrowBelow then 1 else 2) * b.quarter

def high (b : Binary) : ℚ := (4 * b.coefficient + 2) * b.quarter

/-- The value rounds to `b`. -/
def Covers (b : Binary) (value : ℚ) : Prop :=
  if b.coefficient % 2 = 0 then b.low ≤ value ∧ value ≤ b.high else b.low < value ∧ value < b.high

theorem quarter_pos (b : Binary) : 0 < b.quarter := zpow_pos (by norm_num) _

theorem low_lt_high (b : Binary) : b.low < b.high := by
  refine mul_lt_mul_of_pos_right ?_ b.quarter_pos
  split <;> linarith

/-! Neighbours. -/

/-- The number with the given bits behind its sign. -/
def ofMagnitude (bits : Nat) : Binary :=
  let fraction : Nat := bits % 2 ^ 52
  let field : Nat := bits / 2 ^ 52
  if field = 0 then ⟨fraction, -1074, false⟩
  else ⟨2 ^ 52 + fraction, (field : Int) - 1075, fraction = 0 ∧ 1 < field⟩

theorem ofFloat_eq_ofMagnitude (x : Float) : ofFloat x = ofMagnitude (x.toBits.toNat % 2 ^ 63) := by
  have fraction : x.toBits.toNat % 2 ^ 63 % 2 ^ 52 = x.toBits.toNat % Nat.pow 2 52 := by
    rw [show Nat.pow 2 52 = 2 ^ 52 from rfl]
    omega
  have field : x.toBits.toNat % 2 ^ 63 / 2 ^ 52 = x.toBits.toNat / Nat.pow 2 52 % Nat.pow 2 11 := by
    rw [show Nat.pow 2 52 = 2 ^ 52 from rfl, show Nat.pow 2 11 = 2 ^ 11 from rfl]
    omega
  rw [ofMagnitude, fraction, field]
  rfl

theorem ofMagnitude_of_lt {bits : Nat} (small : bits < 2 ^ 52) :
    ofMagnitude bits = ⟨bits, -1074, false⟩ := by
  have fraction : bits % 2 ^ 52 = bits := Nat.mod_eq_of_lt small
  have field : bits / 2 ^ 52 = 0 := Nat.div_eq_of_lt small
  rw [ofMagnitude, fraction, field]
  rfl

theorem ofMagnitude_of_le {bits : Nat} (full : 2 ^ 52 ≤ bits) :
    ofMagnitude bits = ⟨2 ^ 52 + bits % 2 ^ 52, (bits / 2 ^ 52 : Nat) - 1075,
      bits % 2 ^ 52 = 0 ∧ 1 < bits / 2 ^ 52⟩ := by
  have field : bits / 2 ^ 52 ≠ 0 := by omega
  rw [ofMagnitude]
  exact if_neg field

theorem coefficient_ofMagnitude_mod_two (bits : Nat) :
    (ofMagnitude bits).coefficient % 2 = bits % 2 := by
  rcases Nat.lt_or_ge bits (2 ^ 52) with small | full
  · rw [ofMagnitude_of_lt small]
  · rw [ofMagnitude_of_le full]
    simp only
    omega

theorem low_eq_high_of_next {b other : Binary} (exponent : other.exponent = b.exponent)
    (coefficient : other.coefficient = b.coefficient + 1) (wide : other.narrowBelow = false) :
    other.low = b.high := by
  have quarter : other.quarter = b.quarter := by rw [quarter, quarter, exponent]
  rw [low, high, quarter, coefficient, wide]
  push_cast
  ring

theorem low_eq_high_of_carry {b other : Binary} (exponent : other.exponent = b.exponent + 1)
    (coefficient : 2 * other.coefficient = b.coefficient + 1) (narrow : other.narrowBelow = true) :
    other.low = b.high := by
  have quarter : other.quarter = 2 * b.quarter := by
    rw [quarter, quarter, exponent, show b.exponent + 1 - 2 = b.exponent - 2 + 1 by ring,
      zpow_add_one₀ (by norm_num), mul_comm]
  have doubled : (2 * other.coefficient : ℚ) = b.coefficient + 1 := by exact_mod_cast coefficient
  rw [low, high, quarter, narrow, if_pos rfl]
  linear_combination 4 * b.quarter * doubled

/-- What rounds to a number starts where what rounds to its neighbour below ends. -/
theorem low_ofMagnitude_succ (bits : Nat) :
    (ofMagnitude (bits + 1)).low = (ofMagnitude bits).high := by
  rcases Nat.lt_or_ge bits (2 ^ 52) with small | full
  · rw [ofMagnitude_of_lt small]
    rcases Nat.lt_or_ge (bits + 1) (2 ^ 52) with less | least
    · rw [ofMagnitude_of_lt less]
      exact low_eq_high_of_next rfl rfl rfl
    · obtain rfl : bits = 2 ^ 52 - 1 := by omega
      exact low_eq_high_of_next rfl rfl rfl
  · rw [ofMagnitude_of_le full, ofMagnitude_of_le (Nat.le_succ_of_le full)]
    by_cases carry : (bits + 1) % 2 ^ 52 = 0
    · refine low_eq_high_of_carry ?_ ?_ ?_
      · simp only
        omega
      · simp only
        omega
      · have field : 1 < (bits + 1) / 2 ^ 52 := by omega
        exact decide_eq_true ⟨carry, field⟩
    · refine low_eq_high_of_next ?_ ?_ ?_
      · simp only
        omega
      · simp only
        omega
      · exact decide_eq_false fun both => carry both.1

theorem high_le_low {bits other : Nat} (less : bits < other) :
    (ofMagnitude bits).high ≤ (ofMagnitude other).low := by
  induction other, less using Nat.le_induction with
  | base => exact (low_ofMagnitude_succ bits).ge
  | succ other _ ih =>
      rw [low_ofMagnitude_succ]
      exact ih.trans (low_lt_high _).le

/-- No value rounds to two numbers. -/
theorem not_covers_of_lt {bits other : Nat} (less : bits < other) {value : ℚ}
    (covered : (ofMagnitude bits).Covers value) : ¬ (ofMagnitude other).Covers value := by
  intro also
  have below : value ≤ (ofMagnitude bits).high := by
    unfold Covers at covered
    split at covered
    · exact covered.2
    · exact covered.2.le
  have above : (ofMagnitude other).low ≤ value := by
    unfold Covers at also
    split at also
    · exact also.1
    · exact also.1.le
  obtain rfl | far : other = bits + 1 ∨ bits + 1 < other := by omega
  · -- One of two neighbours is odd, and the point where they meet is not its own.
    rw [low_ofMagnitude_succ] at above
    have meet := le_antisymm below above
    have parity := coefficient_ofMagnitude_mod_two bits
    have otherParity := coefficient_ofMagnitude_mod_two (bits + 1)
    unfold Covers at covered also
    rw [low_ofMagnitude_succ] at also
    split at covered
    · rw [if_neg (by omega)] at also
      exact also.1.ne' meet
    · exact covered.2.ne meet
  · have beyond := high_le_low far
    have further := low_lt_high (ofMagnitude (bits + 1))
    rw [low_ofMagnitude_succ] at further
    linarith

theorem eq_of_covers {bits other : Nat} {value : ℚ} (covered : (ofMagnitude bits).Covers value)
    (also : (ofMagnitude other).Covers value) : bits = other := by
  rcases Nat.lt_trichotomy bits other with less | same | more
  · exact absurd also (not_covers_of_lt less covered)
  · exact same
  · exact absurd covered (not_covers_of_lt more also)

/-! What is written. -/

theorem pow_toNat {base : ℚ} (nonzero : base ≠ 0) (exponent : ℤ) :
    base ^ exponent.toNat = base ^ exponent * base ^ (-exponent).toNat := by
  rw [← zpow_natCast, ← zpow_natCast, ← zpow_add₀ nonzero]
  congr 1
  omega

/-- A point of a grid is compared at a scale at which everything is whole. -/
theorem exists_scale (b : Binary) (grid : Int) :
    ∃ scale : ℚ, 0 < scale ∧ (b.unitScale grid : ℚ) = b.quarter * scale ∧
      (b.gridScale grid : ℚ) = 10 ^ grid * scale := by
  refine ⟨2 ^ (2 - b.exponent).toNat * 10 ^ (-grid).toNat, by positivity, ?_, ?_⟩
  · have two := pow_toNat (two_ne_zero (α := ℚ)) (b.exponent - 2)
    rw [neg_sub] at two
    simp only [unitScale, Nat.pow_eq, quarter]
    push_cast
    rw [two]
    ring
  · have ten := pow_toNat (show (10 : ℚ) ≠ 0 by norm_num) grid
    simp only [gridScale, Nat.pow_eq]
    push_cast
    rw [ten]
    ring

theorem covers_of_roundsTo {b : Binary} (positive : 0 < b.coefficient) {grid : Int} {steps : Nat}
    (rounds : b.roundsTo grid steps = true) : b.Covers (Decimal.mk steps grid).value := by
  obtain ⟨scale, scalePositive, unit, point⟩ := b.exists_scale grid
  have low : (((4 * b.coefficient - if b.narrowBelow then 1 else 2) * b.unitScale grid : Nat) : ℚ) =
      b.low * scale := by
    have room : (if b.narrowBelow then 1 else 2) ≤ 4 * b.coefficient := by
      split <;> omega
    rw [Nat.cast_mul, Nat.cast_sub room, unit, Binary.low]
    push_cast
    ring
  have high : (((4 * b.coefficient + 2) * b.unitScale grid : Nat) : ℚ) = b.high * scale := by
    rw [Nat.cast_mul, unit, Binary.high]
    push_cast
    ring
  have value : ((steps * b.gridScale grid : Nat) : ℚ) = (Decimal.mk steps grid).value * scale := by
    rw [Nat.cast_mul, point, Decimal.value]
    ring
  unfold roundsTo at rounds
  unfold Covers
  simp only at rounds
  split at rounds
  · next even =>
    have rounds := of_decide_eq_true rounds
    rw [if_pos even]
    rw [← Nat.cast_le (α := ℚ), ← Nat.cast_le (α := ℚ), low, high, value,
      mul_le_mul_iff_left₀ scalePositive, mul_le_mul_iff_left₀ scalePositive] at rounds
    exact rounds
  · next odd =>
    have rounds := of_decide_eq_true rounds
    rw [if_neg odd]
    rw [← Nat.cast_lt (α := ℚ), ← Nat.cast_lt (α := ℚ), low, high, value,
      mul_lt_mul_iff_left₀ scalePositive, mul_lt_mul_iff_left₀ scalePositive] at rounds
    exact rounds

theorem roundsTo_of_onGrid? {tie : Tie} {b : Binary} {grid : Int} {steps : Nat}
    (found : b.onGrid? tie grid = some steps) : b.roundsTo grid steps = true := by
  unfold onGrid? at found
  simp only at found
  split at found
  · next below _ =>
    cases found
    exact below
  · next _ above =>
    cases found
    exact above
  · cases found
  · next below above =>
    have chosen (point : Nat) : tie.choose point = point ∨ tie.choose point = point + 1 := by
      cases tie with
      | even => simp only [Tie.choose]; omega
      | upper => exact .inr rfl
    split at found
    · cases found
      exact below
    · split at found
      · cases found
        exact above
      · cases found
        rcases chosen _ with same | same
        · rw [same]
          exact below
        · rw [same]
          exact above

theorem value_exact (b : Binary) : b.exact.value = 4 * b.coefficient * b.quarter := by
  have grid : min b.exponent 0 = -((-b.exponent).toNat : ℤ) := by omega
  have two := pow_toNat (two_ne_zero (α := ℚ)) b.exponent
  have ten : (10 : ℚ) ^ (-b.exponent).toNat =
      2 ^ (-b.exponent).toNat * 5 ^ (-b.exponent).toNat := by
    rw [← mul_pow]
    norm_num
  have quarter : 4 * b.quarter = 2 ^ b.exponent := by
    rw [Binary.quarter, zpow_sub₀ two_ne_zero]
    norm_num
    ring
  simp only [Decimal.value, exact, finestGrid, Nat.pow_eq, grid, zpow_neg, zpow_natCast]
  push_cast
  rw [two, ten, mul_right_comm 4, quarter]
  field_simp

theorem covers_exact (b : Binary) : b.Covers b.exact.value := by
  have quarter := b.quarter_pos
  have above : b.low < b.exact.value := by
    rw [value_exact, low]
    refine mul_lt_mul_of_pos_right ?_ quarter
    split <;> linarith
  have below : b.exact.value < b.high := by
    rw [value_exact, high]
    exact mul_lt_mul_of_pos_right (by linarith) quarter
  unfold Covers
  split
  · exact ⟨above.le, below.le⟩
  · exact ⟨above, below⟩

theorem covers_shortestWithin (tie : Tie) {b : Binary} (positive : 0 < b.coefficient)
    (finer : Nat) : b.Covers (b.shortestWithin tie finer).value := by
  induction finer with
  | zero => exact b.covers_exact
  | succ finer ih =>
      unfold shortestWithin
      simp only
      split
      · next found => exact covers_of_roundsTo positive (roundsTo_of_onGrid? found)
      · exact ih

/-- The decimal that is written for a number rounds to the number. -/
theorem covers_ofFloat (tie : Tie) (x : Float) :
    (ofFloat x).Covers (Decimal.ofFloat tie x).value := by
  unfold Decimal.ofFloat
  simp only
  split
  · next zero =>
    have quarter := (ofFloat x).quarter_pos
    rw [Covers, if_pos (by omega), low, high, zero, Decimal.value]
    constructor
    · split <;> norm_num <;> linarith
    · norm_num
      linarith
  · next positive => exact covers_shortestWithin tie (Nat.pos_of_ne_zero positive) _

end Binary

/-- Numbers with one decimal differ at most in their signs. -/
theorem magnitude_eq_of_value_eq {tie other : Tie} {x y : Float}
    (same : (Decimal.ofFloat tie x).value = (Decimal.ofFloat other y).value) :
    x.toBits.toNat % 2 ^ 63 = y.toBits.toNat % 2 ^ 63 := by
  have covered := Binary.covers_ofFloat tie x
  have also := Binary.covers_ofFloat other y
  rw [Binary.ofFloat_eq_ofMagnitude] at covered also
  rw [same] at covered
  exact Binary.eq_of_covers covered also

end DecisionGraph

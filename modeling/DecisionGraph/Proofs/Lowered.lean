import DecisionGraph.Text.Label
import Mathlib.Data.List.Basic

/-!
What lower-casing makes of one character. A letter or number becomes one letter or number that is
its own lower-case form. The dotted capital I alone becomes two characters, and the second of them,
a combining dot, is neither a letter nor a number.
-/

namespace DecisionGraph

namespace CharSet

/-- Whether a set holds all code points from `first` to `last`, read off its changes two at a time:
where the set starts and where it stops. -/
def covers (first last : Nat) : List Nat → Bool
  | start :: stop :: later =>
    bif Nat.ble stop first then covers first last later
    else Nat.ble start first && Nat.blt last stop
  | _ => false

theorem insideAt_of_covers {first last point : Nat} {changes : List Nat}
    (increasing : changes.IsChain (· < ·)) (covered : covers first last changes = true)
    (least : first ≤ point) (most : point ≤ last) : insideAt point changes false = true := by
  fun_induction covers first last changes with
  | case1 start stop later passed ih =>
      rw [List.isChain_cons_cons] at increasing
      have left := Nat.le_of_ble_eq_true passed
      simp only [insideAt, Bool.not_false, Bool.not_true]
      rw [if_neg (by omega), if_neg (by omega)]
      exact ih increasing.2.of_cons covered
  | case2 start stop later passed =>
      rw [Bool.and_eq_true, Nat.ble_eq, Nat.blt_eq] at covered
      simp only [insideAt, Bool.not_false]
      rw [if_neg (by omega), if_pos (by omega)]
  | case3 => cases covered

theorem increasing_alphanumeric : alphanumeric.changes.IsChain (· < ·) := by decide +kernel

end CharSet

namespace CaseRun

variable {run other : CaseRun} {point image : Nat}

/-- The letter at the code point is one of the run. -/
structure Has (run : CaseRun) (point : Nat) : Prop where
  least : run.first ≤ point
  most : point ≤ run.last
  step : (point - run.first) % run.step = 0

/-- The code point of the lower-case form of a letter of the run. -/
def lowered (run : CaseRun) (point : Nat) : Nat := ((point : Int) + run.shift).toNat

/-- Where the table finds a lower-case form, it finds the run of the letter. -/
theorem has_of_lower? {runs : List CaseRun} (found : lower? point runs = some image) :
    ∃ run ∈ runs, run.Has point ∧ run.lowered point = image := by
  induction runs with
  | nil => cases found
  | cons run later ih =>
      unfold lower? at found
      split at found
      · obtain ⟨run, listed, known⟩ := ih found
        exact ⟨run, List.mem_cons_of_mem _ listed, known⟩
      · next reached =>
        split at found
        · next letter =>
          cases found
          exact ⟨run, List.mem_cons_self, ⟨letter.1, Nat.le_of_not_lt reached, letter.2⟩, rfl⟩
        · cases found

/-- Whether no character from `lowest` on in steps up to `highest` is a letter of the run: they lie
apart, or the letters of the run are every second character and the others are those between. -/
def avoids (lowest highest step : Nat) (run : CaseRun) : Bool :=
  Nat.blt highest run.first || Nat.blt run.last lowest ||
    (Nat.beq run.step 2 && (Nat.beq step 2 || Nat.beq lowest highest) &&
      lowest % 2 != run.first % 2)

/-- Whether the lower-case forms of the run are letters or numbers that have no lower-case form
themselves. -/
def isSettled (run : CaseRun) : Bool :=
  match run.lowered run.first, run.lowered run.last with
  | lowest + 1, highest + 1 =>
    (Nat.blt highest 0xD7FF || Nat.ble 0xDFFF lowest && Nat.blt highest 0x10FFFF) &&
      CharSet.covers (lowest + 1) (highest + 1) CharSet.alphanumeric.changes &&
      avoids (lowest + 1) (highest + 1) run.step ⟨0x130, 0x130, 1, 0⟩ &&
      table.all (avoids (lowest + 1) (highest + 1) run.step)
  | _, _ => false

theorem isSettled_table : ∀ run ∈ table, run.isSettled = true := by decide +kernel

section Forms

variable (positive : 0 < run.lowered run.first)

include positive

theorem lowered_eq (least : run.first ≤ point) :
    run.lowered point = run.lowered run.first + (point - run.first) := by
  unfold lowered at positive ⊢
  omega

theorem not_has_of_avoids (has : run.Has point)
    (avoided : avoids (run.lowered run.first) (run.lowered run.last) run.step other = true) :
    ¬ other.Has (run.lowered point) := by
  rintro ⟨alsoLeast, alsoMost, alsoStep⟩
  obtain ⟨least, most, step⟩ := has
  have here := lowered_eq positive least
  have last := lowered_eq positive (Nat.le_trans least most)
  simp only [avoids, Bool.or_eq_true, Bool.and_eq_true, Nat.blt_eq, Nat.beq_eq,
    bne_iff_ne] at avoided
  rcases avoided with (above | below) | ⟨⟨second, alternate | single⟩, between⟩
  · omega
  · omega
  · rw [second] at alsoStep
    rw [alternate] at step
    omega
  · rw [second] at alsoStep
    omega

end Forms

/-- A code point of a letter or number that has no lower-case form. -/
structure Settled (point : Nat) : Prop where
  valid : point.isValidChar
  alphanumeric : CharSet.insideAt point CharSet.alphanumeric.changes false = true
  plain : point ≠ 0x130
  free : ∀ run ∈ table, ¬ run.Has point

theorem settled_lowered (listed : run ∈ table) (has : run.Has point) :
    Settled (run.lowered point) := by
  have settled := isSettled_table run listed
  unfold isSettled at settled
  split at settled
  · next below above lowest highest =>
    rw [← Nat.succ_eq_add_one, ← Nat.succ_eq_add_one, ← lowest, ← highest] at settled
    have positive : 0 < run.lowered run.first := by omega
    have here := lowered_eq positive has.least
    have last := lowered_eq positive (Nat.le_trans has.least has.most)
    have := has.most
    simp only [Bool.and_eq_true, Bool.or_eq_true, Nat.blt_eq, Nat.ble_eq, List.all_eq_true]
      at settled
    obtain ⟨⟨⟨valid, covered⟩, plain⟩, free⟩ := settled
    refine ⟨?_, ?_, ?_, ?_⟩
    · unfold Nat.isValidChar
      omega
    · exact CharSet.insideAt_of_covers CharSet.increasing_alphanumeric covered (by omega) (by omega)
    · intro dotted
      refine not_has_of_avoids positive has plain ?_
      rw [dotted]
      exact ⟨Nat.le_refl _, Nat.le_refl _, rfl⟩
    · exact fun other also => not_has_of_avoids positive has (free other also)
  · cases settled

end CaseRun

theorem toNat_ofNat {point : Nat} (valid : point.isValidChar) :
    (Char.ofNat point).toNat = point := by
  rw [Char.ofNat, dif_pos valid]
  rfl

theorem toLower_eq_ofNat {c : Char} (ascii : c.toNat < 0x80) :
    c.toLower = Char.ofNat (if 0x41 ≤ c.toNat ∧ c.toNat ≤ 0x5A then c.toNat + 32 else c.toNat) := by
  have checked : ∀ point < 0x80, (Char.ofNat point).toLower =
      Char.ofNat (if 0x41 ≤ point ∧ point ≤ 0x5A then point + 32 else point) := by decide
  simpa using checked c.toNat ascii

open CaseRun in
/-- A character is its own lower-case form, or a letter of a run. -/
theorem lowerChar_cases {c : Char} (plain : c ≠ '\u0130') :
    lowerChar c = [c] ∨
      ∃ run ∈ table, run.Has c.toNat ∧ lowerChar c = [Char.ofNat (run.lowered c.toNat)] := by
  unfold lowerChar
  split
  · next ascii =>
    rw [toLower_eq_ofNat ascii]
    split
    · next capital =>
      exact .inr ⟨⟨0x41, 0x5A, 1, 32⟩, List.mem_cons_self, ⟨capital.1, capital.2, Nat.mod_one _⟩, rfl⟩
    · simp
  · split
    · next point found =>
      obtain ⟨run, listed, has, rfl⟩ := has_of_lower? found
      exact .inr ⟨run, listed, has, rfl⟩
    · exact .inl rfl

/-- A letter or number, with one exception, becomes one letter or number that stays as it is. -/
theorem exists_lowerChar {c : Char} (alphanumeric : CharSet.alphanumeric.contains c = true)
    (plain : c ≠ '\u0130') :
    ∃ lowered, lowerChar c = [lowered] ∧ CharSet.alphanumeric.contains lowered = true ∧
      lowered ≠ '\u0130' ∧ lowerChar lowered = [lowered] := by
  rcases lowerChar_cases plain with same | ⟨run, listed, has, lowered⟩
  · exact ⟨c, same, alphanumeric, plain, same⟩
  · have settled := CaseRun.settled_lowered listed has
    have point : (Char.ofNat (run.lowered c.toNat)).toNat = run.lowered c.toNat :=
      toNat_ofNat settled.valid
    have plain : Char.ofNat (run.lowered c.toNat) ≠ '\u0130' := fun dotted =>
      settled.plain (by rw [← point, dotted]; rfl)
    refine ⟨_, lowered, ?_, plain, ?_⟩
    · rw [CharSet.contains, point]
      exact settled.alphanumeric
    · rcases lowerChar_cases plain with same | ⟨other, also, hasToo, -⟩
      · exact same
      · rw [point] at hasToo
        exact absurd hasToo (settled.free other also)

end DecisionGraph

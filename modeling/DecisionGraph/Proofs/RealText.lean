import DecisionGraph.Proofs.ReadBack
import DecisionGraph.Proofs.ShortestDecimal

/-!
The text of a number stands for one number. A decimal can be read off its text however it is laid
out, so two numbers with one text have one decimal, and that rounds to one number only.
-/

namespace DecisionGraph

/-- What the digits of a text stand for. -/
def digitsValue (text : List Char) : Nat := Nat.ofDigitChars 10 text 0

/-- The exponent that a text gives from its mark on. -/
def markedExponent : List Char → Int
  | 'e' :: '-' :: digits => -digitsValue digits
  | 'e' :: _ :: digits => digitsValue digits
  | _ => 0

/-- The value that a text without a sign gives: its digits, scaled by the places behind the point
and by the exponent. -/
def textValue (text : List Char) : ℚ :=
  let mantissa := text.takeWhile (· ≠ 'e')
  let whole := mantissa.takeWhile (· ≠ '.')
  let fraction := (mantissa.dropWhile (· ≠ '.')).drop 1
  digitsValue (whole ++ fraction) *
    10 ^ (markedExponent (text.dropWhile (· ≠ 'e')) - fraction.length)

def Digital (text : List Char) : Prop := ∀ c ∈ text, c.isDigit = true

/-- Nothing, or an exponent behind its mark. -/
def Marked (text : List Char) : Prop := ∀ c ∈ text.head?, c = 'e'

theorem digital_decimalText (n : Nat) : Digital (decimalText n) := fun _ =>
  Scan.isDigit_of_mem_decimalText

theorem digital_zeros (count : Nat) : Digital (List.replicate count '0') := by
  intro c listed
  rw [List.eq_of_mem_replicate listed]
  rfl

namespace Digital

variable {text more : List Char}

theorem append (digital : Digital text) (also : Digital more) : Digital (text ++ more) :=
  List.forall_mem_append.mpr ⟨digital, also⟩

theorem ne (digital : Digital text) (mark : Char) (other : mark.isDigit = false) :
    ∀ c ∈ text, decide (c ≠ mark) = true := by
  intro c listed
  refine decide_eq_true fun same => ?_
  rw [← same, digital c listed] at other
  cases other

end Digital

theorem digitsValue_decimalText (n : Nat) : digitsValue (decimalText n) = n :=
  Nat.ofDigitChars_ten_toDigits

theorem digitsValue_append (text more : List Char) :
    digitsValue (text ++ more) = 10 ^ more.length * digitsValue text + digitsValue more := by
  rw [digitsValue, Nat.ofDigitChars_append, Nat.ofDigitChars_eq_ofDigitChars_zero]
  rfl

theorem digitsValue_zeros (count : Nat) : digitsValue (List.replicate count '0') = 0 :=
  Nat.ofDigitChars_replicate_zero

theorem digitsValue_zero : digitsValue ['0'] = 0 := digitsValue_zeros 1

namespace Marked

variable {tail : List Char} (marked : Marked tail)

include marked

theorem takeWhile_append {mantissa : List Char} (plain : ∀ c ∈ mantissa, decide (c ≠ 'e') = true) :
    (mantissa ++ tail).takeWhile (· ≠ 'e') = mantissa := by
  rw [List.takeWhile_append_of_pos plain]
  cases tail with
  | nil => simp
  | cons c tail =>
      cases marked c rfl
      simp

theorem dropWhile_append {mantissa : List Char} (plain : ∀ c ∈ mantissa, decide (c ≠ 'e') = true) :
    (mantissa ++ tail).dropWhile (· ≠ 'e') = tail := by
  rw [List.dropWhile_append_of_pos plain]
  cases tail with
  | nil => rfl
  | cons c tail =>
      cases marked c rfl
      rfl

theorem textValue_whole {whole : List Char} (digital : Digital whole) :
    textValue (whole ++ tail) = digitsValue whole * 10 ^ markedExponent tail := by
  have plain := digital.ne 'e' rfl
  have pointless := digital.ne '.' rfl
  have fraction : whole.dropWhile (· ≠ '.') = [] := List.dropWhile_eq_nil_iff.mpr pointless
  have all : whole.takeWhile (· ≠ '.') = whole := List.takeWhile_eq_self_iff.mpr pointless
  simp only [textValue, marked.takeWhile_append plain, marked.dropWhile_append plain, fraction, all]
  simp

theorem textValue_pointed {whole fraction : List Char} (digital : Digital whole)
    (also : Digital fraction) :
    textValue (whole ++ '.' :: fraction ++ tail) =
      digitsValue (whole ++ fraction) * 10 ^ (markedExponent tail - fraction.length) := by
  have plain : ∀ c ∈ whole ++ '.' :: fraction, decide (c ≠ 'e') = true := by
    refine List.forall_mem_append.mpr ⟨digital.ne _ rfl, ?_⟩
    exact List.forall_mem_cons.mpr ⟨rfl, also.ne _ rfl⟩
  have pointless := digital.ne '.' rfl
  simp only [textValue, marked.takeWhile_append plain, marked.dropWhile_append plain,
    List.takeWhile_append_of_pos pointless, List.dropWhile_append_of_pos pointless]
  simp

end Marked

theorem marked_nil : Marked [] := nofun

namespace RealStyle

theorem textValue_withPoint {digits : List Char} (digital : Digital digits) (places : Nat) :
    textValue (withPoint digits places) = digitsValue digits * 10 ^ (-places : ℤ) := by
  unfold withPoint
  split
  · next inside =>
    have whole : Digital (digits.take (digits.length - places)) :=
      fun c listed => digital c (List.mem_of_mem_take listed)
    have fraction : Digital (digits.drop (digits.length - places)) :=
      fun c listed => digital c (List.mem_of_mem_drop listed)
    have value := marked_nil.textValue_pointed whole fraction
    rw [List.append_nil, List.take_append_drop, List.length_drop] at value
    rw [value]
    congr 2
    simp only [markedExponent]
    omega
  · next outside =>
    have fraction := (digital_zeros (places - digits.length)).append digital
    have zero : Digital ['0'] := by simp [Digital]
    have value := marked_nil.textValue_pointed zero fraction
    rw [List.append_nil] at value
    have digitsOf : digitsValue (['0'] ++ (List.replicate (places - digits.length) '0' ++ digits)) =
        digitsValue digits := by
      rw [digitsValue_append, digitsValue_append, digitsValue_zeros, digitsValue_zero]
      simp
    rw [digitsOf] at value
    rw [List.append_assoc]
    refine value.trans ?_
    congr 2
    simp only [markedExponent, List.length_append, List.length_replicate]
    omega

theorem textValue_positionalText (style : RealStyle) (d : Decimal) :
    textValue (style.positionalText d) = d.value := by
  simp only [positionalText]
  split
  · next large =>
    obtain ⟨places, same⟩ := Int.eq_ofNat_of_zero_le large
    have digital := (digital_decimalText d.digits).append (digital_zeros d.exponent.toNat)
    have digits : digitsValue (decimalText d.digits ++ List.replicate d.exponent.toNat '0') =
        d.digits * 10 ^ places := by
      rw [digitsValue_append, digitsValue_decimalText, digitsValue_zeros, List.length_replicate,
        same]
      simp [mul_comm]
    split
    · have zero : Digital ['0'] := by simp [Digital]
      have value := marked_nil.textValue_pointed digital zero
      rw [List.append_nil] at value
      rw [value, digitsValue_append, digits, digitsValue_zero, Decimal.value, same]
      simp [markedExponent]
      ring
    · have value := marked_nil.textValue_whole digital
      rw [value, digits, Decimal.value, same]
      simp [markedExponent]
  · next small =>
    have places : -((-d.exponent).toNat : ℤ) = d.exponent := by omega
    rw [textValue_withPoint (digital_decimalText _), digitsValue_decimalText, places, Decimal.value]

theorem markedExponent_signed (exponent : Int) :
    markedExponent (['e', if exponent < 0 then '-' else '+'] ++ decimalText exponent.natAbs) =
      exponent := by
  split
  · have value : markedExponent (['e', '-'] ++ decimalText exponent.natAbs) =
        -digitsValue (decimalText exponent.natAbs) := rfl
    rw [value, digitsValue_decimalText]
    omega
  · have value : markedExponent (['e', '+'] ++ decimalText exponent.natAbs) =
        digitsValue (decimalText exponent.natAbs) := rfl
    rw [value, digitsValue_decimalText]
    omega

theorem textValue_scientificText {digits : List Char} (digital : Digital digits)
    (some : digits ≠ []) (exponent : Int) :
    textValue (scientificText digits exponent) =
      digitsValue digits * 10 ^ (exponent - (digits.length - 1 : ℤ)) := by
  have marked :
      Marked (['e', if exponent < 0 then '-' else '+'] ++ decimalText exponent.natAbs) := by
    rintro _ ⟨⟩
    rfl
  simp only [scientificText, List.append_assoc]
  split
  · next first second rest =>
    obtain ⟨whole, fraction⟩ := List.forall_mem_cons.mp digital
    have value := marked.textValue_pointed (List.forall_mem_singleton.mpr whole) fraction
    rw [markedExponent_signed] at value
    refine value.trans ?_
    simp
  · next short =>
    rw [marked.textValue_whole digital, markedExponent_signed]
    match digits, some, short with
    | [digit], _, _ => simp
    | first :: second :: rest, _, short => exact absurd rfl (short first second rest)

theorem textValue_decimal (style : RealStyle) (d : Decimal) :
    textValue (style.decimal d) = d.value := by
  simp only [decimal]
  split
  · exact textValue_positionalText style d
  · rw [textValue_scientificText (digital_decimalText _) Nat.toDigits_ne_nil,
      digitsValue_decimalText, Decimal.value]
    congr 2
    ring

/-! Signs, and numbers of either kind. -/

/-- A decimal starts with a digit. -/
theorem exists_digit_decimal (style : RealStyle) (d : Decimal) :
    ∃ c rest, style.decimal d = c :: rest ∧ c.isDigit = true := by
  have digital := digital_decimalText d.digits
  have some : decimalText d.digits ≠ [] := Nat.toDigits_ne_nil
  simp only [decimal, positionalText]
  generalize decimalText d.digits = digits at digital some
  cases digits with
  | nil => exact absurd rfl some
  | cons c rest =>
      have digit := digital c List.mem_cons_self
      split
      · split
        · exact ⟨c, _, rfl, digit⟩
        · unfold withPoint
          split
          · next inside =>
            obtain ⟨front, same⟩ : ∃ front,
                (c :: rest).length - (-d.exponent).toNat = front + 1 :=
              ⟨_, (Nat.succ_pred_eq_of_pos (by omega)).symm⟩
            rw [same]
            exact ⟨c, _, rfl, digit⟩
          · exact ⟨'0', _, rfl, rfl⟩
      · cases rest with
        | nil => exact ⟨c, _, rfl, digit⟩
        | cons second rest => exact ⟨c, _, rfl, digit⟩

/-- Numbers with one text are one number, in every style. -/
theorem finite_injective (style : RealStyle) : Function.Injective style.finite := by
  intro x y same
  obtain ⟨c, rest, decimal, digit⟩ := style.exists_digit_decimal (.ofFloat style.tie x)
  obtain ⟨other, more, alsoDecimal, alsoDigit⟩ :=
    style.exists_digit_decimal (.ofFloat style.tie y)
  have minus {c : Char} {rest more : List Char} (digit : c.isDigit = true) :
      '-' :: rest ≠ c :: more := by
    intro same
    rw [← (List.cons.inj same).1] at digit
    cases digit
  obtain ⟨signs, decimals⟩ : (Nat.pow 2 63 ≤ x.toBits.toNat ↔ Nat.pow 2 63 ≤ y.toBits.toNat) ∧
      style.decimal (.ofFloat style.tie x) = style.decimal (.ofFloat style.tie y) := by
    unfold finite at same
    simp only at same
    split at same
    · next negative =>
      split at same
      · next alsoNegative => exact ⟨iff_of_true negative alsoNegative, (List.cons.inj same).2⟩
      · rw [alsoDecimal] at same
        exact absurd same (minus alsoDigit)
    · next positive =>
      split at same
      · rw [decimal] at same
        exact absurd same.symm (minus digit)
      · next alsoPositive => exact ⟨iff_of_false positive alsoPositive, same⟩
  have values := congrArg textValue decimals
  rw [textValue_decimal, textValue_decimal] at values
  have magnitudes := magnitude_eq_of_value_eq values
  have bits : x.toBits.toNat = y.toBits.toNat := by
    have bound := x.toBits.toNat_lt
    have otherBound := y.toBits.toNat_lt
    rw [show Nat.pow 2 63 = 2 ^ 63 from rfl] at signs
    omega
  rw [← Float.ofBits_toBits x, ← Float.ofBits_toBits y, UInt64.toNat_inj.mp bits]

/-- In data a real is told from a whole number by its point or by its exponent. -/
theorem marked_decimal (d : Decimal) : ∃ c ∈ data.decimal d, c = '.' ∨ c = 'e' := by
  simp only [decimal, positionalText]
  split
  · split
    · exact ⟨'.', by simp [data], .inl rfl⟩
    · refine ⟨'.', ?_, .inl rfl⟩
      unfold withPoint
      split <;> simp
  · exact ⟨'e', by simp [scientificText], .inr rfl⟩

end RealStyle

namespace Json

theorem head?_decimalText_ne (n : Nat) : (decimalText n).head? ≠ some '-' := by
  intro minus
  have digit := digital_decimalText n '-' (List.mem_of_mem_head? minus)
  cases digit

/-- A whole number can be read off its text. -/
theorem eq_of_integerText (value : Int) :
    value = if (integerText value).head? = some '-' then
      -(digitsValue (integerText value).tail : Int) else digitsValue (integerText value) := by
  unfold integerText
  split
  · rw [List.head?_cons, if_pos rfl, List.tail_cons, digitsValue_decimalText]
    omega
  · rw [if_neg (head?_decimalText_ne _), digitsValue_decimalText]
    omega

theorem integerText_injective : Function.Injective integerText := by
  intro value other same
  rw [eq_of_integerText value, same, ← eq_of_integerText other]

theorem integerText_ne_real (value : Int) (x : Float) :
    integerText value ≠ RealStyle.data.finite x := by
  intro same
  obtain ⟨c, listed, mark⟩ := RealStyle.marked_decimal (.ofFloat RealStyle.data.tie x)
  have marked : c ∈ integerText value := by
    rw [same, RealStyle.finite]
    split
    · exact List.mem_cons_of_mem _ listed
    · exact listed
  have plain : c.isDigit = true ∨ c = '-' := by
    unfold integerText at marked
    split at marked
    · rcases List.mem_cons.mp marked with sign | digit
      · exact .inr sign
      · exact .inl (digital_decimalText _ c digit)
    · exact .inl (digital_decimalText _ c marked)
  rcases mark with rfl | rfl <;> revert plain <;> decide

/-- The text of a number is that of no other number, of either kind. -/
theorem numberText_injective : Function.Injective numberText := by
  intro number other same
  cases number with
  | integer value =>
      cases other with
      | integer other => rw [integerText_injective same]
      | real other => exact absurd same (integerText_ne_real value other)
  | real value =>
      cases other with
      | integer other => exact absurd same.symm (integerText_ne_real other value)
      | real other => rw [RealStyle.finite_injective _ same]

end Json

end DecisionGraph

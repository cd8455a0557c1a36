import DecisionGraph.Json.Reader
import DecisionGraph.Proofs.Canonical
import DecisionGraph.Proofs.FiniteNumbers
import DecisionGraph.Proofs.Scanned

/-!
Numbers that are read back as they were written. A whole number always is. Of a real it is asked
that its text, alone, reads back; then it does so wherever it stands.
-/

namespace DecisionGraph

open Json

/-! Blanks. -/

namespace Cursor

def Blank (c : Char) : Prop := c = ' ' ∨ c = '\n' ∨ c = '\t' ∨ c = '\r'

instance (c : Char) : Decidable (Blank c) :=
  inferInstanceAs (Decidable (c = ' ' ∨ c = '\n' ∨ c = '\t' ∨ c = '\r'))

/-- A text that does not start with a blank. -/
def Solid (text : List Char) : Prop := ∀ c ∈ text.head?, ¬ Blank c

theorem skipBlank_solid (position : Position) {text : List Char} (solid : Solid text) :
    skipBlank ⟨position, text⟩ = ⟨position, text⟩ := by
  cases text with
  | nil => rfl
  | cons c text => exact if_neg (solid c rfl)

theorem skipBlank_append (position : Position) {gap text : List Char} (blank : ∀ c ∈ gap, Blank c)
    (solid : Solid text) : ∃ behind, skipBlank ⟨position, gap ++ text⟩ = ⟨behind, text⟩ := by
  induction gap generalizing position with
  | nil => exact ⟨position, skipBlank_solid position solid⟩
  | cons c gap ih =>
      obtain ⟨first, others⟩ := List.forall_mem_cons.mp blank
      obtain ⟨behind, skipped⟩ := ih (position.after c) others
      exact ⟨behind, (if_pos first).trans skipped⟩

end Cursor

open Cursor

/-! The digits of a whole number. -/

namespace Scan

theorem digits_all (position : Position) {text : List Char} (all : ∀ c ∈ text, c.isDigit = true) :
    ∃ behind, digits position text = (text.map fun c => c.toNat - '0'.toNat, ⟨behind, []⟩) := by
  induction text generalizing position with
  | nil => exact ⟨position, rfl⟩
  | cons c text ih =>
      obtain ⟨first, others⟩ := List.forall_mem_cons.mp all
      obtain ⟨behind, later⟩ := ih (position.after c) others
      exact ⟨behind, by simp [digits, first, later]⟩

theorem foldl_digits (text : List Char) :
    (text.map fun c => c.toNat - '0'.toNat).foldl (fun n digit => n * 10 + digit) 0 =
      Nat.ofDigitChars 10 text 0 := by
  rw [Nat.ofDigitChars_eq_foldl, List.foldl_map]
  simp only [Nat.mul_comm]

theorem isDigit_of_mem_decimalText {n : Nat} {c : Char} (listed : c ∈ decimalText n) :
    c.isDigit = true :=
  Nat.isDigit_of_mem_toDigits (by decide) (by decide) listed

theorem head_decimalText {n : Nat} (positive : 0 < n) : (decimalText n).head? ≠ some '0' := by
  induction n using Nat.strongRecOn with
  | _ n ih =>
      unfold decimalText
      rw [Nat.toDigits_eq_if (by decide)]
      split
      · next less =>
        have digit : ∀ m < 10, 0 < m → [Nat.digitChar m].head? ≠ some '0' := by decide
        exact digit n less positive
      · next more =>
        rw [List.head?_append_of_ne_nil _ Nat.toDigits_ne_nil]
        exact ih (n / 10) (by omega) (by omega)

theorem wholePart_decimalText (position : Position) (n : Nat) :
    ∃ values behind, wholePart ⟨position, decimalText n⟩ = .ok (values, ⟨behind, []⟩) ∧
      values.foldl (fun n digit => n * 10 + digit) 0 = n := by
  rcases Nat.eq_zero_or_pos n with rfl | positive
  · exact ⟨[0], _, rfl, rfl⟩
  · obtain ⟨behind, scanned⟩ := digits_all position fun c => isDigit_of_mem_decimalText (n := n)
    have read : Nat.ofDigitChars 10 (decimalText n) 0 = n := Nat.ofDigitChars_ten_toDigits
    refine ⟨_, behind, ?_, (foldl_digits _).trans read⟩
    have head := head_decimalText positive
    have digit := fun c => isDigit_of_mem_decimalText (n := n) (c := c)
    have some : decimalText n ≠ [] := Nat.toDigits_ne_nil
    rw [← scanned]
    generalize decimalText n = text at head digit some
    cases text with
    | nil => exact absurd rfl some
    | cons c text =>
        exact wholePart_digits position text (digit c List.mem_cons_self) fun zero =>
          head (by rw [zero]; rfl)

theorem number_decimalText (negative : Bool) (position : Position) (n : Nat) :
    ∃ values behind, number negative ⟨position, decimalText n⟩ =
        .ok (numberOf? negative values none none, ⟨behind, []⟩) ∧
      values.foldl (fun n digit => n * 10 + digit) 0 = n := by
  obtain ⟨values, behind, scanned, same⟩ := wholePart_decimalText position n
  exact ⟨values, behind, by simp only [number, scanned, fractionPart, exponentPart], same⟩

/-- The number behind its sign. -/
def signed (negative : Bool) (text : List Char) : List Char :=
  if negative then '-' :: text else text

end Scan

open Scan

/-- The scanner of numbers finds this one in its text. -/
def Number.Scans (number : Number) : Prop :=
  ∃ negative text, numberText number = signed negative text ∧
    ∃ start stop, Scan.number negative ⟨start, text⟩ = .ok (some number, ⟨stop, []⟩)

theorem Number.integer_scans {value : Int} (held : (Number.integer value).Held) :
    (Number.integer value).Scans := by
  obtain ⟨low, high⟩ := held
  obtain ⟨values, behind, scanned, same⟩ :=
    number_decimalText (decide (value < 0)) .start value.natAbs
  refine ⟨_, _, ?_, .start, behind, scanned.trans ?_⟩
  · simp [numberText, integerText, signed]
  · simp only [numberOf?, same]
    by_cases negative : value < 0
    · have bound : value.natAbs ≤ Nat.pow 2 63 := by
        have : Nat.pow 2 63 = 2 ^ 63 := rfl
        omega
      have back : -(value.natAbs : Int) = value := by omega
      rw [if_neg (by simp [negative]), if_pos ⟨rfl, decide_eq_true negative, by omega, bound⟩, back]
    · have bound : value.natAbs < Nat.pow 2 64 := by
        have : Nat.pow 2 64 = 2 ^ 64 := rfl
        omega
      have back : (value.natAbs : Int) = value := by omega
      rw [if_pos ⟨rfl, decide_eq_false negative, bound⟩, back]

namespace Source

/-! A number where it stands, in the tree of a text. -/

/-- The reader that started at `c` has made this tree and stands at `d`. -/
def Takes {α : Type} {c : Cursor} (parsed : Parsed α c) (tree : α) (d : Cursor) : Prop :=
  ∃ less, parsed = (tree, .ok ⟨d, less⟩)

variable {depth : Nat} {position : Position} {text : List Char} {value : Option Number} {d : Cursor}

theorem takes_minus (scanned : Scan.number true ⟨position.after '-', text⟩ = .ok (value, d)) :
    Takes (parse depth ⟨position, '-' :: text⟩) (numberAt d.position value) d := by
  refine ⟨Nat.lt_succ_of_lt (length_number scanned), ?_⟩
  rw [parse]
  split
  iterate 6 next same => simp at same
  · next same =>
    cases same
    split
    · next failed => cases scanned.symm.trans failed
    · next found =>
      cases scanned.symm.trans found
      rfl
  · next notMinus same =>
    cases same
    exact (notMinus rfl).elim
  · next same => simp at same

theorem takes_digit {x : Char} (digit : x.isDigit = true)
    (scanned : Scan.number false ⟨position, x :: text⟩ = .ok (value, d)) :
    Takes (parse depth ⟨position, x :: text⟩) (numberAt d.position value) d := by
  refine ⟨length_number scanned, ?_⟩
  rw [parse]
  split
  iterate 7
    next same =>
      cases same
      cases digit
  · next same =>
    cases same
    rw [if_pos digit]
    split
    · next failed => cases scanned.symm.trans failed
    · next found =>
      cases scanned.symm.trans found
      rfl
  · next same => simp at same

theorem exists_digit_of_number {negative : Bool}
    (scanned : Scan.number negative ⟨position, text⟩ = .ok (value, d)) :
    ∃ x rest, text = x :: rest ∧ x.isDigit = true := by
  unfold Scan.number at scanned
  split at scanned
  · cases scanned
  · next whole =>
    obtain ⟨rest, rfl, _⟩ | ⟨x, rest, rfl, digit, _⟩ := wholePart_cases whole
    · exact ⟨'0', rest, rfl, rfl⟩
    · exact ⟨x, rest, rfl, digit⟩

theorem takes_number {negative : Bool} {number : Number} {start stop : Position}
    (scanned : Scan.number negative ⟨start, text⟩ = .ok (some number, ⟨stop, []⟩)) (depth : Nat)
    (position : Position) {rest : List Char} (ends : Ends rest) :
    ∃ behind, Takes (parse depth ⟨position, signed negative text ++ rest⟩) (.number behind number)
      ⟨behind, rest⟩ := by
  cases negative with
  | true =>
      obtain ⟨behind, appended⟩ :=
        (framed_number true).append scanned (position.after '-') rest ends
      exact ⟨behind, takes_minus appended⟩
  | false =>
      obtain ⟨behind, appended⟩ := (framed_number false).append scanned position rest ends
      obtain ⟨x, more, rfl, digit⟩ := exists_digit_of_number scanned
      exact ⟨behind, takes_digit digit appended⟩

theorem nested_ne_number {at_ : Cursor} {source : Source} {number : Number}
    (other : source ≠ .number position number) :
    nested depth at_ source ≠ .number position number := by
  unfold nested
  split
  · exact other
  · exact nofun

/-- Only the scanner of numbers makes numbers. -/
theorem scanned_of_parse {c : Cursor} {behind : Position} {number : Number}
    {ending : Except Fault { d : Cursor // d.rest.length < c.rest.length }}
    (parsed : parse depth c = (.number behind number, ending)) :
    ∃ negative text start d less, c.rest = signed negative text ∧
      Scan.number negative ⟨start, text⟩ = .ok (some number, d) ∧ ending = .ok ⟨d, less⟩ := by
  rw [parse] at parsed
  split at parsed
  iterate 3 split at parsed <;> cases parsed
  · next rest _ =>
    have noNumber : (Scan.string ⟨c.position.after '"', rest⟩).1 ≠ .number behind number := by
      unfold Scan.string
      intro same
      split at same <;> cases same
    split at parsed
    · next scanned =>
      rw [scanned] at noNumber
      cases parsed
      exact absurd rfl noNumber
    · next scanned =>
      rw [scanned] at noNumber
      cases parsed
      exact absurd rfl noNumber
  · split at parsed <;>
      exact absurd (congrArg Prod.fst parsed) (nested_ne_number Source.noConfusion)
  · split at parsed <;>
      exact absurd (congrArg Prod.fst parsed) (nested_ne_number Source.noConfusion)
  · next rest text =>
    split at parsed
    · cases parsed
    · next value d scanned =>
      cases value with
      | none => cases parsed
      | some found =>
          cases parsed
          exact ⟨true, rest, _, _, _, text, scanned, rfl⟩
  · next x rest _ _ _ _ _ _ _ text =>
    split at parsed
    · split at parsed
      · cases parsed
      · next value d scanned =>
        cases value with
        | none => cases parsed
        | some found =>
            cases parsed
            exact ⟨false, c.rest, c.position, _, _, rfl, scanned, rfl⟩
    · cases parsed
  · cases parsed

end Source

/-! A number read back when it stands alone. -/

/-- No blank is part of the text. -/
def Unspaced (text : List Char) : Prop := ∀ c ∈ text, ¬ Blank c

theorem Unspaced.solid {text : List Char} (unspaced : Unspaced text) : Solid text :=
  fun c first => unspaced c (List.mem_of_mem_head? first)

/-- A character that the text of a number may have. -/
def Numeral (c : Char) : Prop := c.isDigit = true ∨ c = '-' ∨ c = '+' ∨ c = '.' ∨ c = 'e'

instance (c : Char) : Decidable (Numeral c) :=
  inferInstanceAs (Decidable (c.isDigit = true ∨ c = '-' ∨ c = '+' ∨ c = '.' ∨ c = 'e'))

def Numerals (text : List Char) : Prop := ∀ c ∈ text, Numeral c

theorem Numerals.append {text more : List Char} (numerals : Numerals text)
    (also : Numerals more) : Numerals (text ++ more) :=
  List.forall_mem_append.mpr ⟨numerals, also⟩

theorem Numerals.cons {c : Char} {text : List Char} (first : Numeral c)
    (numerals : Numerals text) : Numerals (c :: text) :=
  List.forall_mem_cons.mpr ⟨first, numerals⟩

theorem numerals_decimalText (n : Nat) : Numerals (decimalText n) := fun _ listed =>
  .inl (isDigit_of_mem_decimalText listed)

theorem numerals_zeros (count : Nat) : Numerals (List.replicate count '0') := by
  intro c listed
  rw [List.eq_of_mem_replicate listed]
  decide

namespace RealStyle

theorem numerals_withPoint {digits : List Char} (numerals : Numerals digits) (places : Nat) :
    Numerals (withPoint digits places) := by
  unfold withPoint
  split
  · refine .append (fun c listed => numerals c (List.mem_of_mem_take listed)) (.cons (by decide) ?_)
    exact fun c listed => numerals c (List.mem_of_mem_drop listed)
  · refine .append (.append ?_ (numerals_zeros _)) numerals
    simp [Numerals, Numeral]

theorem numerals_positionalText (style : RealStyle) (d : Decimal) :
    Numerals (style.positionalText d) := by
  simp only [positionalText]
  split
  · refine .append (.append (numerals_decimalText _) (numerals_zeros _)) ?_
    split <;> simp [Numerals, Numeral]
  · exact numerals_withPoint (numerals_decimalText _) _

theorem numerals_scientificText {digits : List Char} (numerals : Numerals digits)
    (exponent : Int) : Numerals (scientificText digits exponent) := by
  refine .append (.append ?_ ?_) (numerals_decimalText _)
  · split
    · obtain ⟨first, later⟩ := List.forall_mem_cons.mp numerals
      exact .cons first (.cons (by decide) later)
    · exact numerals
  · split <;> simp [Numerals, Numeral]

theorem numerals_decimal (style : RealStyle) (d : Decimal) : Numerals (style.decimal d) := by
  simp only [decimal]
  split
  · exact numerals_positionalText style d
  · exact numerals_scientificText (numerals_decimalText _) _

end RealStyle

theorem numerals_numberText (number : Number) : Numerals (numberText number) := by
  have minus : Numeral '-' := by decide
  cases number with
  | integer value =>
      simp only [numberText, integerText]
      split
      · exact .cons minus (numerals_decimalText _)
      · exact numerals_decimalText _
  | real value =>
      simp only [numberText, RealStyle.finite]
      split
      · exact .cons minus (RealStyle.numerals_decimal _ _)
      · exact RealStyle.numerals_decimal _ _

theorem unspaced_numberText (number : Number) : Unspaced (numberText number) := by
  intro c listed blank
  have numeral := numerals_numberText number c listed
  rcases blank with rfl | rfl | rfl | rfl <;> revert numeral <;> decide

/-- The text of the number alone is read as this number, of the same kind. -/
def Number.ReadsBack (number : Number) : Prop :=
  Decoder.read Decode.json (String.ofList (numberText number)) = .ok (.number number)

namespace Source

theorem ofText_of_takes {text : String} {c : Cursor} {source : Source} {behind : Position}
    {after : List Char} (skipped : skipBlank ⟨.start, text.toList⟩ = c)
    (taken : Takes (parse 0 c) source ⟨behind, after⟩) (blank : ∀ c ∈ after, Blank c) :
    ofText text = (source, .ok ()) := by
  obtain ⟨less, parsed⟩ := taken
  have solid : Solid [] := nofun
  obtain ⟨stop, nothing⟩ := skipBlank_append behind blank solid
  rw [List.append_nil] at nothing
  subst skipped
  unfold ofText
  rw [parsed]
  simp only [nothing]

theorem parse_of_read {α : Type} {decode : Decoder α} {value : α} {text : String} {c : Cursor}
    (skipped : skipBlank ⟨.start, text.toList⟩ = c)
    (read : Decoder.read decode text = .ok value) :
    ∃ source ending, parse 0 c = (source, ending) ∧ decode source source.position = .ok value ∧
      ∀ d, ending = .ok d → d.val.skipBlank.rest = [] := by
  subst skipped
  unfold Decoder.read ofText at read
  generalize parse 0 (skipBlank ⟨.start, text.toList⟩) = parsed at read
  obtain ⟨source, ending⟩ := parsed
  refine ⟨source, ending, rfl, ?_⟩
  cases ending with
  | error fault => exact ⟨Reading.of_along read, nofun⟩
  | ok d =>
      simp only at read
      split at read
      · next none =>
        refine ⟨Reading.of_along read, ?_⟩
        rintro _ ⟨⟩
        rw [none]
      · obtain ⟨_, _, _, refused, _⟩ := Reading.join_eq_ok.mp read
        cases refused

end Source

theorem Number.Scans.readsBack {number : Number} (scans : number.Scans) : number.ReadsBack := by
  obtain ⟨negative, text, written, start, stop, scanned⟩ := scans
  have solid := (unspaced_numberText number).solid
  have alone : Ends [] := nofun
  obtain ⟨behind, taken⟩ := Source.takes_number scanned 0 .start alone
  have skipped : skipBlank ⟨.start, (String.ofList (numberText number)).toList⟩ =
      ⟨.start, signed negative text ++ []⟩ := by
    rw [String.toList_ofList, skipBlank_solid _ solid, written, List.append_nil]
  unfold ReadsBack Decoder.read
  rw [Source.ofText_of_takes skipped taken nofun]
  rfl

theorem Source.number_of_value {source : Source} {number : Number}
    (read : source.value = .ok (.number number)) :
    ∃ position, source = .number position number := by
  cases source with
  | number position value =>
      cases read
      exact ⟨position, rfl⟩
  | array position items =>
      obtain ⟨_, _, same⟩ := Reading.map_eq_ok.mp read
      cases same
  | object position members =>
      obtain ⟨_, _, same⟩ := Reading.map_eq_ok.mp read
      cases same
  | barred fault text =>
      obtain ⟨_, _, _, refused, _⟩ := Reading.join_eq_ok.mp read
      cases refused
  | _ => cases read

theorem Number.ReadsBack.scans {number : Number} (readsBack : number.ReadsBack) : number.Scans := by
  have unspaced := unspaced_numberText number
  have skipped : skipBlank ⟨.start, (String.ofList (numberText number)).toList⟩ =
      ⟨.start, numberText number⟩ := by
    rw [String.toList_ofList, skipBlank_solid _ unspaced.solid]
  obtain ⟨source, ending, parsed, read, whole⟩ := Source.parse_of_read skipped readsBack
  obtain ⟨behind, rfl⟩ := Source.number_of_value read
  obtain ⟨negative, text, start, d, less, written, scanned, rfl⟩ := Source.scanned_of_parse parsed
  -- Only blanks could be left, and there are none in the text.
  have left : d.rest ⊆ numberText number := by
    rw [show numberText number = signed negative text from written]
    refine List.Subset.trans ((framed_number negative).suffix scanned).subset ?_
    cases negative
    · exact List.Subset.refl _
    · exact List.subset_cons_self _ _
  have solid : Solid d.rest := Unspaced.solid fun c listed => unspaced c (left listed)
  have none : d.rest = [] := by
    have none := whole _ rfl
    rwa [skipBlank_solid d.position solid] at none
  exact ⟨negative, text, written, start, d.position, none ▸ scanned⟩

end DecisionGraph

import DecisionGraph.Json.Numeral
import DecisionGraph.Json.Printer
import DecisionGraph.Json.Quoted

/-!
Scanning what was printed: strings come back as they were, and so do integers. What stands behind a
number stays where it is.
-/

namespace DecisionGraph

open Json

namespace Scan

/-! Strings. -/

theorem hexUnit_of_control :
    ∀ unit < 0x20, hexUnit? '0' '0' (Nat.digitChar (unit / 16)) (Nat.digitChar (unit % 16)) =
      some unit := by
  decide

theorem skipString_escape (position : Position) (c : Char) (rest : List Char) :
    ∃ behind, skipString position (escape c ++ rest) = skipString behind rest := by
  unfold escape
  split
  iterate 7 exact ⟨_, rfl⟩
  · next notQuote notSlash _ _ _ _ _ =>
    split
    · next control =>
      refine ⟨behindUnit position, ?_⟩
      simp only [List.cons_append, List.nil_append]
      rw [skipString, hexUnit_of_control _ control]
      rfl
    · next plain =>
      refine ⟨position.after c, ?_⟩
      rw [List.singleton_append, skipString]
      · rw [if_neg plain]
      all_goals simp_all

theorem characters_escape (position : Position) (done : List Char) (c : Char) (rest : List Char) :
    ∃ behind, characters position none done (escape c ++ rest) =
      characters behind none (c :: done) rest := by
  unfold escape
  split
  iterate 7 exact ⟨_, rfl⟩
  · next notQuote notSlash _ _ _ _ _ =>
    split
    · next control =>
      refine ⟨behindUnit position, ?_⟩
      simp only [List.cons_append, List.nil_append]
      rw [characters, hexUnit_of_control _ control]
      have whole : unitRole none c.toNat = .character c := by
        simp [unitRole, isLowSurrogate, isHighSurrogate, show ¬ 0xDC00 ≤ c.toNat by omega,
          show ¬ 0xD800 ≤ c.toNat by omega]
      simp only [whole]
    · next plain =>
      refine ⟨position.after c, ?_⟩
      rw [List.singleton_append, characters]
      · rw [Option.isSome_none, if_neg Bool.false_ne_true, if_neg notQuote, if_neg plain]
      all_goals simp_all

theorem skipString_escaped (position : Position) (text rest : List Char) :
    ∃ behind, skipString position (text.flatMap escape ++ '"' :: rest) = .ok ⟨behind, rest⟩ := by
  induction text generalizing position with
  | nil => exact ⟨_, rfl⟩
  | cons c text ih =>
      rw [List.flatMap_cons, List.append_assoc]
      obtain ⟨between, first⟩ := skipString_escape position c (text.flatMap escape ++ '"' :: rest)
      rw [first]
      exact ih between

theorem characters_escaped (position : Position) (done text rest : List Char) :
    characters position none done (text.flatMap escape ++ '"' :: rest) =
      .ok (done.reverse ++ text) := by
  induction text generalizing position done with
  | nil =>
      rw [List.append_nil]
      rfl
  | cons c text ih =>
      rw [List.flatMap_cons, List.append_assoc]
      obtain ⟨between, first⟩ :=
        characters_escape position done c (text.flatMap escape ++ '"' :: rest)
      rw [first, ih between, List.reverse_cons, List.append_assoc, List.singleton_append]

/-- A string comes back from its text. -/
theorem string_escaped (position : Position) (text : String) (rest : List Char) :
    ∃ behind, string ⟨position, text.toList.flatMap escape ++ '"' :: rest⟩ =
      (.string behind text, .ok ⟨behind, rest⟩) := by
  obtain ⟨behind, skipped⟩ := skipString_escaped position text.toList rest
  have read := characters_escaped position [] text.toList rest
  refine ⟨behind, ?_⟩
  simp only [string, skipped, read]
  rw [List.reverse_nil, List.nil_append, String.ofList_toList]

/-! Numbers. -/

/-- Nothing here goes on with a number. -/
def Ends (rest : List Char) : Prop :=
  ∀ c ∈ rest.head?, c.isDigit = false ∧ c ≠ '.' ∧ c ≠ 'e' ∧ c ≠ 'E'

/-- What is scanned of a text is scanned wherever it starts and whatever stands behind it, unless
that goes on with a number. -/
structure Framed {α : Type} (scan : Cursor → Scanned α) : Prop where
  suffix : ∀ {position text value d}, scan ⟨position, text⟩ = .ok (value, d) → d.rest <:+ text
  append : ∀ {position text value d}, scan ⟨position, text⟩ = .ok (value, d) →
    ∀ other rest, Ends rest →
      ∃ behind, scan ⟨other, text ++ rest⟩ = .ok (value, ⟨behind, d.rest ++ rest⟩)

theorem suffix_digits (position : Position) (text : List Char) :
    (digits position text).2.rest <:+ text := by
  induction text generalizing position with
  | nil => exact List.suffix_refl _
  | cons c text ih =>
      unfold digits
      split
      · exact (ih (position.after c)).trans (List.suffix_cons c text)
      · exact List.suffix_refl _

theorem digits_append (position other : Position) (text : List Char) {rest : List Char}
    (ends : Ends rest) : ∃ behind, digits other (text ++ rest) =
      ((digits position text).1, ⟨behind, (digits position text).2.rest ++ rest⟩) := by
  induction text generalizing position other with
  | nil =>
      cases rest with
      | nil => exact ⟨other, rfl⟩
      | cons c rest =>
          have none := (ends c rfl).1
          exact ⟨other, by simp [digits, none]⟩
  | cons c text ih =>
      by_cases digit : c.isDigit = true
      · obtain ⟨behind, more⟩ := ih (position.after c) (other.after c)
        exact ⟨behind, by simp [digits, digit, more]⟩
      · exact ⟨other, by simp [digits, digit]⟩

theorem wholePart_zero (position : Position) {rest : List Char}
    (alone : rest.head?.any Char.isDigit = false) :
    wholePart ⟨position, '0' :: rest⟩ = .ok ([0], ⟨position.after '0', rest⟩) := by
  simp [wholePart, alone]

theorem wholePart_digits (position : Position) {x : Char} (rest : List Char)
    (digit : x.isDigit = true) (other : x ≠ '0') :
    wholePart ⟨position, x :: rest⟩ = .ok (digits position (x :: rest)) := by
  unfold wholePart
  split
  · next none => cases none
  · next same => exact absurd (List.cons.inj same).1 other
  · next same =>
    cases same
    rw [if_pos digit]

theorem wholePart_cases {position : Position} {text : List Char} {values : List Nat} {d : Cursor}
    (scanned : wholePart ⟨position, text⟩ = .ok (values, d)) :
    (∃ rest, text = '0' :: rest ∧ rest.head?.any Char.isDigit = false ∧
      values = [0] ∧ d = ⟨position.after '0', rest⟩) ∨
    ∃ x rest, text = x :: rest ∧ x.isDigit = true ∧ x ≠ '0' ∧
      digits position text = (values, d) := by
  unfold wholePart at scanned
  simp only at scanned
  split at scanned
  · cases scanned
  · split at scanned
    · cases scanned
    · next alone =>
      cases scanned
      exact .inl ⟨_, rfl, Bool.eq_false_iff.mpr alone, rfl, rfl⟩
  · next x rest notZero =>
    split at scanned
    · next digit =>
      exact .inr ⟨x, rest, rfl, digit, notZero,
        Except.ok.inj scanned⟩
    · cases scanned

theorem framed_wholePart : Framed wholePart where
  suffix {position text value d} scanned := by
    obtain ⟨rest, rfl, _, _, rfl⟩ | ⟨x, rest, rfl, _, _, same⟩ := wholePart_cases scanned
    · exact List.suffix_cons _ _
    · have suffix := suffix_digits position (x :: rest)
      rw [same] at suffix
      exact suffix
  append {position text value d} scanned other rest ends := by
    obtain ⟨more, rfl, alone, rfl, rfl⟩ | ⟨x, more, rfl, digit, notZero, same⟩ :=
      wholePart_cases scanned
    · have still : (more ++ rest).head?.any Char.isDigit = false := by
        cases more with
        | nil =>
            cases rest with
            | nil => rfl
            | cons c rest => exact (ends c rfl).1
        | cons c more => exact alone
      exact ⟨other.after '0', wholePart_zero other still⟩
    · obtain ⟨behind, appended⟩ := digits_append position other (x :: more) ends
      rw [same] at appended
      refine ⟨behind, ?_⟩
      rw [List.cons_append] at appended ⊢
      rw [wholePart_digits other (more ++ rest) digit notZero, appended]

theorem fractionPart_none (position : Position) {text : List Char} (other : text.head? ≠ some '.') :
    fractionPart ⟨position, text⟩ = .ok (none, ⟨position, text⟩) := by
  unfold fractionPart
  split
  · next same =>
    simp only at same
    exact absurd (same ▸ rfl) other
  · rfl

theorem framed_fractionPart : Framed fractionPart where
  suffix {position text value d} scanned := by
    unfold fractionPart at scanned
    simp only at scanned
    split at scanned
    · next more =>
      split at scanned
      · cases scanned
      · cases scanned
        exact (suffix_digits _ more).trans (List.suffix_cons _ _)
    · cases scanned
      exact List.suffix_refl _
  append {position text value d} scanned other rest ends := by
    unfold fractionPart at scanned
    simp only at scanned
    split at scanned
    · next more =>
      obtain ⟨behind, appended⟩ := digits_append (position.after '.') (other.after '.') more ends
      split at scanned
      · cases scanned
      · next some =>
        cases scanned
        refine ⟨behind, ?_⟩
        rw [List.cons_append]
        simp only [fractionPart, appended]
        rw [if_neg some]
    · next noPoint =>
      cases scanned
      refine ⟨other, fractionPart_none other ?_⟩
      cases text with
      | nil =>
          cases rest with
          | nil =>
              intro point
              cases point
          | cons c rest => exact fun point => (ends c rfl).2.1 (Option.some.inj point)
      | cons c text => exact fun point => noPoint text (by rw [Option.some.inj point])

theorem exponentPart_none (position : Position) {text : List Char}
    (other : ∀ mark ∈ text.head?, mark ≠ 'e' ∧ mark ≠ 'E') :
    exponentPart ⟨position, text⟩ = .ok (none, ⟨position, text⟩) := by
  unfold exponentPart
  split
  · next mark rest same =>
    simp only at same
    obtain ⟨small, capital⟩ := other mark (same ▸ rfl)
    rw [if_neg (by simp [small, capital])]
  · rfl

/-- The sign of an exponent, and what stands behind it. -/
def signOf (behind : Position) : List Char → Bool × Cursor
  | '+' :: more => (false, ⟨behind.after '+', more⟩)
  | '-' :: more => (true, ⟨behind.after '-', more⟩)
  | rest => (false, ⟨behind, rest⟩)

theorem suffix_signOf (behind : Position) (text : List Char) :
    (signOf behind text).2.rest <:+ text := by
  unfold signOf
  split
  · exact List.suffix_cons _ _
  · exact List.suffix_cons _ _
  · exact List.suffix_refl _

theorem signOf_plain (behind : Position) {c : Char} (rest : List Char) (notPlus : c ≠ '+')
    (notMinus : c ≠ '-') : signOf behind (c :: rest) = (false, ⟨behind, c :: rest⟩) := by
  unfold signOf
  split
  · next same => exact absurd (List.cons.inj same).1 notPlus
  · next same => exact absurd (List.cons.inj same).1 notMinus
  · rfl

theorem signOf_append (behind other : Position) {text : List Char} (some : text ≠ [])
    (rest : List Char) : ∃ later, signOf other (text ++ rest) =
      ((signOf behind text).1, ⟨later, (signOf behind text).2.rest ++ rest⟩) := by
  cases text with
  | nil => exact absurd rfl some
  | cons c text =>
      by_cases plus : c = '+'
      · subst plus
        exact ⟨_, rfl⟩
      · by_cases minus : c = '-'
        · subst minus
          exact ⟨_, rfl⟩
        · rw [List.cons_append, signOf_plain behind text plus minus,
            signOf_plain other (text ++ rest) plus minus]
          exact ⟨_, rfl⟩

def exponentOf (negative : Bool) (values : List Nat) : Int :=
  let magnitude : Int := (values.foldl (fun n digit => n * 10 + digit) 0 : Nat)
  if negative then -magnitude else magnitude

theorem exponentPart_of_mark (position : Position) {mark : Char} (isMark : mark = 'e' ∨ mark = 'E')
    (rest : List Char) : exponentPart ⟨position, mark :: rest⟩ =
      let signed := signOf (position.after mark) rest
      let scanned := digits signed.2.position signed.2.rest
      if scanned.1 = [] then
        match signed.2.rest with
        | [] => .error ⟨signed.2.position, .unexpectedEnd⟩
        | x :: _ => .error ⟨signed.2.position.afterByte x, .badNumber⟩
      else .ok (some (exponentOf signed.1 scanned.1), scanned.2) := by
  unfold exponentPart exponentOf
  simp only [isMark, if_true]
  by_cases plus : rest.head? = some '+'
  · obtain ⟨more, rfl⟩ := List.head?_eq_some_iff.mp plus
    rfl
  by_cases minus : rest.head? = some '-'
  · obtain ⟨more, rfl⟩ := List.head?_eq_some_iff.mp minus
    rfl
  cases rest with
  | nil => rfl
  | cons c rest =>
      have notPlus : c ≠ '+' := fun same => plus (same ▸ rfl)
      have notMinus : c ≠ '-' := fun same => minus (same ▸ rfl)
      rw [signOf_plain _ rest notPlus notMinus]
      split
      · next same => exact absurd (List.cons.inj same).1 notPlus
      · next same => exact absurd (List.cons.inj same).1 notMinus
      · rfl

theorem exponentPart_eq_ok_iff (position : Position) {mark : Char}
    (isMark : mark = 'e' ∨ mark = 'E') (rest : List Char) {value : Option Int} {d : Cursor} :
    exponentPart ⟨position, mark :: rest⟩ = .ok (value, d) ↔
      ∃ values, values ≠ [] ∧
        value = some (exponentOf (signOf (position.after mark) rest).1 values) ∧
        digits (signOf (position.after mark) rest).2.position
          (signOf (position.after mark) rest).2.rest = (values, d) := by
  rw [exponentPart_of_mark position isMark]
  generalize signOf (position.after mark) rest = signed
  simp only
  generalize digits signed.2.position signed.2.rest = scanned
  obtain ⟨values, later⟩ := scanned
  simp only
  split
  · next none =>
    constructor
    · split <;> exact nofun
    · rintro ⟨_, some, _, same⟩
      exact absurd ((Prod.mk.inj same).1 ▸ none) some
  · next some =>
    constructor
    · rintro ⟨⟩
      exact ⟨values, some, rfl, rfl⟩
    · rintro ⟨_, _, rfl, same⟩
      cases same
      rfl

theorem marked_or_none {position : Position} {text : List Char} {value : Option Int} {d : Cursor}
    (scanned : exponentPart ⟨position, text⟩ = .ok (value, d)) :
    (∃ mark rest, text = mark :: rest ∧ (mark = 'e' ∨ mark = 'E')) ∨
      (∀ mark ∈ text.head?, mark ≠ 'e' ∧ mark ≠ 'E') ∧ value = none ∧ d = ⟨position, text⟩ := by
  by_cases marked : ∃ mark rest, text = mark :: rest ∧ (mark = 'e' ∨ mark = 'E')
  · exact .inl marked
  · have plain : ∀ mark ∈ text.head?, mark ≠ 'e' ∧ mark ≠ 'E' := by
      intro mark first
      obtain ⟨rest, same⟩ := List.head?_eq_some_iff.mp first
      exact not_or.mp fun isMark => marked ⟨mark, rest, same, isMark⟩
    rw [exponentPart_none position plain] at scanned
    cases scanned
    exact .inr ⟨plain, rfl, rfl⟩

theorem framed_exponentPart : Framed exponentPart where
  suffix {position text value d} scanned := by
    obtain ⟨mark, rest, rfl, isMark⟩ | ⟨_, _, rfl⟩ := marked_or_none scanned
    · obtain ⟨values, _, _, same⟩ := (exponentPart_eq_ok_iff position isMark rest).mp scanned
      have suffix := suffix_digits (signOf (position.after mark) rest).2.position
        (signOf (position.after mark) rest).2.rest
      rw [same] at suffix
      exact (suffix.trans (suffix_signOf _ rest)).trans (List.suffix_cons _ _)
    · exact List.suffix_refl _
  append {position text value d} scanned other rest ends := by
    obtain ⟨mark, more, rfl, isMark⟩ | ⟨plain, rfl, rfl⟩ := marked_or_none scanned
    · obtain ⟨values, some, rfl, same⟩ := (exponentPart_eq_ok_iff position isMark more).mp scanned
      have someMore : more ≠ [] := by
        rintro rfl
        cases same
        exact some rfl
      obtain ⟨later, signed⟩ :=
        signOf_append (position.after mark) (other.after mark) someMore rest
      obtain ⟨behind, appended⟩ := digits_append (signOf (position.after mark) more).2.position
        later (signOf (position.after mark) more).2.rest ends
      rw [same] at appended
      refine ⟨behind, (exponentPart_eq_ok_iff other isMark (more ++ rest)).mpr
        ⟨values, some, ?_, ?_⟩⟩
      · rw [signed]
      · rw [signed]
        exact appended
    · refine ⟨other, exponentPart_none other ?_⟩
      cases text with
      | nil =>
          cases rest with
          | nil => exact nofun
          | cons c rest =>
              rintro mark ⟨⟩
              exact (ends c rfl).2.2
      | cons c text => exact plain

theorem framed_number (negative : Bool) : Framed (number negative) where
  suffix {position text value d} scanned := by
    unfold number at scanned
    split at scanned
    · cases scanned
    · next whole =>
      split at scanned
      · cases scanned
      · next fraction =>
        split at scanned
        · cases scanned
        · next exponent =>
          cases scanned
          exact ((framed_exponentPart.suffix exponent).trans
            (framed_fractionPart.suffix fraction)).trans (framed_wholePart.suffix whole)
  append {position text value d} scanned other rest ends := by
    unfold number at scanned
    split at scanned
    · cases scanned
    · next whole =>
      obtain ⟨first, wholeToo⟩ := framed_wholePart.append whole other rest ends
      split at scanned
      · cases scanned
      · next fraction =>
        obtain ⟨second, fractionToo⟩ := framed_fractionPart.append fraction first rest ends
        split at scanned
        · cases scanned
        · next exponent =>
          obtain ⟨third, exponentToo⟩ := framed_exponentPart.append exponent second rest ends
          cases scanned
          refine ⟨third, ?_⟩
          simp only [number, wholeToo, fractionToo, exponentToo]

end Scan

end DecisionGraph

import DecisionGraph.Proofs.Layout
import DecisionGraph.Proofs.RealText

/-!
A text without blanks stands for one value. The first character tells what kind of value begins, and
each kind shows where it ends, so a value can be split off whatever stands behind it.
-/

namespace DecisionGraph.Json

/-- What may stand behind a value: nothing that goes on with a number. -/
def Parts (rest : List Char) : Prop := ∀ c ∈ rest.head?, ¬ Numeral c

theorem parts_nil : Parts [] := by simp [Parts]

theorem parts_cons {mark : Char} (plain : ¬ Numeral mark) (rest : List Char) :
    Parts (mark :: rest) := by
  rintro _ ⟨⟩
  exact plain

theorem stringText_append_inj {text other : String} {rest more : List Char}
    (same : stringText text ++ rest = stringText other ++ more) : text = other ∧ rest = more := by
  rw [stringText_append, stringText_append] at same
  obtain ⟨behind, scanned⟩ := Scan.string_escaped .start text rest
  obtain ⟨stop, also⟩ := Scan.string_escaped .start other more
  rw [(List.cons.inj same).2, also] at scanned
  cases scanned
  exact ⟨rfl, rfl⟩

theorem takeWhile_numberText (number : Number) {rest : List Char} (parts : Parts rest) :
    (numberText number ++ rest).takeWhile (fun c => decide (Numeral c)) = numberText number := by
  rw [List.takeWhile_append_of_pos fun c listed =>
    decide_eq_true (numerals_numberText number c listed)]
  cases rest with
  | nil => simp
  | cons c rest =>
      rw [List.takeWhile_cons_of_neg, List.append_nil]
      simpa using parts c rfl

theorem numberText_append_inj {number other : Number} {rest more : List Char} (parts : Parts rest)
    (also : Parts more) (same : numberText number ++ rest = numberText other ++ more) :
    number = other ∧ rest = more := by
  have texts : numberText number = numberText other := by
    rw [← takeWhile_numberText number parts, same, takeWhile_numberText other also]
  rw [texts] at same
  exact ⟨numberText_injective texts, List.append_cancel_left same⟩

theorem boolText_append_inj {value other : Bool} {rest more : List Char}
    (same : boolText value ++ rest = boolText other ++ more) : value = other ∧ rest = more := by
  cases value with
  | true =>
      cases other with
      | true => exact ⟨rfl, List.append_cancel_left same⟩
      | false => cases same
  | false =>
      cases other with
      | true => cases same
      | false => exact ⟨rfl, List.append_cancel_left same⟩

/-! The kinds of values. -/

inductive Kind
  | null | bool | number | string | array | object

def kind : Json → Kind
  | null => .null
  | bool _ => .bool
  | number _ => .number
  | string _ => .string
  | array _ => .array
  | object _ => .object

/-- The kind of value that a character begins. -/
def Kind.ofChar (c : Char) : Kind :=
  match c with
  | 'n' => .null
  | 't' | 'f' => .bool
  | '"' => .string
  | '[' => .array
  | '\x7b' => .object
  | _ => .number

theorem exists_numberText (number : Number) :
    ∃ c rest, numberText number = c :: rest ∧ (c = '-' ∨ c.isDigit = true) := by
  have digits (n : Nat) : ∃ c rest, decimalText n = c :: rest ∧ c.isDigit = true := by
    have digital := digital_decimalText n
    have some : decimalText n ≠ [] := Nat.toDigits_ne_nil
    generalize decimalText n = text at digital some
    cases text with
    | nil => exact absurd rfl some
    | cons c rest => exact ⟨c, rest, rfl, digital c List.mem_cons_self⟩
  cases number with
  | integer value =>
      obtain ⟨c, rest, same, digit⟩ := digits value.natAbs
      rw [numberText, integerText]
      split
      · exact ⟨'-', _, rfl, .inl rfl⟩
      · exact ⟨c, rest, same, .inr digit⟩
  | real value =>
      obtain ⟨c, rest, same, digit⟩ := RealStyle.data.exists_digit_decimal
        (.ofFloat RealStyle.data.tie value)
      rw [numberText, RealStyle.finite]
      split
      · exact ⟨'-', _, rfl, .inl rfl⟩
      · exact ⟨c, rest, same, .inr digit⟩

theorem exists_compact (value : Json) :
    ∃ c rest, value.compact = c :: rest ∧ Kind.ofChar c = value.kind ∧ c ≠ ']' := by
  cases value with
  | null => exact ⟨'n', _, rfl, rfl, by decide⟩
  | bool value =>
      cases value with
      | true => exact ⟨'t', _, rfl, rfl, by decide⟩
      | false => exact ⟨'f', _, rfl, rfl, by decide⟩
  | number value =>
      obtain ⟨c, rest, same, first⟩ := exists_numberText value
      refine ⟨c, rest, same, ?_, ?_⟩
      · unfold Kind.ofChar
        split <;> first | rfl | exact absurd first (by decide)
      · rintro rfl
        exact absurd first (by decide)
  | string value => exact ⟨'"', _, rfl, rfl, by decide⟩
  | array items => cases items <;> exact ⟨'[', _, rfl, rfl, by decide⟩
  | object members => cases members <;> exact ⟨'\x7b', _, rfl, rfl, by decide⟩

theorem kind_eq_of_compact {value other : Json} {rest more : List Char}
    (same : value.compact ++ rest = other.compact ++ more) : value.kind = other.kind := by
  obtain ⟨c, text, written, kind, _⟩ := value.exists_compact
  obtain ⟨d, otherText, otherWritten, otherKind, _⟩ := other.exists_compact
  rw [written, otherWritten] at same
  rw [← kind, ← otherKind, (List.cons.inj same).1]

theorem parts_compactItems (items : List Json) (rest : List Char) :
    Parts (compactItems items ++ rest) := by
  cases items with
  | nil => exact parts_cons (by decide) _
  | cons item items => exact parts_cons (by decide) _

theorem parts_compactMembers (members : List (String × Json)) (rest : List Char) :
    Parts (compactMembers members ++ rest) := by
  cases members with
  | nil => exact parts_cons (by decide) _
  | cons member members => exact parts_cons (by decide) _

/-- An empty array is told from one with items by what stands behind its bracket. -/
theorem brackets_ne (first : Json) (text rest more : List Char) :
    '[' :: (first.compact ++ text) ++ rest ≠ ['[', ']'] ++ more := by
  obtain ⟨c, tail, written, _, other⟩ := first.exists_compact
  intro same
  rw [written] at same
  exact other (List.cons.inj (List.cons.inj same).2).1

mutual

/-- A value can be split off the text behind it. -/
theorem compact_append_inj (value other : Json) {rest more : List Char} (parts : Parts rest)
    (also : Parts more) (same : compact value ++ rest = compact other ++ more) :
    value = other ∧ rest = more := by
  have kind := kind_eq_of_compact same
  match value, other with
  | .null, .null => exact ⟨rfl, List.append_cancel_left same⟩
  | .bool value, .bool other =>
      obtain ⟨rfl, rest⟩ := boolText_append_inj same
      exact ⟨rfl, rest⟩
  | .number value, .number other =>
      obtain ⟨rfl, rest⟩ := numberText_append_inj parts also same
      exact ⟨rfl, rest⟩
  | .string value, .string other =>
      obtain ⟨rfl, rest⟩ := stringText_append_inj same
      exact ⟨rfl, rest⟩
  | .array [], .array [] => exact ⟨rfl, (List.cons.inj (List.cons.inj same).2).2⟩
  | .array (first :: items), .array (second :: others) =>
      simp only [compact, List.cons_append, List.append_assoc, List.cons.injEq, true_and] at same
      obtain ⟨rfl, later⟩ := compact_append_inj first second (parts_compactItems items rest)
        (parts_compactItems others more) same
      obtain ⟨rfl, rest⟩ := compactItems_append_inj items others later
      exact ⟨rfl, rest⟩
  | .array [], .array (second :: others) => exact absurd same (brackets_ne second _ _ _).symm
  | .array (first :: items), .array [] => exact absurd same (brackets_ne first _ _ _)
  | .object [], .object [] => exact ⟨rfl, (List.cons.inj (List.cons.inj same).2).2⟩
  | .object ((key, first) :: members), .object ((name, second) :: others) =>
      simp only [compact, List.cons_append, List.append_assoc, List.cons.injEq, true_and] at same
      obtain ⟨rfl, value⟩ := stringText_append_inj same
      simp only [List.cons.injEq, true_and] at value
      obtain ⟨rfl, later⟩ := compact_append_inj first second (parts_compactMembers members rest)
        (parts_compactMembers others more) value
      obtain ⟨rfl, rest⟩ := compactMembers_append_inj members others later
      exact ⟨rfl, rest⟩
  | .object [], .object ((name, second) :: others) => cases same
  | .object ((key, first) :: members), .object [] => cases same

theorem compactItems_append_inj (items others : List Json) {rest more : List Char}
    (same : compactItems items ++ rest = compactItems others ++ more) :
    items = others ∧ rest = more := by
  match items, others with
  | [], [] => exact ⟨rfl, (List.cons.inj same).2⟩
  | first :: items, second :: others =>
      simp only [compactItems, List.cons_append, List.append_assoc, List.cons.injEq,
        true_and] at same
      obtain ⟨rfl, later⟩ := compact_append_inj first second (parts_compactItems items rest)
        (parts_compactItems others more) same
      obtain ⟨rfl, rest⟩ := compactItems_append_inj items others later
      exact ⟨rfl, rest⟩
  | [], second :: others => cases same
  | first :: items, [] => cases same

theorem compactMembers_append_inj (members others : List (String × Json)) {rest more : List Char}
    (same : compactMembers members ++ rest = compactMembers others ++ more) :
    members = others ∧ rest = more := by
  match members, others with
  | [], [] => exact ⟨rfl, (List.cons.inj same).2⟩
  | (key, first) :: members, (name, second) :: others =>
      simp only [compactMembers, List.cons_append, List.append_assoc, List.cons.injEq,
        true_and] at same
      obtain ⟨rfl, value⟩ := stringText_append_inj same
      simp only [List.cons.injEq, true_and] at value
      obtain ⟨rfl, later⟩ := compact_append_inj first second (parts_compactMembers members rest)
        (parts_compactMembers others more) value
      obtain ⟨rfl, rest⟩ := compactMembers_append_inj members others later
      exact ⟨rfl, rest⟩
  | [], (name, second) :: others => cases same
  | (key, first) :: members, [] => cases same

end

/-- The text of a value is that of no other value. -/
theorem compactText_injective : Function.Injective compactText := by
  intro value other same
  have texts : value.compact ++ [] = other.compact ++ [] := by
    rw [String.ofList_injective same]
  exact (compact_append_inj value other parts_nil parts_nil texts).1

end DecisionGraph.Json

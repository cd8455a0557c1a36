import DecisionGraph.Proofs.Lowered
import Mathlib.Data.List.Chain

/-!
The stem of a label: lower-case letters and numbers with single underscores between them, which is
the stem of itself. It falls short of that only for labels with a dotted capital I, whose lower-case
form brings a combining dot into the stem.
-/

namespace DecisionGraph

/-- No two neighbours are underscores. -/
def Apart (text : List Char) : Prop := text.IsChain fun c next => c ≠ '_' ∨ next ≠ '_'

instance (text : List Char) : Decidable (Apart text) :=
  inferInstanceAs (Decidable (text.IsChain _))

/-- Underscores stand neither at an end nor next to each other. -/
structure Spaced (text : List Char) : Prop where
  starts : text.head? ≠ some '_'
  ends : text.getLast? ≠ some '_'
  apart : Apart text

/-- A letter or number, or the mark that stands between them. -/
def IsStemChar (c : Char) : Prop := CharSet.alphanumeric.contains c = true ∨ c = '_'

instance (c : Char) : Decidable (IsStemChar c) := inferInstanceAs (Decidable (_ ∨ _))

/-! What a letter or number contributes to a stem. -/

theorem contains_mark : CharSet.alphanumeric.contains '_' = false := by decide +kernel

theorem contains_combiningDot : CharSet.alphanumeric.contains '\u0307' = false := by decide +kernel

theorem lowerChar_dottedI : lowerChar '\u0130' = ['i', '\u0307'] := by decide

theorem lowerChar_mark : lowerChar '_' = ['_'] := by decide

theorem ne_mark {c : Char} (letter : CharSet.alphanumeric.contains c = true) : c ≠ '_' := by
  rintro rfl
  cases contains_mark.symm.trans letter

theorem lowerChar_ne_nil {c : Char} (letter : CharSet.alphanumeric.contains c = true) :
    lowerChar c ≠ [] := by
  by_cases dotted : c = '\u0130'
  · rw [dotted, lowerChar_dottedI]
    exact List.cons_ne_nil _ _
  · obtain ⟨lowered, same, -⟩ := exists_lowerChar letter dotted
    rw [same]
    exact List.cons_ne_nil _ _

theorem mark_notMem_lowerChar {c : Char} (letter : CharSet.alphanumeric.contains c = true) :
    '_' ∉ lowerChar c := by
  by_cases dotted : c = '\u0130'
  · rw [dotted, lowerChar_dottedI]
    decide
  · obtain ⟨lowered, same, also, -⟩ := exists_lowerChar letter dotted
    rw [same, List.mem_singleton]
    exact (ne_mark also).symm

/-! A stem is spaced. -/

section Spacing

variable {word out : List Char}

theorem Apart.append (free : '_' ∉ word) (apart : Apart out) : Apart (word ++ out) := by
  induction word with
  | nil => exact apart
  | cons c rest ih =>
      rw [List.mem_cons, not_or] at free
      exact List.isChain_cons.mpr ⟨fun next _ => .inl (Ne.symm free.1), ih free.2⟩

theorem Apart.mark (starts : out.head? ≠ some '_') (apart : Apart out) : Apart ('_' :: out) := by
  refine List.isChain_cons.mpr ⟨fun next first => .inr ?_, apart⟩
  rintro rfl
  exact starts first

theorem head?_word (some : word ≠ []) (free : '_' ∉ word) :
    (word ++ out).head? ≠ Option.some '_' := by
  intro first
  rw [List.head?_append_of_ne_nil word some] at first
  exact free (List.mem_of_head? first)

theorem getLast?_word (some : word ≠ []) (free : '_' ∉ word) (ends : out.getLast? ≠ Option.some '_')
    (before : List Char) : (before ++ (word ++ out)).getLast? ≠ Option.some '_' := by
  rw [List.getLast?_append_of_ne_nil before (by simp [some]), List.getLast?_append]
  cases last : out.getLast? with
  | none => exact fun mark => free (List.mem_of_getLast? mark)
  | some c =>
      rw [last] at ends
      exact ends

end Spacing

theorem getLast?_stemFrom (started apart : Bool) (text : List Char) :
    (stemFrom started apart text).getLast? ≠ some '_' := by
  fun_induction stemFrom started apart text with
  | case1 => simp
  | case2 started apart c rest letter ih =>
      rw [List.append_assoc]
      exact getLast?_word (lowerChar_ne_nil letter) (mark_notMem_lowerChar letter) ih _
  | case3 started apart c rest other ih => exact ih

theorem apart_stemFrom (started apart : Bool) (text : List Char) :
    Apart (stemFrom started apart text) := by
  fun_induction stemFrom started apart text with
  | case1 => exact List.IsChain.nil
  | case2 started apart c rest letter ih =>
      have free := mark_notMem_lowerChar letter
      rw [List.append_assoc]
      split
      · rw [List.singleton_append]
        exact Apart.mark (head?_word (lowerChar_ne_nil letter) free) (Apart.append free ih)
      · rw [List.nil_append]
        exact Apart.append free ih
  | case3 started apart c rest other ih => exact ih

theorem head?_stemFrom (apart : Bool) (text : List Char) :
    (stemFrom false apart text).head? ≠ some '_' := by
  induction text generalizing apart with
  | nil => simp [stemFrom]
  | cons c rest ih =>
      unfold stemFrom
      split
      · next letter => exact head?_word (lowerChar_ne_nil letter) (mark_notMem_lowerChar letter)
      · exact ih true

theorem spaced_stemOfLabel (label : List Char) : Spaced (stemOfLabel label) :=
  ⟨head?_stemFrom false label, getLast?_stemFrom false false label, apart_stemFrom false false label⟩

/-! What a stem is made of. -/

theorem mem_stemFrom_iff {started apart : Bool} {text : List Char} {c : Char} (other : c ≠ '_') :
    c ∈ stemFrom started apart text ↔
      ∃ letter ∈ text, CharSet.alphanumeric.contains letter = true ∧ c ∈ lowerChar letter := by
  fun_induction stemFrom started apart text with
  | case1 => simp
  | case2 started apart d rest letter ih =>
      have mark : c ∉ if started && apart then ['_'] else [] := by
        split
        · exact fun listed => other (List.mem_singleton.mp listed)
        · exact List.not_mem_nil
      simp only [List.mem_append, mark, false_or, ih, List.exists_mem_cons_iff, letter, true_and]
  | case3 started apart d rest between ih =>
      simp only [ih, List.exists_mem_cons_iff, between, Bool.false_eq_true, false_and, false_or]

/-! A text with the shape of a stem keeps its shape. -/

theorem stemFrom_letter {c : Char} (letter : CharSet.alphanumeric.contains c = true)
    (started apart : Bool) (rest : List Char) :
    stemFrom started apart (c :: rest) =
      (if started && apart then ['_'] else []) ++ (lowerChar c ++ stemFrom true false rest) := by
  rw [stemFrom, if_pos letter, List.append_assoc]

theorem stemFrom_mark (started apart : Bool) (rest : List Char) :
    stemFrom started apart ('_' :: rest) = stemFrom started true rest := by
  rw [stemFrom, if_neg (by simp [contains_mark])]

theorem stemFrom_of_apart {text : List Char} (chars : ∀ c ∈ text, IsStemChar c)
    (ends : text.getLast? ≠ some '_') (apart : Apart text) :
    stemFrom true false text = text.flatMap lowerChar := by
  induction text with
  | nil => rfl
  | cons c rest ih =>
      have charsToo (d : Char) (listed : d ∈ rest) := chars d (List.mem_cons_of_mem c listed)
      have endsToo : rest.getLast? ≠ some '_' := by
        cases rest with
        | nil => simp
        | cons d rest => simpa using ends
      have same := ih charsToo endsToo apart.tail
      rw [List.flatMap_cons, ← same]
      rcases chars c List.mem_cons_self with letter | rfl
      · rw [stemFrom_letter letter]
        rfl
      · -- A mark is written when the letter behind it is reached, and there is one.
        rw [stemFrom_mark, lowerChar_mark]
        cases rest with
        | nil => exact absurd rfl ends
        | cons d rest =>
            have other := (List.isChain_cons_cons.mp apart).1.resolve_left (not_not_intro rfl)
            have letter := (charsToo d List.mem_cons_self).resolve_right other
            rw [stemFrom_letter letter, stemFrom_letter letter]
            rfl

theorem stemOfLabel_of_spaced {text : List Char} (chars : ∀ c ∈ text, IsStemChar c)
    (spaced : Spaced text) : stemOfLabel text = text.flatMap lowerChar := by
  have same := stemFrom_of_apart chars spaced.ends spaced.apart
  cases text with
  | nil => rfl
  | cons c rest =>
      have letter := (chars c List.mem_cons_self).resolve_right fun mark =>
        spaced.starts (congrArg some mark)
      rw [← same, stemOfLabel, stemFrom_letter letter, stemFrom_letter letter]
      rfl

/-! The normal form. -/

/-- The one character whose lower-case form leaves a stem. -/
theorem combiningDot_mem_iff {label : List Char} :
    '\u0307' ∈ stemOfLabel label ↔ '\u0130' ∈ label := by
  rw [stemOfLabel, mem_stemFrom_iff (by decide)]
  constructor
  · rintro ⟨letter, listed, alphanumeric, contributed⟩
    by_cases dotted : letter = '\u0130'
    · exact dotted ▸ listed
    · obtain ⟨lowered, same, also, -⟩ := exists_lowerChar alphanumeric dotted
      rw [same, List.mem_singleton] at contributed
      rw [← contributed, contains_combiningDot] at also
      cases also
  · exact fun listed => ⟨_, listed, by decide +kernel, by decide⟩

theorem settled_of_mem {label : List Char} (plain : '\u0130' ∉ label) {c : Char}
    (written : c ∈ stemOfLabel label) : IsStemChar c ∧ lowerChar c = [c] := by
  by_cases mark : c = '_'
  · exact ⟨.inr mark, mark ▸ lowerChar_mark⟩
  · obtain ⟨letter, listed, alphanumeric, contributed⟩ := (mem_stemFrom_iff mark).mp written
    have other : letter ≠ '\u0130' := fun dotted => plain (dotted ▸ listed)
    obtain ⟨lowered, same, also, -, settled⟩ := exists_lowerChar alphanumeric other
    rw [same, List.mem_singleton] at contributed
    exact contributed ▸ ⟨.inl also, settled⟩

/-- The dotted capital I is no lower-case form, so it is in no stem. -/
theorem dottedI_notMem_stemOfLabel (label : List Char) : '\u0130' ∉ stemOfLabel label := by
  intro written
  obtain ⟨letter, -, alphanumeric, contributed⟩ := (mem_stemFrom_iff (by decide)).mp written
  by_cases dotted : letter = '\u0130'
  · rw [dotted, lowerChar_dottedI] at contributed
    revert contributed
    decide
  · obtain ⟨lowered, same, -, other, -⟩ := exists_lowerChar alphanumeric dotted
    rw [same, List.mem_singleton] at contributed
    exact other contributed.symm

/-- The stem of a label is spaced. It consists of letters, numbers and underscores, and is the stem
of itself, just when the label has no dotted capital I. -/
theorem stemOfLabel_normal_iff (label : List Char) :
    Spaced (stemOfLabel label) ∧
      ((∀ c ∈ stemOfLabel label, IsStemChar c) ↔ '\u0130' ∉ label) ∧
      (stemOfLabel (stemOfLabel label) = stemOfLabel label ↔ '\u0130' ∉ label) := by
  refine ⟨spaced_stemOfLabel label, ⟨fun chars dotted => ?_, fun plain c written => ?_⟩,
    ⟨fun same dotted => ?_, fun plain => ?_⟩⟩
  · rcases chars _ (combiningDot_mem_iff.mpr dotted) with letter | mark
    · cases contains_combiningDot.symm.trans letter
    · revert mark
      decide
  · exact (settled_of_mem plain written).1
  · have again := combiningDot_mem_iff.mpr dotted
    rw [← same] at again
    exact dottedI_notMem_stemOfLabel label (combiningDot_mem_iff.mp again)
  · rw [stemOfLabel_of_spaced (fun c written => (settled_of_mem plain written).1)
      (spaced_stemOfLabel label)]
    have each : (stemOfLabel label).flatMap lowerChar = (stemOfLabel label).flatMap ([·]) :=
      List.flatMap_congr fun c written => (settled_of_mem plain written).2
    rw [each, List.flatMap_singleton']

/-- The combining dot of the lower-case form is a separator when the stem is read again. -/
theorem dotted_label_unsettled :
    ¬ ∀ label : List Char,
      (∀ c ∈ stemOfLabel label, IsStemChar c) ∧ Spaced (stemOfLabel label) ∧
        stemOfLabel (stemOfLabel label) = stemOfLabel label := by
  intro normal
  obtain ⟨-, -, same⟩ := normal "\u0130stanbul".toList
  revert same
  decide +kernel

end DecisionGraph

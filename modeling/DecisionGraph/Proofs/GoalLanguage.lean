import DecisionGraph.Proofs.Lowered
import DecisionGraph.Proofs.Pattern
import DecisionGraph.Proofs.TrustedClaims

/-!
Which labels count as goals: those with a word about goals and with a number, each of them a pattern.
The search looks at a label from every place on, takes blanks and digits as far as they go, and tries
a unit and the end of the number behind each digit.
-/

namespace DecisionGraph

namespace CharSet

/-- The changes without the ranges that end before a point, or at it. -/
def changesFrom (point : Nat) : List Nat → List Nat
  | start :: stop :: later =>
    if stop ≤ point then changesFrom point later else start :: stop :: later
  | other => other

/-- Whether all that the first changes hold is in the set with the other changes. Both are walked
once. -/
def isWithin : List Nat → List Nat → Bool
  | start :: stop :: later, whole =>
    covers start (stop - 1) (changesFrom start whole) && isWithin later (changesFrom start whole)
  | [], _ => true
  | [_], _ => false

theorem increasing_changesFrom {changes : List Nat} (increasing : changes.IsChain (· < ·))
    (point : Nat) : (changesFrom point changes).IsChain (· < ·) := by
  fun_induction changesFrom point changes with
  | case1 start stop later passed ih => exact ih increasing.of_cons.of_cons
  | case2 | case3 => exact increasing

theorem insideAt_changesFrom {least point : Nat} {changes : List Nat}
    (increasing : changes.IsChain (· < ·)) (reached : least ≤ point) :
    insideAt point (changesFrom least changes) false = insideAt point changes false := by
  fun_induction changesFrom least changes with
  | case1 start stop later passed ih =>
      rw [List.isChain_cons_cons] at increasing
      rw [ih increasing.2.of_cons, insideAt, if_neg (by omega), insideAt, if_neg (by omega),
        Bool.not_not]
  | case2 | case3 => rfl

theorem insideAt_of_isWithin {part whole : List Nat} {point : Nat}
    (increasing : whole.IsChain (· < ·)) (within : isWithin part whole = true)
    (inside : insideAt point part false = true) : insideAt point whole false = true := by
  fun_induction isWithin part whole with
  | case1 start stop later whole ih =>
      obtain ⟨covered, within⟩ := Bool.and_eq_true_iff.mp within
      have ascending := increasing_changesFrom increasing start
      simp only [insideAt, Bool.not_false, Bool.not_true] at inside
      split at inside
      · cases inside
      · rw [← insideAt_changesFrom increasing (by omega : start ≤ point)]
        split at inside
        · exact insideAt_of_covers ascending covered (by omega) (by omega)
        · exact ih ascending within inside
  | case2 => cases inside
  | case3 => cases within

theorem insideAt_not (point : Nat) (changes : List Nat) (inside : Bool) :
    insideAt point changes (!inside) = !insideAt point changes inside := by
  induction changes generalizing inside with
  | nil => rfl
  | cons change later ih =>
      unfold insideAt
      split
      · rfl
      · exact ih _

/-- What is read off the tables. The word characters with a change at code point 0 before them are
all the others. -/
theorem word_table :
    (0 :: word.changes).IsChain (· < ·) ∧ isWithin digit.changes word.changes = true ∧
      isWithin blank.changes (0 :: word.changes) = true ∧
      covers 0x41 0x5A word.changes = true ∧ covers 0x61 0x7A word.changes = true ∧
      word.contains '\u212a' = true ∧ word.contains '\u017f' = true := by
  decide +kernel

theorem word_of_digit {c : Char} (inside : digit.contains c = true) : word.contains c = true := by
  obtain ⟨increasing, within, _⟩ := word_table
  exact insideAt_of_isWithin increasing.of_cons within inside

theorem not_word_of_blank {c : Char} (inside : blank.contains c = true) :
    word.contains c = false := by
  obtain ⟨increasing, _, within, _⟩ := word_table
  have outside := insideAt_of_isWithin increasing within inside
  rw [insideAt, if_neg (Nat.not_lt_zero _), insideAt_not, Bool.not_eq_true'] at outside
  exact outside

theorem not_blank_of_word {c : Char} (inside : word.contains c = true) :
    blank.contains c = false := by
  apply Bool.eq_false_iff.mpr
  intro isBlank
  rw [not_word_of_blank isBlank] at inside
  cases inside

theorem word_of_isAlpha {c : Char} (isLetter : c.isAlpha = true) : word.contains c = true := by
  obtain ⟨increasing, _, _, capitals, small, _⟩ := word_table
  rw [Char.isAlpha, Bool.or_eq_true] at isLetter
  rcases isLetter with isCapital | isSmall
  · simp only [Char.isUpper, decide_eq_true_eq] at isCapital
    exact insideAt_of_covers increasing.of_cons capitals isCapital.1 isCapital.2
  · simp only [Char.isLower, Bool.and_eq_true, decide_eq_true_eq] at isSmall
    exact insideAt_of_covers increasing.of_cons small isSmall.1 isSmall.2

end CharSet

namespace GoalNumber

open Pattern

/-! The patterns. -/

/-- The letter in some case. Of the small letters, `k` and `s` have one more than the other letters:
the kelvin sign and the long s. -/
def isCaseOf (letter c : Char) : Bool :=
  c = letter || c = letter.toUpper || letter = 'k' && c = '\u212a' || letter = 's' && c = '\u017f'

def spelled (word : String) : Pattern :=
  inOrder (word.toList.map fun letter => one (isCaseOf letter))

def goalWord : Pattern :=
  inOrder [
    boundary,
    oneOf (["target", "targets", "targeted", "goal", "goals", "reach", "reaches", "reached",
      "reaching"].map spelled),
    boundary]

def digit : Pattern := one CharSet.digit.contains

def figures : Pattern := many fun c => CharSet.digit.contains c || c = ',' || c = '.'

def blanks : Pattern := many CharSet.blank.contains

def price : Pattern := inOrder [one ['$', '£', '€', '¥'].contains, blanks, digit]

def percentage : Pattern := inOrder [digit, figures, blanks, one (· = '%')]

def unit : Pattern := oneOf (["k", "m", "bn", "million", "billion", "thousand"].map spelled)

def amount : Pattern :=
  inOrder [boundary, digit, figures, optional (inOrder [blanks, unit]), boundary]

def number : Pattern := oneOf [price, percentage, amount]

/-! Words. -/

section Words

variable {letter c : Char} {letters before text rest taken : List Char} {words : List String}
  {next : List Char → List Char → Prop}

theorem toLower_eq_iff (small : letter.isLower = true) :
    c.toLower = letter ↔ c = letter ∨ c = letter.toUpper := by
  have settled : letter.toLower = letter :=
    Char.toLower_eq_of_not_isUpper (Char.not_isUpper_of_isLower small)
  constructor
  · rintro rfl
    by_cases capital : c.isUpper = true
    · right
      rw [Char.toUpper_toLower_eq_toUpper,
        Char.toUpper_eq_of_not_isLower (Char.not_isLower_of_isUpper capital)]
    · left
      exact (Char.toLower_eq_of_not_isUpper capital).symm
  · rintro (rfl | rfl)
    · exact settled
    · rw [Char.toLower_toUpper_eq_toLower, settled]

theorem isCaseOf_iff (small : letter.isLower = true) :
    isCaseOf letter c = true ↔ folded c = letter := by
  have cases : isCaseOf letter c = true ↔
      c.toLower = letter ∨ letter = 'k' ∧ c = '\u212a' ∨ letter = 's' ∧ c = '\u017f' := by
    simp only [isCaseOf, Bool.or_eq_true, Bool.and_eq_true, decide_eq_true_eq, or_assoc,
      toLower_eq_iff small]
  rw [cases, folded]
  split
  · next kelvin =>
    subst kelvin
    constructor
    · rintro (same | ⟨rfl, _⟩ | ⟨_, wrong⟩)
      · rw [← same] at small
        exact absurd small (by decide)
      · rfl
      · exact absurd wrong (by decide)
    · intro same
      exact Or.inr (Or.inl ⟨same.symm, rfl⟩)
  · next kelvin =>
    split
    · next long =>
      subst long
      constructor
      · rintro (same | ⟨_, wrong⟩ | ⟨rfl, _⟩)
        · rw [← same] at small
          exact absurd small (by decide)
        · exact absurd wrong kelvin
        · rfl
      · intro same
        exact Or.inr (Or.inr ⟨same.symm, rfl⟩)
    · next long => simp only [kelvin, long, and_false, or_false]

theorem word_of_folded (small : (folded c).isLower = true) : CharSet.word.contains c = true := by
  obtain ⟨_, _, _, _, _, kelvinSign, longS⟩ := CharSet.word_table
  unfold folded at small
  split at small
  · next kelvin =>
    subst kelvin
    exact kelvinSign
  · split at small
    · next long =>
      subst long
      exact longS
    · rw [Char.isLower_toLower_eq_isAlpha] at small
      exact CharSet.word_of_isAlpha small

theorem afterWord?_eq_some_iff :
    afterWord? letters text = some rest ↔
      ∃ taken, text = taken ++ rest ∧ taken.map folded = letters := by
  induction letters generalizing text with
  | nil => simp [afterWord?]
  | cons letter letters ih =>
      cases text with
      | nil => simp [afterWord?]
      | cons c text =>
          rw [afterWord?, Option.ite_none_right_eq_some, ih]
          constructor
          · rintro ⟨rfl, taken, rfl, rfl⟩
            exact ⟨c :: taken, rfl, rfl⟩
          · rintro ⟨taken, split, same⟩
            obtain ⟨first, later, rfl, rfl, rfl⟩ := List.map_eq_cons_iff.mp same
            obtain ⟨rfl, rfl⟩ := List.cons.inj split
            exact ⟨rfl, later, rfl, rfl⟩

theorem startsWithWord_iff :
    startsWithWord words text = true ↔
      ∃ taken rest, text = taken ++ rest ∧ taken.map folded ∈ words.map String.toList ∧
        inWord rest.head? = false := by
  rw [startsWithWord, List.any_eq_true]
  constructor
  · rintro ⟨word, listed, ends⟩
    split at ends
    · next rest found =>
      obtain ⟨taken, split, same⟩ := afterWord?_eq_some_iff.mp found
      refine ⟨taken, rest, split, ?_, by simpa using ends⟩
      rw [same]
      exact List.mem_map_of_mem listed
    · cases ends
  · rintro ⟨taken, rest, split, listed, ends⟩
    obtain ⟨word, listed, same⟩ := List.mem_map.mp listed
    refine ⟨word, listed, ?_⟩
    rw [afterWord?_eq_some_iff.mpr ⟨taken, split, same.symm⟩]
    simpa using ends

/-- Words of small letters, none of them empty. -/
def Plain (words : List String) : Prop :=
  ∀ word ∈ words, word.toList ≠ [] ∧ word.toList.all Char.isLower = true

theorem leads_letters (small : letters.all Char.isLower = true) :
    (inOrder (letters.map fun letter => one (isCaseOf letter))).Leads before text next ↔
      ∃ taken rest, text = taken ++ rest ∧ taken.map folded = letters ∧
        next (before ++ taken) rest := by
  induction letters generalizing before text with
  | nil =>
      rw [List.map_nil, leads_inOrder_nil]
      simp
  | cons letter letters ih =>
      obtain ⟨smallFirst, smallLater⟩ := Bool.and_eq_true_iff.mp small
      rw [List.map_cons, leads_inOrder_cons, leads_one]
      constructor
      · rintro ⟨c, _, rfl, same, later⟩
        obtain ⟨taken, rest, rfl, rfl, follows⟩ := (ih smallLater).mp later
        refine ⟨c :: taken, rest, rfl, ?_, by simpa using follows⟩
        rw [List.map_cons, (isCaseOf_iff smallFirst).mp same]
      · rintro ⟨taken, rest, rfl, same, follows⟩
        obtain ⟨c, taken, rfl, rfl, rfl⟩ := List.map_eq_cons_iff.mp same
        refine ⟨c, taken ++ rest, rfl, (isCaseOf_iff smallFirst).mpr rfl, ?_⟩
        exact (ih smallLater).mpr ⟨taken, rest, rfl, rfl, by simpa using follows⟩

theorem leads_words (plain : Plain words) :
    (oneOf (words.map spelled)).Leads before text next ↔
      ∃ taken rest, text = taken ++ rest ∧ taken.map folded ∈ words.map String.toList ∧
        next (before ++ taken) rest := by
  rw [leads_oneOf]
  constructor
  · rintro ⟨_, listed, leads⟩
    obtain ⟨word, member, rfl⟩ := List.mem_map.mp listed
    obtain ⟨taken, rest, split, same, follows⟩ := (leads_letters (plain word member).2).mp leads
    refine ⟨taken, rest, split, ?_, follows⟩
    rw [same]
    exact List.mem_map_of_mem member
  · rintro ⟨taken, rest, split, listed, follows⟩
    obtain ⟨word, member, same⟩ := List.mem_map.mp listed
    refine ⟨spelled word, List.mem_map_of_mem member, ?_⟩
    exact (leads_letters (plain word member).2).mpr ⟨taken, rest, split, same.symm, follows⟩

/-- What is read as a word is made of characters of words. -/
theorem word_of_listed (plain : Plain words)
    (listed : taken.map folded ∈ words.map String.toList) :
    taken ≠ [] ∧ ∀ c ∈ taken, CharSet.word.contains c = true := by
  obtain ⟨word, member, same⟩ := List.mem_map.mp listed
  obtain ⟨long, small⟩ := plain word member
  constructor
  · rintro rfl
    exact long same
  · intro c inside
    apply word_of_folded
    apply List.all_eq_true.mp small
    rw [same]
    exact List.mem_map_of_mem inside

theorem inWord_of_startsWithWord (plain : Plain words)
    (starts : startsWithWord words text = true) : inWord text.head? = true := by
  obtain ⟨taken, rest, rfl, listed, _⟩ := startsWithWord_iff.mp starts
  obtain ⟨long, inside⟩ := word_of_listed plain listed
  rw [List.head?_append_of_ne_nil _ long, List.head?_eq_some_head long]
  exact inside _ (List.head_mem long)

/-- A place where a word ends or starts, and nothing after it that matters. -/
def Ends (before text : List Char) : Prop := wordBoundary before.getLast? text.head? = true

theorem leads_ends :
    (inOrder [boundary]).Leads before text (fun _ _ => True) ↔ Ends before text := by
  rw [leads_inOrder_cons, leads_boundary]
  simp only [leads_inOrder_nil, and_true, Ends]

theorem leads_words_iff_startsWithWord (plain : Plain words) :
    (oneOf (words.map spelled)).Leads before text Ends ↔ startsWithWord words text = true := by
  rw [leads_words plain, startsWithWord_iff]
  have closed {taken rest : List Char} (listed : taken.map folded ∈ words.map String.toList) :
      Ends (before ++ taken) rest ↔ inWord rest.head? = false := by
    obtain ⟨long, inside⟩ := word_of_listed plain listed
    have last : inWord (before ++ taken).getLast? = true := by
      rw [List.getLast?_append_of_ne_nil _ long, List.getLast?_eq_some_getLast long]
      exact inside _ (List.getLast_mem long)
    rw [Ends, wordBoundary, last, Bool.true_bne, Bool.not_eq_true']
  constructor
  · rintro ⟨taken, rest, split, listed, ends⟩
    exact ⟨taken, rest, split, listed, (closed listed).mp ends⟩
  · rintro ⟨taken, rest, split, listed, ends⟩
    exact ⟨taken, rest, split, listed, (closed listed).mpr ends⟩

end Words

/-! Numbers. -/

section Numbers

variable {c : Char} {before text : List Char} {patterns : List Pattern}
  {next : List Char → List Char → Prop}

theorem not_blank_of_inNumber (figure : inNumber c = true) : CharSet.blank.contains c = false := by
  simp only [inNumber, Bool.or_eq_true, decide_eq_true_eq] at figure
  rcases figure with (isDigit | rfl) | rfl
  · exact CharSet.not_blank_of_word (CharSet.word_of_digit isDigit)
  · decide
  · decide

theorem leads_digit : (inOrder (digit :: patterns)).Leads before text next ↔
    ∃ c rest, text = c :: rest ∧ isDigit c = true ∧
      (inOrder patterns).Leads (before ++ [c]) rest next := by
  rw [leads_inOrder_cons]
  exact leads_one

theorem leads_blanks {behind : List Char → Prop}
    (same : ∀ before text, (inOrder patterns).Leads before text next ↔ behind text)
    (stops : ∀ c rest, behind (c :: rest) → CharSet.blank.contains c = false) :
    (inOrder (blanks :: patterns)).Leads before text next ↔ behind (skipBlanks text) := by
  rw [leads_inOrder_cons]
  exact leads_many_iff_dropWhile same stops

theorem leads_figures : (inOrder (figures :: patterns)).Leads before text next ↔
    ∃ run rest, text = run ++ rest ∧ (∀ c ∈ run, inNumber c = true) ∧
      (inOrder patterns).Leads (before ++ run) rest next := by
  rw [leads_inOrder_cons]
  exact leads_many

theorem leads_figures_iff_dropWhile {behind : List Char → Prop}
    (same : ∀ before text, (inOrder patterns).Leads before text next ↔ behind text)
    (stops : ∀ c rest, behind (c :: rest) → inNumber c = false) :
    (inOrder (figures :: patterns)).Leads before text next ↔ behind (text.dropWhile inNumber) := by
  rw [leads_inOrder_cons]
  exact leads_many_iff_dropWhile same stops

theorem leads_price : price.Leads before text (fun _ _ => True) ↔ currencyAt text = true := by
  have digitNext (before text : List Char) :
      (inOrder [digit]).Leads before text (fun _ _ => True) ↔ text.head?.any isDigit = true := by
    rw [leads_digit]
    simp only [leads_inOrder_nil]
    cases text <;> simp
  have stops (c : Char) (rest : List Char) (found : (c :: rest).head?.any isDigit = true) :
      CharSet.blank.contains c = false :=
    CharSet.not_blank_of_word (CharSet.word_of_digit found)
  rw [price, leads_inOrder_cons, leads_one]
  simp only [leads_blanks digitNext stops]
  cases text with
  | nil => simp [currencyAt]
  | cons c rest => simp [currencyAt, isCurrency, or_assoc]

theorem leads_percentage :
    percentage.Leads before text (fun _ _ => True) ↔ percentAt text = true := by
  have signNext (before text : List Char) :
      (inOrder [one (· = '%')]).Leads before text (fun _ _ => True) ↔ text.head? = some '%' := by
    rw [leads_inOrder_cons, leads_one]
    simp only [leads_inOrder_nil]
    cases text <;> simp
  have sign (c : Char) (rest : List Char) (found : (c :: rest).head? = some '%') :
      CharSet.blank.contains c = false := by
    cases found
    decide
  have stops (c : Char) (rest : List Char) (found : (skipBlanks (c :: rest)).head? = some '%') :
      inNumber c = false := by
    apply Bool.eq_false_iff.mpr
    intro figure
    rw [skipBlanks, List.dropWhile_cons_of_neg (by simp [not_blank_of_inNumber figure])] at found
    cases found
    revert figure
    decide
  have blanksNext (before text : List Char) :
      (inOrder [blanks, one (· = '%')]).Leads before text (fun _ _ => True) ↔
        (skipBlanks text).head? = some '%' := by
    rw [leads_blanks signNext sign]
  rw [percentage, leads_digit]
  simp only [leads_figures_iff_dropWhile blanksNext stops]
  cases text with
  | nil => simp [percentAt]
  | cons c rest => simp [percentAt]

/-- Behind what was read of a number, it goes on to a place where it may end. -/
theorem amountEnds_iff {last : Char} :
    amountEnds last text = true ↔
      ∃ run rest, text = run ++ rest ∧ (∀ c ∈ run, inNumber c = true) ∧
        (wordBoundary (last :: run).getLast? rest.head? = true ∨
          startsWithWord units (skipBlanks rest) = true) := by
  induction text generalizing last with
  | nil => simp [amountEnds]
  | cons c text ih =>
      rw [amountEnds, Bool.or_eq_true, Bool.or_eq_true, Bool.and_eq_true, ih]
      constructor
      · rintro (here | ⟨figure, run, rest, rfl, figures, ends⟩)
        · exact ⟨[], c :: text, rfl, by simp, here⟩
        · refine ⟨c :: run, rest, rfl, List.forall_mem_cons.mpr ⟨figure, figures⟩, ?_⟩
          rwa [List.getLast?_cons_cons]
      · rintro ⟨run, rest, split, figures, ends⟩
        cases run with
        | nil =>
            subst split
            exact Or.inl ends
        | cons first run =>
            obtain ⟨rfl, rfl⟩ := List.cons.inj split
            obtain ⟨figure, figures⟩ := List.forall_mem_cons.mp figures
            rw [List.getLast?_cons_cons] at ends
            exact Or.inr ⟨figure, run, rest, rfl, figures, ends⟩

theorem plain_units : Plain units := by
  unfold Plain
  decide

theorem plain_goalWords : Plain goalWords := by
  unfold Plain
  decide

/-- The end of a number, with a unit before it or without. -/
theorem leads_end :
    (inOrder [optional (inOrder [blanks, unit]), boundary]).Leads before text (fun _ _ => True) ↔
      Ends before text ∨ startsWithWord units (skipBlanks text) = true := by
  have unitNext (before text : List Char) :
      (inOrder [unit]).Leads before text Ends ↔ startsWithWord units text = true := by
    rw [leads_inOrder_cons]
    simp only [leads_inOrder_nil]
    exact leads_words_iff_startsWithWord plain_units
  have stops (c : Char) (rest : List Char) (found : startsWithWord units (c :: rest) = true) :
      CharSet.blank.contains c = false :=
    CharSet.not_blank_of_word (inWord_of_startsWithWord plain_units found)
  rw [leads_inOrder_cons, leads_optional, or_comm]
  simp only [leads_ends]
  exact or_congr_right (leads_blanks unitNext stops)

theorem ends_append_iff {c : Char} {run rest : List Char} :
    Ends (before ++ [c] ++ run) rest ↔ wordBoundary (c :: run).getLast? rest.head? = true := by
  rw [Ends, List.append_assoc, List.singleton_append,
    List.getLast?_append_of_ne_nil _ (List.cons_ne_nil c run)]

/-- A word starts before a character of words unless the character before it is one, too. -/
theorem wordBoundary_of_word {before : Option Char} {after : Option Char}
    (inside : inWord after = true) : wordBoundary before after = !inWord before := by
  rw [wordBoundary, inside, Bool.bne_true]

theorem wordBoundary_of_digit {c : Char} {before : Option Char} (figure : isDigit c = true) :
    wordBoundary before (some c) = !inWord before :=
  wordBoundary_of_word (CharSet.word_of_digit figure)

theorem leads_amount :
    amount.Leads before text (fun _ _ => True) ↔ amountAt before.getLast? text = true := by
  rw [amount, leads_inOrder_cons, leads_boundary, leads_digit]
  constructor
  · rintro ⟨starts, c, _, rfl, figure, later⟩
    obtain ⟨run, rest, rfl, figures, ends⟩ := leads_figures.mp later
    rw [List.head?_cons, wordBoundary_of_digit figure] at starts
    rw [amountAt, starts, figure, Bool.true_and, Bool.true_and, amountEnds_iff]
    exact ⟨run, rest, rfl, figures, (or_congr_left ends_append_iff).mp (leads_end.mp ends)⟩
  · intro found
    cases text with
    | nil => cases found
    | cons c text =>
        rw [amountAt, Bool.and_eq_true, Bool.and_eq_true, amountEnds_iff] at found
        obtain ⟨⟨starts, figure⟩, run, rest, rfl, figures, ends⟩ := found
        refine ⟨?_, c, run ++ rest, rfl, figure, leads_figures.mpr ⟨run, rest, rfl, figures, ?_⟩⟩
        · rw [List.head?_cons, wordBoundary_of_digit figure, starts]
        · exact leads_end.mpr ((or_congr_left ends_append_iff).mpr ends)

theorem leads_number :
    number.Leads before text (fun _ _ => True) ↔ numberAt before.getLast? text = true := by
  rw [number, leads_oneOf, numberAt, Bool.or_eq_true, Bool.or_eq_true, or_assoc]
  simp [leads_price, leads_percentage, leads_amount]

theorem leads_goalWord :
    goalWord.Leads before text (fun _ _ => True) ↔ goalWordAt before.getLast? text = true := by
  rw [goalWord, leads_inOrder_cons, leads_boundary, leads_inOrder_cons]
  simp only [leads_ends]
  rw [goalWordAt, Bool.and_eq_true]
  constructor
  · rintro ⟨starts, leads⟩
    have found := (leads_words_iff_startsWithWord plain_goalWords).mp leads
    rw [wordBoundary_of_word (inWord_of_startsWithWord plain_goalWords found)] at starts
    exact ⟨starts, found⟩
  · rintro ⟨starts, found⟩
    refine ⟨?_, (leads_words_iff_startsWithWord plain_goalWords).mpr found⟩
    rwa [wordBoundary_of_word (inWord_of_startsWithWord plain_goalWords found)]

end Numbers

/-! Labels. -/

theorem somewhere_iff {test : Option Char → List Char → Bool} {before : Option Char}
    {text : List Char} :
    somewhere test before text = true ↔
      ∃ front rest, text = front ++ rest ∧ test (front.getLast?.or before) rest = true := by
  induction text generalizing before with
  | nil => simp [somewhere]
  | cons c text ih =>
      rw [somewhere, Bool.or_eq_true, ih]
      constructor
      · rintro (here | ⟨front, rest, rfl, found⟩)
        · exact ⟨[], c :: text, rfl, here⟩
        · refine ⟨c :: front, rest, rfl, ?_⟩
          cases front with
          | nil => exact found
          | cons first front => rwa [List.getLast?_cons_cons]
      · rintro ⟨front, rest, split, found⟩
        cases front with
        | nil =>
            subst split
            exact Or.inl found
        | cons first front =>
            obtain ⟨rfl, rfl⟩ := List.cons.inj split
            refine Or.inr ⟨front, rest, rfl, ?_⟩
            cases front with
            | nil => exact found
            | cons second front => rwa [List.getLast?_cons_cons] at found

theorem somewhere_iff_occurs {pattern : Pattern} {test : Option Char → List Char → Bool}
    (leads : ∀ before text, pattern.Leads before text (fun _ _ => True) ↔
      test before.getLast? text = true) (label : String) :
    somewhere test none label.toList = true ↔ pattern.Occurs label := by
  rw [somewhere_iff, occurs_iff]
  simp only [leads, Option.or_none]

theorem isGoalNumber_iff {label : String} :
    isGoalNumber label = true ↔ goalWord.Occurs label ∧ number.Occurs label := by
  rw [isGoalNumber, Bool.and_eq_true, and_comm,
    somewhere_iff_occurs (fun _ _ => leads_goalWord), somewhere_iff_occurs fun _ _ => leads_number]

end GoalNumber

namespace Graph

/-- A factor is told to be a goal just where its label has a word about goals and a number, unless
its category is controllable, by what the edges say or by what it says itself. -/
theorem names_goalNumber_iff_occurs {graph : Graph} {limits : Limits} {position : Nat} :
    (graph.check limits).Names .goalNumberAsFactor (.nodeField position "label") ↔
      ∃ node, (node, position) ∈ graph.live ∧ node.isFactor = true ∧
        graph.category? position ≠ some .controllable ∧
        node.declaredCategory? ≠ some .controllable ∧
        GoalNumber.goalWord.Occurs node.label ∧ GoalNumber.number.Occurs node.label := by
  simp only [names_goalNumber_iff, GoalNumber.isGoalNumber_iff]

end Graph

end DecisionGraph

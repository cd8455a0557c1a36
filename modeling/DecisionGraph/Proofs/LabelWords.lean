import DecisionGraph.Proofs.LabelStem

/-!
The stem of a label by its words. The words are the longest runs of letters and numbers; the stem
has each of them in lower case, and one underscore between any two.
-/

namespace DecisionGraph

/-- A text with its words. Other characters may stand in front of a word; right behind it stands
another character or nothing, so that no word is a part of a longer one. -/
inductive Worded : List Char → List (List Char) → Prop
  | blank {text : List Char} (others : ∀ c ∈ text, CharSet.alphanumeric.contains c = false) :
      Worded text []
  | word {gap word rest : List Char} {words : List (List Char)}
      (others : ∀ c ∈ gap, CharSet.alphanumeric.contains c = false) (filled : word ≠ [])
      (letters : ∀ c ∈ word, CharSet.alphanumeric.contains c = true)
      (ends : ∀ c, rest.head? = some c → CharSet.alphanumeric.contains c = false)
      (later : Worded rest words) : Worded (gap ++ (word ++ rest)) (word :: words)

def wordsOf (text : List Char) : List (List Char) :=
  (text.splitOnP fun c => !CharSet.alphanumeric.contains c).filter (· ≠ [])

/-- What was written of a stem so far, and whether a separator was passed since. -/
structure Writing where
  written : List Char
  apart : Bool

namespace Writing

def next (writing : Writing) (c : Char) : Writing :=
  if CharSet.alphanumeric.contains c then
    let mark := if writing.apart && !writing.written.isEmpty then ['_'] else []
    ⟨writing.written ++ mark ++ lowerChar c, false⟩
  else { writing with apart := true }

/-- What is written in the end is what was written so far and the stem of the rest of the text. -/
theorem written_foldl (text : List Char) (writing : Writing) :
    (text.foldl next writing).written =
      writing.written ++ stemFrom (!writing.written.isEmpty) writing.apart text := by
  induction text generalizing writing with
  | nil => simp [stemFrom]
  | cons c rest ih =>
      rw [List.foldl_cons, ih, next, stemFrom]
      by_cases letter : CharSet.alphanumeric.contains c = true
      · have begun (before : List Char) : (before ++ lowerChar c).isEmpty = false := by
          simp [lowerChar_ne_nil letter]
        simp only [if_pos letter, begun, Bool.not_false, Bool.and_comm]
        simp only [List.append_assoc]
      · rw [if_neg letter, if_neg letter]

end Writing

/-! The words of a text are found by splitting it. -/

section Words

variable {gap word rest text : List Char} {words : List (List Char)}

theorem wordsOf_other {c : Char} (other : CharSet.alphanumeric.contains c = false) :
    wordsOf (c :: rest) = wordsOf rest := by
  rw [wordsOf, ← List.nil_append (c :: rest), List.splitOnP_append_cons_of_forall_mem (by simp) c
    (by simp [other]) rest, List.filter_cons_of_neg (by simp)]
  rfl

theorem wordsOf_gap (others : ∀ c ∈ gap, CharSet.alphanumeric.contains c = false) :
    wordsOf (gap ++ rest) = wordsOf rest := by
  induction gap with
  | nil => rfl
  | cons c gap ih =>
      rw [List.forall_mem_cons] at others
      rw [List.cons_append, wordsOf_other others.1, ih others.2]

theorem wordsOf_word (filled : word ≠ [])
    (letters : ∀ c ∈ word, CharSet.alphanumeric.contains c = true)
    (ends : ∀ c, rest.head? = some c → CharSet.alphanumeric.contains c = false) :
    wordsOf (word ++ rest) = word :: wordsOf rest := by
  have unsplit : ∀ c ∈ word, (!CharSet.alphanumeric.contains c) = false := by
    intro c listed
    rw [letters c listed]
    rfl
  cases rest with
  | nil =>
      rw [List.append_nil, wordsOf, List.splitOnP_eq_singleton unsplit]
      simp [wordsOf, filled]
  | cons c rest =>
      have other := ends c rfl
      rw [wordsOf_other other, wordsOf,
        List.splitOnP_append_cons_of_forall_mem unsplit c (by simp [other]) rest]
      simp [wordsOf, filled]

theorem Worded.eq_wordsOf (worded : Worded text words) : words = wordsOf text := by
  induction worded with
  | @blank text others =>
      rw [← List.append_nil text, wordsOf_gap others]
      rfl
  | word others filled letters ends _ ih =>
      rw [wordsOf_gap others, wordsOf_word filled letters ends, ih]

theorem Worded.behind (worded : Worded text words)
    (others : ∀ c ∈ gap, CharSet.alphanumeric.contains c = false) : Worded (gap ++ text) words := by
  cases worded with
  | blank blanks =>
      apply Worded.blank
      intro c listed
      rcases List.mem_append.mp listed with listed | listed
      · exact others c listed
      · exact blanks c listed
  | @word before word rest words blanks filled letters ends later =>
      rw [← List.append_assoc]
      refine .word ?_ filled letters ends later
      intro c listed
      rcases List.mem_append.mp listed with listed | listed
      · exact others c listed
      · exact blanks c listed

/-- A letter in front begins a new word, or joins the word that begins there. -/
theorem exists_worded (text : List Char) : ∃ words, Worded text words := by
  induction text with
  | nil => exact ⟨[], .blank (by simp)⟩
  | cons c rest ih =>
      obtain ⟨words, worded⟩ := ih
      by_cases letter : CharSet.alphanumeric.contains c = true
      · have alone (ends : ∀ d, rest.head? = some d → CharSet.alphanumeric.contains d = false) :
            Worded ([] ++ ([c] ++ rest)) ([c] :: words) :=
          .word (by simp) (List.cons_ne_nil _ _) (by simpa using letter) ends worded
        cases worded with
        | blank others => exact ⟨_, alone fun d first => others d (List.mem_of_head? first)⟩
        | @word gap word rest words others filled letters ends later =>
            cases gap with
            | nil =>
                have longer : Worded ([] ++ (c :: word ++ rest)) ((c :: word) :: words) :=
                  .word (by simp) (List.cons_ne_nil _ _)
                    (List.forall_mem_cons.mpr ⟨letter, letters⟩) ends later
                exact ⟨_, longer⟩
            | cons d gap =>
                refine ⟨_, alone fun other first => others other ?_⟩
                cases first
                exact List.mem_cons_self
      · have other : ∀ d ∈ [c], CharSet.alphanumeric.contains d = false := by simpa using letter
        exact ⟨words, worded.behind other⟩

theorem worded_iff : Worded text words ↔ words = wordsOf text := by
  constructor
  · exact Worded.eq_wordsOf
  · rintro rfl
    obtain ⟨words, worded⟩ := exists_worded text
    exact worded.eq_wordsOf ▸ worded

theorem Worded.append {after : List Char} {more : List (List Char)} (worded : Worded text words)
    (apart : gap ≠ []) (others : ∀ c ∈ gap, CharSet.alphanumeric.contains c = false)
    (later : Worded after more) : Worded (text ++ gap ++ after) (words ++ more) := by
  induction worded with
  | blank blanks =>
      rw [List.append_assoc]
      exact (later.behind others).behind blanks
  | @word before word rest words blanks filled letters ends _ ih =>
      rw [List.append_assoc, List.append_assoc, List.append_assoc, ← List.append_assoc rest]
      refine .word blanks filled letters ?_ ih
      intro c first
      cases rest with
      | cons d rest => exact ends c first
      | nil =>
          rw [List.nil_append, List.head?_append_of_ne_nil gap apart] at first
          exact others c (List.mem_of_head? first)

end Words

/-! The stem is written word by word. -/

section Stem

variable {gap word rest text : List Char} {words : List (List Char)}

theorem stemFrom_gap (others : ∀ c ∈ gap, CharSet.alphanumeric.contains c = false)
    (started : Bool) (rest : List Char) :
    stemFrom started true (gap ++ rest) = stemFrom started true rest := by
  induction gap with
  | nil => rfl
  | cons c gap ih =>
      rw [List.forall_mem_cons] at others
      rw [List.cons_append, stemFrom, if_neg (by simp [others.1]), ih others.2]

theorem stemFrom_word (letters : ∀ c ∈ word, CharSet.alphanumeric.contains c = true)
    (rest : List Char) :
    stemFrom true false (word ++ rest) = word.flatMap lowerChar ++ stemFrom true false rest := by
  induction word with
  | nil => rfl
  | cons c word ih =>
      rw [List.forall_mem_cons] at letters
      rw [List.cons_append, stemFrom_letter letters.1, ih letters.2, List.flatMap_cons,
        List.append_assoc]
      rfl

/-- Behind a word it makes no difference whether a separator was passed, as one comes next. -/
theorem stemFrom_apart (ends : ∀ c, rest.head? = some c → CharSet.alphanumeric.contains c = false)
    (started apart : Bool) : stemFrom started apart rest = stemFrom started true rest := by
  cases rest with
  | nil => rfl
  | cons c rest =>
      have other : ¬ CharSet.alphanumeric.contains c = true := by simp [ends c rfl]
      rw [stemFrom, stemFrom, if_neg other, if_neg other]

theorem stemFrom_firstWord (filled : word ≠ [])
    (letters : ∀ c ∈ word, CharSet.alphanumeric.contains c = true)
    (ends : ∀ c, rest.head? = some c → CharSet.alphanumeric.contains c = false) (started : Bool) :
    stemFrom started true (word ++ rest) =
      (if started then ['_'] else []) ++ word.flatMap lowerChar ++ stemFrom true true rest := by
  cases word with
  | nil => exact absurd rfl filled
  | cons c word =>
      rw [List.forall_mem_cons] at letters
      rw [List.cons_append, stemFrom_letter letters.1, stemFrom_word letters.2,
        stemFrom_apart ends, Bool.and_true, List.flatMap_cons]
      simp only [List.append_assoc]

theorem stemFrom_started (worded : Worded text words) :
    stemFrom true true text = words.flatMap fun word => '_' :: word.flatMap lowerChar := by
  induction worded with
  | @blank text others =>
      rw [← List.append_nil text, stemFrom_gap others]
      rfl
  | word others filled letters ends _ ih =>
      rw [stemFrom_gap others, stemFrom_firstWord filled letters ends, ih]
      rfl

theorem intercalate_mark (first : List Char) (words : List (List Char)) :
    ['_'].intercalate (first :: words) = first ++ words.flatMap ('_' :: ·) := by
  induction words generalizing first with
  | nil => simp
  | cons second words ih => rw [List.intercalate_cons_cons, ih, List.flatMap_cons]; simp

theorem stemOfLabel_of_worded (worded : Worded text words) :
    stemOfLabel text = ['_'].intercalate (words.map (·.flatMap lowerChar)) := by
  have fresh : stemOfLabel text = stemFrom false true text := by
    rw [stemOfLabel]
    cases text with
    | nil => rfl
    | cons c rest => rw [stemFrom, stemFrom]; rfl
  rw [fresh]
  cases worded with
  | blank others =>
      rw [← List.append_nil text, stemFrom_gap others]
      rfl
  | word others filled letters ends later =>
      rw [stemFrom_gap others, stemFrom_firstWord filled letters ends, stemFrom_started later,
        List.map_cons, intercalate_mark, List.flatMap_map]
      rfl

theorem Worded.filled (worded : Worded text words) {word : List Char} (listed : word ∈ words) :
    word ≠ [] ∧ ∀ c ∈ word, CharSet.alphanumeric.contains c = true := by
  induction worded with
  | blank others => cases listed
  | word others filled letters ends _ ih =>
      rcases List.mem_cons.mp listed with rfl | listed
      · exact ⟨filled, letters⟩
      · exact ih listed

theorem intercalate_ne_nil {words : List (List Char)} (filled : ∀ word ∈ words, word ≠ [])
    (any : words ≠ []) : ['_'].intercalate words ≠ [] := by
  cases words with
  | nil => exact absurd rfl any
  | cons word words =>
      rw [intercalate_mark]
      exact List.append_ne_nil_of_left_ne_nil (filled word List.mem_cons_self) _

/-- A part without words adds nothing, not even an underscore. -/
theorem intercalate_append {words more : List (List Char)} (filled : ∀ word ∈ words, word ≠ [])
    (alsoFilled : ∀ word ∈ more, word ≠ []) :
    ['_'].intercalate (words ++ more) =
      ['_'].intercalate
        ([['_'].intercalate words, ['_'].intercalate more].filter (· ≠ [])) := by
  by_cases none : words = []
  · subst none
    by_cases noMore : more = []
    · subst noMore
      rfl
    · simp [intercalate_ne_nil alsoFilled noMore]
  · have written := intercalate_ne_nil filled none
    by_cases noMore : more = []
    · subst noMore
      simp [written]
    · have alsoWritten := intercalate_ne_nil alsoFilled noMore
      obtain ⟨first, words, rfl⟩ := List.exists_cons_of_ne_nil none
      obtain ⟨second, more, rfl⟩ := List.exists_cons_of_ne_nil noMore
      rw [List.filter_cons_of_pos (by simpa using written),
        List.filter_cons_of_pos (by simpa using alsoWritten), List.filter_nil]
      simp only [List.cons_append, intercalate_mark, List.flatMap_append, List.flatMap_cons,
        List.flatMap_nil, List.append_nil, List.append_assoc]

theorem stemOfLabel_append {after : List Char} (apart : gap ≠ [])
    (others : ∀ c ∈ gap, CharSet.alphanumeric.contains c = false) :
    stemOfLabel (text ++ gap ++ after) =
      ['_'].intercalate ([stemOfLabel text, stemOfLabel after].filter (· ≠ [])) := by
  obtain ⟨words, worded⟩ := exists_worded text
  obtain ⟨more, alsoWorded⟩ := exists_worded after
  have lowered {part : List Char} {words : List (List Char)} (worded : Worded part words) :
      ∀ word ∈ words.map (·.flatMap lowerChar), word ≠ [] := by
    intro word listed
    obtain ⟨word, among, rfl⟩ := List.mem_map.mp listed
    obtain ⟨filled, letters⟩ := worded.filled among
    obtain ⟨c, word, rfl⟩ := List.exists_cons_of_ne_nil filled
    rw [List.flatMap_cons]
    exact List.append_ne_nil_of_left_ne_nil (lowerChar_ne_nil (letters c List.mem_cons_self)) _
  rw [stemOfLabel_of_worded (worded.append apart others alsoWorded), List.map_append,
    intercalate_append (lowered worded) (lowered alsoWorded), stemOfLabel_of_worded worded,
    stemOfLabel_of_worded alsoWorded]

/-- One pass with a mark for separators writes the stem of a label: its words in lower case, joined
by underscores. So where separators divide a label, the stems of the parts are joined, less those
that are empty. -/
theorem stemOfLabel_eq_joined_words (label : List Char) :
    (label.foldl Writing.next ⟨[], false⟩).written = stemOfLabel label ∧
      (∀ words, Worded label words ↔ words = wordsOf label) ∧
      stemOfLabel label = ['_'].intercalate ((wordsOf label).map (·.flatMap lowerChar)) ∧
      ∀ before gap after, label = before ++ gap ++ after → gap ≠ [] →
        (∀ c ∈ gap, CharSet.alphanumeric.contains c = false) →
        stemOfLabel label =
          ['_'].intercalate ([stemOfLabel before, stemOfLabel after].filter (· ≠ [])) := by
  refine ⟨?_, fun words => worded_iff, ?_, ?_⟩
  · exact Writing.written_foldl label ⟨[], false⟩
  · exact stemOfLabel_of_worded (worded_iff.mpr rfl)
  · rintro before gap after rfl apart others
    exact stemOfLabel_append apart others

theorem stemOfLabel_eq_joined_words_churn :
    " -- (".toList ≠ [] ∧ (∀ c ∈ " -- (".toList, CharSet.alphanumeric.contains c = false) ∧
      stemOfLabel "  Churn -- (monthly) % ".toList = "churn_monthly".toList := by
  have all : " -- (".toList.all (CharSet.alphanumeric.contains · = false) = true := by
    decide +kernel
  have others : ∀ c ∈ " -- (".toList, CharSet.alphanumeric.contains c = false := by
    simpa only [List.all_eq_true, decide_eq_true_eq] using all
  obtain ⟨-, -, -, joined⟩ := stemOfLabel_eq_joined_words "  Churn -- (monthly) % ".toList
  refine ⟨by decide, others, ?_⟩
  rw [joined "  Churn".toList " -- (".toList "monthly) % ".toList (by decide) (by decide) others]
  decide +kernel

end Stem

end DecisionGraph

import DecisionGraph.Text.Word
import Mathlib.Data.List.TakeWhile

/-!
Patterns of characters, and where a text has them. Whether a word starts or ends somewhere depends on
what stands around, so that a pattern is matched between what is before it and what is after it.
-/

namespace DecisionGraph

inductive Pattern where
  | nothing
  | empty
  | boundary
  | one (among : Char → Bool)
  | many (among : Char → Bool)
  | both (first second : Pattern)
  | either (first second : Pattern)

namespace Pattern

/-- The characters in the middle are what the pattern says, between those before and after. -/
def Matches : Pattern → List Char → List Char → List Char → Prop
  | nothing, _, _, _ => False
  | empty, _, middle, _ => middle = []
  | boundary, before, middle, after =>
    middle = [] ∧ wordBoundary before.getLast? after.head? = true
  | one among, _, middle, _ => ∃ c, among c = true ∧ middle = [c]
  | many among, _, middle, _ => ∀ c ∈ middle, among c = true
  | both first second, before, middle, after => ∃ left right, middle = left ++ right ∧
    first.Matches before left (right ++ after) ∧ second.Matches (before ++ left) right after
  | either first second, before, middle, after =>
    first.Matches before middle after ∨ second.Matches before middle after

def Occurs (pattern : Pattern) (label : String) : Prop :=
  ∃ before middle after, label.toList = before ++ middle ++ after ∧
    pattern.Matches before middle after

def inOrder (patterns : List Pattern) : Pattern := patterns.foldr both empty

def oneOf (patterns : List Pattern) : Pattern := patterns.foldr either nothing

def optional (pattern : Pattern) : Pattern := either pattern empty

/-- The pattern is at the start of the text, and what is to come next holds behind it. -/
def Leads (pattern : Pattern) (before text : List Char)
    (next : List Char → List Char → Prop) : Prop :=
  ∃ middle rest, text = middle ++ rest ∧ pattern.Matches before middle rest ∧
    next (before ++ middle) rest

theorem occurs_iff {pattern : Pattern} {label : String} :
    pattern.Occurs label ↔
      ∃ before text, label.toList = before ++ text ∧
        pattern.Leads before text fun _ _ => True := by
  constructor
  · rintro ⟨before, middle, after, split, matched⟩
    refine ⟨before, middle ++ after, ?_, middle, after, rfl, matched, trivial⟩
    rw [split, List.append_assoc]
  · rintro ⟨before, text, split, middle, after, rfl, matched, -⟩
    refine ⟨before, middle, after, ?_, matched⟩
    rw [split, List.append_assoc]

section Leads

variable {first second : Pattern} {patterns : List Pattern} {among : Char → Bool}
  {before text : List Char} {next : List Char → List Char → Prop}

theorem not_leads_nothing : ¬ nothing.Leads before text next := by
  rintro ⟨middle, rest, _, matched, _⟩
  exact matched

theorem leads_empty : empty.Leads before text next ↔ next before text := by
  constructor
  · rintro ⟨middle, rest, rfl, rfl, follows⟩
    simpa using follows
  · intro follows
    exact ⟨[], text, rfl, rfl, by simpa using follows⟩

theorem leads_boundary : boundary.Leads before text next ↔
    wordBoundary before.getLast? text.head? = true ∧ next before text := by
  constructor
  · rintro ⟨middle, rest, rfl, ⟨rfl, bounded⟩, follows⟩
    exact ⟨bounded, by simpa using follows⟩
  · rintro ⟨bounded, follows⟩
    exact ⟨[], text, rfl, ⟨rfl, bounded⟩, by simpa using follows⟩

theorem leads_one : (one among).Leads before text next ↔
    ∃ c rest, text = c :: rest ∧ among c = true ∧ next (before ++ [c]) rest := by
  constructor
  · rintro ⟨middle, rest, rfl, ⟨c, member, rfl⟩, follows⟩
    exact ⟨c, rest, rfl, member, follows⟩
  · rintro ⟨c, rest, rfl, member, follows⟩
    exact ⟨[c], rest, rfl, ⟨c, member, rfl⟩, follows⟩

theorem leads_many : (many among).Leads before text next ↔
    ∃ run rest, text = run ++ rest ∧ (∀ c ∈ run, among c = true) ∧ next (before ++ run) rest :=
  Iff.rfl

theorem leads_both : (both first second).Leads before text next ↔
    first.Leads before text fun before text => second.Leads before text next := by
  constructor
  · rintro ⟨_, rest, rfl, ⟨left, right, rfl, leading, trailing⟩, follows⟩
    refine ⟨left, right ++ rest, ?_, leading, right, rest, rfl, trailing, ?_⟩
    · rw [List.append_assoc]
    · rwa [List.append_assoc]
  · rintro ⟨left, _, rfl, leading, right, rest, rfl, trailing, follows⟩
    refine ⟨left ++ right, rest, ?_, ⟨left, right, rfl, leading, trailing⟩, ?_⟩
    · rw [List.append_assoc]
    · rwa [← List.append_assoc]

theorem leads_either : (either first second).Leads before text next ↔
    first.Leads before text next ∨ second.Leads before text next := by
  constructor
  · rintro ⟨middle, rest, split, matched | matched, follows⟩
    · exact Or.inl ⟨middle, rest, split, matched, follows⟩
    · exact Or.inr ⟨middle, rest, split, matched, follows⟩
  · rintro (⟨middle, rest, split, matched, follows⟩ | ⟨middle, rest, split, matched, follows⟩)
    · exact ⟨middle, rest, split, Or.inl matched, follows⟩
    · exact ⟨middle, rest, split, Or.inr matched, follows⟩

theorem leads_oneOf : (oneOf patterns).Leads before text next ↔
    ∃ pattern ∈ patterns, pattern.Leads before text next := by
  induction patterns with
  | nil =>
      have none : ¬ (oneOf []).Leads before text next := not_leads_nothing
      simpa using none
  | cons pattern patterns ih =>
      rw [oneOf, List.foldr_cons, leads_either, ← oneOf, ih]
      simp only [List.mem_cons, exists_eq_or_imp]

theorem leads_inOrder_nil : (inOrder []).Leads before text next ↔ next before text :=
  leads_empty

theorem leads_inOrder_cons : (inOrder (first :: patterns)).Leads before text next ↔
    first.Leads before text fun before text => (inOrder patterns).Leads before text next :=
  leads_both

theorem leads_optional : first.optional.Leads before text next ↔
    first.Leads before text next ∨ next before text := by
  rw [optional, leads_either, leads_empty]

/-- What cannot start with a character of the run is found behind the longest one. -/
theorem leads_many_iff_dropWhile {behind : List Char → Prop}
    (same : ∀ before text, next before text ↔ behind text)
    (stops : ∀ c rest, behind (c :: rest) → among c = false) :
    (many among).Leads before text next ↔ behind (text.dropWhile among) := by
  rw [leads_many]
  constructor
  · rintro ⟨run, rest, rfl, members, follows⟩
    have found := (same _ _).mp follows
    rw [List.dropWhile_append_of_pos members]
    cases rest with
    | nil => exact found
    | cons c rest => rwa [List.dropWhile_cons_of_neg (by simp [stops c rest found])]
  · intro found
    refine ⟨text.takeWhile among, text.dropWhile among, ?_, ?_, (same _ _).mpr found⟩
    · rw [List.takeWhile_append_dropWhile]
    · intro c listed
      exact List.mem_takeWhile_imp listed

end Leads

end Pattern

end DecisionGraph

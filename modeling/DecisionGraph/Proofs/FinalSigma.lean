import DecisionGraph.Proofs.LabelStem
import DecisionGraph.Proofs.Reference
import DecisionGraph.Sample

/-!
Whether an id finds the node whose label is its stem. Labels are lower-cased character by character
and stems as a whole, and the two differ in a capital sigma at the end of a word. Without one the
label is found; with one it is not.
-/

namespace DecisionGraph

open Repair

/-- A capital sigma that ends a word: the next character before it, given in reverse, is a cased one
and the next one behind it is not, where those that case ignores are passed over. -/
def IsFinalSigma (before : List Char) (c : Char) (rest : List Char) : Prop :=
  c = 'Σ' ∧ casedNext before = true ∧ casedNext rest = false

instance (before : List Char) (c : Char) (rest : List Char) :
    Decidable (IsFinalSigma before c rest) := inferInstanceAs (Decidable (_ ∧ _ ∧ _))

/-- Some capital sigma of the text ends a word, given in reverse what stands before the text. -/
def FinalSigmaAfter (passed text : List Char) : Prop :=
  ∃ before c rest, text = before ++ c :: rest ∧ IsFinalSigma (before.reverse ++ passed) c rest

def HasFinalSigma (text : List Char) : Prop := FinalSigmaAfter [] text

theorem finalSigmaAfter_cons {passed : List Char} {c : Char} {rest : List Char} :
    FinalSigmaAfter passed (c :: rest) ↔
      IsFinalSigma passed c rest ∨ FinalSigmaAfter (c :: passed) rest := by
  constructor
  · rintro ⟨before, d, after, parts, final⟩
    cases before with
    | nil =>
        cases parts
        exact .inl final
    | cons first before =>
        cases parts
        rw [List.reverse_cons, List.append_assoc] at final
        exact .inr ⟨before, d, after, rfl, final⟩
  · rintro (final | ⟨before, d, after, rfl, final⟩)
    · exact ⟨[], c, rest, rfl, final⟩
    · refine ⟨c :: before, d, after, rfl, ?_⟩
      rw [List.reverse_cons, List.append_assoc]
      exact final

/-! The two ways of lower-casing. -/

theorem lowerChar_sigma : lowerChar 'Σ' = ['σ'] := by decide

theorem lowerAfter_cons (before : List Char) (c : Char) (rest : List Char) :
    lowerAfter before (c :: rest) =
      (if IsFinalSigma before c rest then ['ς'] else lowerChar c)
        ++ lowerAfter (c :: before) rest := by
  rw [lowerAfter]
  congr 1
  by_cases sigma : c = 'Σ'
  · subst sigma
    simp [IsFinalSigma, lowerChar_sigma]
  · simp [IsFinalSigma, sigma]

section Lowered

variable (before : List Char) (c : Char) (rest : List Char)

theorem length_lowered :
    (if IsFinalSigma before c rest then ['ς'] else lowerChar c).length = (lowerChar c).length := by
  split
  · next final => rw [final.1, lowerChar_sigma, List.length_singleton, List.length_singleton]
  · rfl

theorem lowered_eq_iff :
    (if IsFinalSigma before c rest then ['ς'] else lowerChar c) = lowerChar c ↔
      ¬ IsFinalSigma before c rest := by
  split
  · next final =>
    have other : ['ς'] ≠ lowerChar c := by
      rw [final.1, lowerChar_sigma]
      decide
    simp [final, other]
  · next other => simp [other]

end Lowered

theorem length_lowerAfter (before text : List Char) :
    (lowerAfter before text).length = (text.flatMap lowerChar).length := by
  induction text generalizing before with
  | nil => rfl
  | cons c rest ih =>
      rw [lowerAfter_cons, List.flatMap_cons, List.length_append, List.length_append,
        length_lowered, ih]

theorem lowerAfter_eq_iff (passed text : List Char) :
    lowerAfter passed text = text.flatMap lowerChar ↔ ¬ FinalSigmaAfter passed text := by
  induction text generalizing passed with
  | nil =>
      have none : ¬ FinalSigmaAfter passed [] := by
        rintro ⟨before, c, rest, parts, -⟩
        simp at parts
      exact ⟨fun _ => none, fun _ => rfl⟩
  | cons c rest ih =>
      rw [lowerAfter_cons, List.flatMap_cons, finalSigmaAfter_cons, not_or, ← ih,
        ← lowered_eq_iff]
      constructor
      · exact fun same => List.append_inj same (length_lowered passed c rest)
      · rintro ⟨first, others⟩
        rw [first, others]

theorem lowerText_eq_iff (text : List Char) :
    lowerText text = text.flatMap lowerChar ↔ ¬ HasFinalSigma text := lowerAfter_eq_iff [] text

/-- The text as a whole stands in lower case within the text lower-cased character by character
just when the two are the same. -/
theorem lowerText_infix_iff (text : List Char) :
    lowerText text <:+: text.flatMap lowerChar ↔ ¬ HasFinalSigma text := by
  rw [← lowerText_eq_iff]
  constructor
  · exact fun within => within.eq_of_length (length_lowerAfter [] text)
  · intro same
    exact same ▸ List.infix_refl _

/-! Labels against stems. -/

namespace Graph

variable {graph : Graph} {labels : SortedMap String} {id family stem : String} {node : Node}

/-- An id whose node is looked for by its label: it is not declared, and its stem has the shape of a
stem, is long enough and fits the stem of no node of the family. -/
structure Unmatched (graph : Graph) (id family stem : String) : Prop where
  splits : Splits id family stem
  undeclared : ¬ ∃ node ∈ graph.nodes, node.id = id
  chars : ∀ c ∈ stem.toList, IsStemChar c
  spaced : Spaced stem.toList
  long : shortestStem ≤ (lowerText stem.toList).length
  noStem : ∀ node, ¬ graph.StemFits family (lowerText stem.toList) node

/-- A live node of the family has the text for its label, and no other label is given for it. -/
structure Bears (graph : Graph) (labels : SortedMap String) (family text : String)
    (node : Node) : Prop where
  found : graph.Finds node
  relative : InFamily family node.id
  label : node.label = text
  own : labels.get? node.id = none

theorem labelFits_iff_of_bears (unmatched : graph.Unmatched id family stem)
    (bears : graph.Bears labels family stem node) :
    graph.LabelFits labels family (lowerText stem.toList) node ↔ ¬ HasFinalSigma stem.toList := by
  rw [LabelFits, bears.own, Option.getD_none, bears.label,
    stemOfLabel_of_spaced unmatched.chars unmatched.spaced, lowerText_infix_iff]
  simp [bears.found, bears.relative]

theorem refers_iff_of_unmatched (unmatched : graph.Unmatched id family stem) :
    graph.Refers labels id node ↔
      Only (graph.LabelFits labels family (lowerText stem.toList)) node := by
  constructor
  · rintro ⟨other, own, splits, -, fitting⟩
    have same := familyAndStem?_eq_some_iff.mpr splits
    rw [familyAndStem?_eq_some_iff.mpr unmatched.splits] at same
    cases same
    rcases fitting with ⟨fits, -⟩ | ⟨-, only⟩
    · exact absurd fits (unmatched.noStem node)
    · exact only
  · exact fun only => ⟨family, stem, unmatched.splits, unmatched.long,
      .inr ⟨unmatched.noStem, only⟩⟩

/-- A node whose label is the stem of an id fits by its label just when no capital sigma ends a word
of the stem. So the constraint is moved to the node just when that is so and no other label fits. -/
theorem label_found_iff (graph : Graph) (labels : SortedMap String) (constraint : Constraint)
    {family stem : String} {node : Node}
    (unmatched : graph.Unmatched constraint.node family stem)
    (bears : graph.Bears labels family stem node) :
    (graph.LabelFits labels family (lowerText stem.toList) node ↔
        ¬ HasFinalSigma stem.toList) ∧
      ((aimConstraint graph labels constraint).value = some { constraint with node := node.id } ↔
        ¬ HasFinalSigma stem.toList ∧
          ∀ other, graph.LabelFits labels family (lowerText stem.toList) other →
            other = node) := by
  have fits := labelFits_iff_of_bears unmatched bears
  refine ⟨fits, ?_⟩
  rw [aimed_iff, ← fits]
  constructor
  · rintro (⟨declared, -⟩ | ⟨-, target, refers, same⟩)
    · exact absurd declared unmatched.undeclared
    · have only := (refers_iff_of_unmatched unmatched).mp refers
      have ids : node.id = target.id := congrArg Constraint.node same
      cases bears.found.eq only.1.1 ids
      exact only
  · intro only
    exact .inr ⟨unmatched.undeclared, node, (refers_iff_of_unmatched unmatched).mpr only, rfl⟩

end Graph

namespace Sample

def road : Node := .bareFactor "fac_road" "ΟΔΟΣ"

def porch : Node := .bareFactor "fac_porch" "ΣΤΟΑ"

def streets : Graph := (minimal.pushNode road).pushNode porch

/-- In either word no stem fits: not those of the prices, the road and the porch. -/
theorem unmatched_streets {stem : String} (word : stem = "ΟΔΟΣ" ∨ stem = "ΣΤΟΑ") :
    streets.Unmatched ("fac" ++ "_" ++ stem) "fac" stem := by
  have letters {text : List Char} (all : text.all CharSet.alphanumeric.contains = true) :
      ∀ c ∈ text, IsStemChar c := fun c listed => .inl (List.all_eq_true.mp all c listed)
  have noStem {stem : List Char}
      (none : (candidates streets .empty "fac").filter (Candidate.fitsStem stem) = []) :
      ∀ node, ¬ streets.StemFits "fac" stem node :=
    (filter_candidates_eq_nil_iff stemFits_iff).mp none
  rcases word with rfl | rfl
  · exact ⟨⟨by decide, by decide, by decide, rfl⟩, by decide, letters (by decide),
      ⟨by decide, by decide, by decide⟩, by decide, noStem (by decide)⟩
  · exact ⟨⟨by decide, by decide, by decide, rfl⟩, by decide, letters (by decide),
      ⟨by decide, by decide, by decide⟩, by decide, noStem (by decide)⟩

theorem bears_road : streets.Bears .empty "fac" "ΟΔΟΣ" road :=
  ⟨⟨6, by decide⟩, ⟨by decide, by decide, "road", by decide, rfl⟩, rfl, rfl⟩

theorem bears_porch : streets.Bears .empty "fac" "ΣΤΟΑ" porch :=
  ⟨⟨7, by decide⟩, ⟨by decide, by decide, "porch", by decide, rfl⟩, rfl, rfl⟩

theorem hasFinalSigma_road : HasFinalSigma "ΟΔΟΣ".toList :=
  ⟨"ΟΔΟ".toList, 'Σ', [], rfl, by decide⟩

end Sample

/-- The sigma at the end of the road keeps it from being found, that at the start of the porch does
not. -/
theorem Graph.label_found_iff_streets :
    let lost : Constraint := ⟨"gc_1", "fac_ΟΔΟΣ", ">=", 1.0, none⟩
    let found : Constraint := ⟨"gc_2", "fac_ΣΤΟΑ", ">=", 1.0, none⟩
    (aimConstraint Sample.streets .empty lost).value ≠ some { lost with node := "fac_road" } ∧
      (aimConstraint Sample.streets .empty found).value =
        some { found with node := "fac_porch" } := by
  intro lost found
  constructor
  · have road := Sample.streets.label_found_iff .empty lost
      (Sample.unmatched_streets (.inl rfl)) Sample.bears_road
    exact fun moved => (road.2.mp moved).1 Sample.hasFinalSigma_road
  · have porch := Sample.streets.label_found_iff .empty found
      (Sample.unmatched_streets (.inr rfl)) Sample.bears_porch
    have plain : ¬ HasFinalSigma "ΣΤΟΑ".toList := (lowerText_eq_iff _).mp (by decide +kernel)
    obtain ⟨only, alone, -⟩ := (exists_only_candidate_iff labelFits_iff).mp
      (⟨⟨"fac_porch", "porch".toList, "ΣΤΟΑ"⟩, by decide +kernel, rfl⟩ : ∃ only,
        (candidates Sample.streets .empty "fac").filter
          (Candidate.fitsLabel (lowerText "ΣΤΟΑ".toList)) = [only] ∧ only.id = "fac_porch")
    refine porch.2.mpr ⟨plain, fun other fits => ?_⟩
    rw [alone.2 other fits, alone.2 _ (porch.1.mpr plain)]

theorem Graph.label_not_found :
    ¬ ∀ (graph : Graph) (labels : SortedMap String) (id family stem : String) (node : Node),
      graph.Unmatched id family stem → graph.Bears labels family stem node →
        graph.LabelFits labels family (lowerText stem.toList) node := by
  intro found
  have fits := found Sample.streets .empty _ _ _ _ (Sample.unmatched_streets (.inl rfl))
    Sample.bears_road
  have words := labelFits_iff_of_bears (Sample.unmatched_streets (.inl rfl)) Sample.bears_road
  exact words.mp fits Sample.hasFinalSigma_road

end DecisionGraph

import DecisionGraph.Proofs.Passes
import Mathlib.Data.List.Nodup
import Mathlib.Logic.Function.Basic

/-!
A path names one place. The digits of a position end at a bracket, so a path can be read in one way
only, and an issue with a path is a finding at its place.
-/

namespace DecisionGraph

theorem toDigits_inj {number other : Nat} :
    Nat.toDigits 10 number = Nat.toDigits 10 other ↔ number = other := by
  constructor
  · intro same
    simpa [Nat.ofDigitChars_toDigits] using congrArg (Nat.ofDigitChars 10 · 0) same
  · rintro rfl
    rfl

theorem takeWhile_toDigits (number : Nat) (rest : List Char) :
    (Nat.toDigits 10 number ++ ']' :: rest).takeWhile Char.isDigit = Nat.toDigits 10 number := by
  rw [List.takeWhile_append_of_pos]
  · rw [List.takeWhile_cons_of_neg (by decide), List.append_nil]
  · intro digit listed
    exact Nat.isDigit_of_mem_toDigits (by decide) (by decide) listed

theorem bracketed_iff {number other : Nat} {rest others : List Char} :
    Nat.toDigits 10 number ++ ']' :: rest = Nat.toDigits 10 other ++ ']' :: others ↔
      number = other ∧ rest = others := by
  constructor
  · intro same
    have digits : Nat.toDigits 10 number = Nat.toDigits 10 other := by
      rw [← takeWhile_toDigits number rest, same, takeWhile_toDigits]
    rw [digits] at same
    exact ⟨toDigits_inj.mp digits, by simpa using same⟩
  · rintro ⟨rfl, rfl⟩
    rfl

namespace Place

/-- The letters of a path: a word, the digits of a position in brackets, and a field. -/
theorem toList_text (place : Place) :
    place.text.toList = match place with
      | nodes => "nodes".toList
      | edges => "edges".toList
      | node position => "nodes[".toList ++ (Nat.toDigits 10 position ++ [']'])
      | nodeField position field =>
        "nodes[".toList ++ (Nat.toDigits 10 position ++ ']' :: '.' :: field.toList)
      | edge position => "edges[".toList ++ (Nat.toDigits 10 position ++ [']'])
      | edgeField position field =>
        "edges[".toList ++ (Nat.toDigits 10 position ++ ']' :: '.' :: field.toList) := by
  cases place <;> simp [text, toString]

theorem text_injective : Function.Injective text := by
  intro place other same
  have letters := congrArg String.toList same
  rw [toList_text, toList_text] at letters
  cases place <;> cases other <;>
    simp [bracketed_iff, toDigits_inj, String.toList_inj] at letters ⊢
  all_goals exact letters

theorem text_edge_injective : Function.Injective fun position => (edge position).text := by
  intro position other same
  cases text_injective same
  rfl

theorem text_node_injective : Function.Injective fun position => (node position).text := by
  intro position other same
  cases text_injective same
  rfl

/-- Where an option sets a factor. -/
def setting (position : Nat) (factor : String) : Place :=
  .nodeField position s!"data.interventions.{factor}"

theorem setting_inj {position place : Nat} {factor other : String} :
    setting position factor = setting place other ↔ position = place ∧ factor = other := by
  constructor
  · intro same
    obtain ⟨rfl, fields⟩ := nodeField.inj same
    have letters := congrArg String.toList fields
    exact ⟨rfl, by simpa [toString, String.toList_inj] using letters⟩
  · intro same
    rw [same.1, same.2]

end Place

/-- The report has an issue with the code at the place. -/
def Report.Names (report : Report) (code : IssueCode) (place : Place) : Prop :=
  ∃ issue ∈ report.withCode code, issue.path = place.text

namespace Graph

variable {graph : Graph} {limits : Limits}

theorem names_check_iff {code : IssueCode} {place : Place} :
    (graph.check limits).Names code place ↔
      ∃ finding ∈ (Survey.ofGraph graph).findings limits, finding.code = code ∧
        finding.place = place := by
  constructor
  · rintro ⟨issue, reported, path⟩
    obtain ⟨finding, found, code, rfl⟩ := mem_withCode_iff.mp reported
    exact ⟨finding, found, code, Place.text_injective path⟩
  · rintro ⟨finding, found, code, rfl⟩
    exact ⟨finding.issue, mem_withCode_iff.mpr ⟨finding, found, code, rfl⟩, rfl⟩

end Graph

theorem Graph.names_iff_of_filter {graph : Graph} {limits : Limits} {code : IssueCode}
    {findings : List Finding} {place : Place}
    (all : (((Survey.ofGraph graph).findings limits).filter fun finding =>
      finding.code = code) = findings) :
    (graph.check limits).Names code place ↔ ∃ finding ∈ findings, finding.place = place := by
  rw [names_check_iff, ← all]
  simp [and_assoc]

/-- The issues with a code stand at the marked places, one at each and none elsewhere. -/
structure Report.Pinpoints (report : Report) (code : IssueCode) (marked : Place → Prop) :
    Prop where
  once : ((report.withCode code).map Issue.path).Nodup
  exact : ∀ path, path ∈ (report.withCode code).map Issue.path ↔
    ∃ place, marked place ∧ place.text = path

theorem Report.Pinpoints.names_iff {report : Report} {code : IssueCode} {marked : Place → Prop}
    (pinpoints : report.Pinpoints code marked) {place : Place} :
    report.Names code place ↔ marked place := by
  have listed := pinpoints.exact place.text
  rw [List.mem_map] at listed
  rw [Names, listed]
  constructor
  · intro found
    obtain ⟨other, marks, same⟩ := found
    rwa [← Place.text_injective same]
  · intro marks
    exact ⟨place, marks, rfl⟩

/-- The issues with a code stand where the findings with the code were made. -/
theorem Graph.pinpoints_check {graph : Graph} {limits : Limits} {code : IssueCode}
    {marked : Place → Prop} {findings : List Finding}
    (all : (((Survey.ofGraph graph).findings limits).filter fun finding =>
      finding.code = code) = findings)
    (once : (findings.map Finding.place).Nodup)
    (places : ∀ place, place ∈ findings.map Finding.place ↔ marked place) :
    (graph.check limits).Pinpoints code marked := by
  have paths : ((graph.check limits).withCode code).map Issue.path =
      (findings.map Finding.place).map Place.text := by
    rw [withCode_check, all, List.map_map, List.map_map]
    rfl
  constructor
  · rw [paths]
    exact once.map Place.text_injective
  · intro path
    simp only [paths, List.mem_map (f := Place.text), places]

end DecisionGraph

import DecisionGraph.Proofs.Fit
import DecisionGraph.Proofs.Position
import DecisionGraph.Proofs.Settled
import DecisionGraph.Readiness

/-!
What a repair promises is kept: the gate opens, no factor claims a category that it does not have,
no word is foreign, and what may still be missing is what a repair cannot know.
-/

namespace DecisionGraph

open Repair

/-- What a repair promises of the graph that it leaves behind. -/
structure Graph.Promised (filled : Bool) (limits : Limits) (graph : Graph) : Prop where
  gate : graph.gate.valid = true
  noMismatch : (graph.check limits).hasCode .categoryMismatch = false
  /-- Of every factor, also when its id finds another node. -/
  claims : ∀ position node, graph.nodes[position]? = some node → node.isFactor = true →
    ∃ category, graph.category? position = some category ∧ node.declaredCategory? = some category
  words : ∀ node ∈ graph.nodes, ∀ data, node.factorData? = some data → data.InVocabulary
  directions : ∀ edge ∈ graph.edges, ∀ text, edge.direction ≠ some (.foreign text)
  /-- Values and their extraction are not made up. -/
  missing : filled = true → ∀ issue ∈ (graph.check limits).withCode .controllableMissingData,
    ∃ position id keys,
      issue = (Finding.dataDefect position id .controllable (.missing keys)).issue ∧
        ∀ key ∈ keys, key = .value ∨ key = .extraction

namespace Graph

variable {graph : Graph} {limits : Limits}

theorem gate_valid_iff :
    graph.gate.valid = true ↔
      ∀ edge ∈ graph.edges, ∀ position, signFinding? edge position = none := by
  have nothing (edge : Edge) (position other : Nat)
      (none : signFinding? edge position = none) : signFinding? edge other = Option.none := by
    unfold signFinding? at none ⊢
    split at none
    · split at none
      · next same => rw [if_pos same]
      · cases none
    · rfl
  simp only [gate, GateReport.ofErrors, List.isEmpty_iff, List.map_eq_nil_iff, signFindings,
    List.filterMap_eq_nil_iff]
  constructor
  · intro none edge member position
    obtain ⟨place, found⟩ := List.mem_iff_getElem?.mp member
    have here := none (edge, place) (List.mem_zipIdx_iff_getElem?.mpr found)
    exact nothing edge place position here
  · rintro none ⟨edge, position⟩ member
    exact none edge (List.fst_mem_of_mem_zipIdx member) position

theorem signFinding?_of_settled {edge : Edge} (settled : edge.Settled) (position : Nat) :
    signFinding? edge position = none := by
  unfold signFinding?
  split
  · next declared implied stated sign =>
    cases declared with
    | word direction => rw [settled.sign direction implied stated sign, if_pos rfl]
    | foreign text => exact absurd stated (settled.word text)
  · rfl

theorem gate_valid_of_settled {filled : Bool} (settled : graph.Settled filled) :
    graph.gate.valid = true :=
  gate_valid_iff.mpr fun edge member position =>
    signFinding?_of_settled (settled.edges edge member) position

/-- What is found about the data of a settled factor is about the data and not about its claim. -/
theorem data_of_settled {filled : Bool} (settled : graph.Settled filled) {finding : Finding}
    (found : finding ∈ (Survey.ofGraph graph).data) :
    ∃ node position category, (node, position) ∈ graph.live ∧
      graph.category? position = some category ∧
      ∃ defect ∈ Payload.defects node.factorData? category,
        finding = .dataDefect position node.id category defect := by
  obtain ⟨node, position, category, live, inferred, found⟩ := Survey.mem_data.mp found
  change (node, position) ∈ graph.live at live
  change graph.category? position = some category at inferred
  refine ⟨node, position, category, live, inferred, ?_⟩
  rcases Survey.mem_dataOf.mp found with defect | ⟨declared, claim, wrong, _⟩
  · exact defect
  · have listed := (mem_live_iff.mp live).1
    have isFactor := (category?_isSome_iff listed).mp (by simp [inferred])
    have claimed := (settled.nodes position node listed).claim category inferred isFactor
    exact absurd (Option.some.inj (claim.symm.trans claimed)) wrong

theorem noMismatch_of_settled {filled : Bool} (settled : graph.Settled filled) (limits : Limits) :
    (graph.check limits).hasCode .categoryMismatch = false := by
  rw [Report.hasCode, List.any_eq_false]
  intro issue member coded
  obtain ⟨finding, found, rfl⟩ := mem_issues_check.mp member
  have code : finding.code = .categoryMismatch := of_decide_eq_true coded
  have found := Survey.mem_data_of_origin found (by rw [code]; rfl)
  obtain ⟨_, _, category, _, _, defect, _, rfl⟩ := data_of_settled settled found
  cases category <;> cases defect <;> cases code

theorem missing_of_settled (settled : graph.Settled true) {issue : Issue}
    (member : issue ∈ (graph.check limits).withCode .controllableMissingData) :
    ∃ position id keys,
      issue = (Finding.dataDefect position id .controllable (.missing keys)).issue ∧
        ∀ key ∈ keys, key = .value ∨ key = .extraction := by
  obtain ⟨reported, coded⟩ := List.mem_filter.mp member
  obtain ⟨finding, found, rfl⟩ := mem_issues_check.mp reported
  have code : finding.code = .controllableMissingData := of_decide_eq_true coded
  have found := Survey.mem_data_of_origin found (by rw [code]; rfl)
  obtain ⟨node, position, category, live, inferred, defect, listed, rfl⟩ :=
    data_of_settled settled found
  cases category with
  | controllable =>
      obtain ⟨_, rfl⟩ := DataDefect.mem_absent.mp listed
      refine ⟨_, _, _, rfl, fun key lacking => ?_⟩
      have listed := (mem_live_iff.mp live).1
      have isFactor := (category?_isSome_iff listed).mp (by simp [inferred])
      obtain ⟨data, stated, type, drivers⟩ :=
        (settled.nodes position node listed).complete rfl inferred isFactor
      cases key with
      | value => exact Or.inl rfl
      | extraction => exact Or.inr rfl
      | factorType => simp [stated, FactorData.has, type] at lacking
      | drivers => simp [stated, FactorData.has, drivers] at lacking
  | observable => cases defect <;> cases code
  | external => cases defect <;> cases code

theorem promised_of_settled {filled : Bool} (settled : graph.Settled filled) (limits : Limits) :
    graph.Promised filled limits where
  gate := gate_valid_of_settled settled
  noMismatch := noMismatch_of_settled settled limits
  claims position node listed isFactor := by
    obtain ⟨category, inferred⟩ :=
      Option.isSome_iff_exists.mp ((category?_isSome_iff listed).mpr isFactor)
    exact ⟨category, inferred,
      (settled.nodes position node listed).claim category inferred isFactor⟩
  words node member data stated := by
    obtain ⟨position, listed⟩ := List.mem_iff_getElem?.mp member
    exact (settled.nodes position node listed).words data stated
  directions edge member := (settled.edges edge member).word
  missing := by
    rintro rfl issue member
    exact missing_of_settled settled member

/-- A repair keeps its promises, so only the report decides whether the repaired graph is ready. -/
theorem repair_promised (graph : Graph) (options : Repair.Options) (limits : Limits) :
    (graph.repair options).1.Promised options.fill limits ∧
      (graph.prepare (some options) limits).2.isReady =
        (graph.prepare (some options) limits).2.report.valid := by
  have settled : (graph.repair options).1.Settled options.fill := by
    rw [value_repair]
    exact graph.settled_mended options.fill
  refine ⟨promised_of_settled settled limits, ?_⟩
  change (((graph.repair options).1.check limits).valid && (graph.repair options).1.gate.valid) = _
  rw [gate_valid_of_settled settled, Bool.and_true]
  rfl

end Graph

end DecisionGraph

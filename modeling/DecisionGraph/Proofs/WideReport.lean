import DecisionGraph.Proofs.Promise
import DecisionGraph.Proofs.Renewal
import DecisionGraph.Proofs.Verdict
import DecisionGraph.Proofs.WideGraph

/-!
A check finds nothing in a wide graph but that it is too large, if it is. The gate and a repair find
nothing either.
-/

namespace DecisionGraph.Sample

open Station Survey

variable {factors options : Nat} {source target : Station}

/-! Advice. -/

/-- The edges carry three kinds of numbers, whatever they join. -/
theorem holds_numbers (holds : Float → Option Float → Option Float → Prop)
    (effect : holds 0.5 (some 0.1) (some 0.8)) (gain : holds 0.4 (some 0.1) (some 0.8))
    (scaffold : holds 1.0 (some 0.01) (some 1.0)) (source target : Station) :
    holds (source.edge target).mean (source.edge target).deviation
      (source.edge target).effectiveBelief? := by
  cases source with
  | lever _ => exact effect
  | result _ => exact gain
  | _ => exact scaffold

theorem rangeAdvice_edge (source target : Station) (position : Nat) :
    rangeAdvice (source.edge target) position = [] := by
  have weak := holds_numbers (fun mean _ _ => (!(mean.isFinite && decide (1 < mean.abs))) = true)
    (by decide) (by decide) (by decide) source target
  have likely := holds_numbers
    (fun _ _ belief => ((belief.filter Float.isFinite).all fun belief =>
      (0 ≤ belief && belief ≤ 1) && !decide (belief < lowConfidence)) = true)
    (by decide) (by decide) (by decide) source target
  rw [rangeAdvice, weak, Finding.unless, if_pos rfl, List.nil_append, beliefAdvice]
  split
  · rfl
  · next belief stated =>
    rw [stated, Option.all_some, Bool.and_eq_true, Bool.not_eq_true', decide_eq_false_iff_not]
      at likely
    rw [likely.1, Bool.not_true, if_neg Bool.false_ne_true, if_neg likely.2]

/-- The ends of an edge that is linked are what its track joins. -/
theorem linked_wide {link : Link} {edge : Edge}
    (listed : (link, edge) ∈ (Survey.ofGraph (wide factors options)).linkedEdges) :
    ∃ source target : Station, Track factors options source target ∧ edge = source.edge target ∧
      (wide factors options).kindAt? link.source = some source.kind ∧
      (wide factors options).kindAt? link.target = some target.kind := by
  have kindAt {id : String} {position : Nat} {station : Station} (same : id = station.id)
      (found : (wide factors options).position? id = some position) :
      (wide factors options).kindAt? position = some station.kind := by
    obtain ⟨node, there, rfl⟩ := Graph.getElem?_of_position? found
    obtain ⟨other, _, rfl, kind, place⟩ := station_of_mem (List.mem_of_getElem? there)
    cases id_injective (place.symm.trans same)
    exact Graph.kindAt?_eq_some_iff.mpr ⟨_, there, kind⟩
  obtain ⟨linked, there⟩ := (mem_linkedEdges_iff rfl).mp listed
  obtain ⟨other, also, leaves, enters⟩ := Graph.mem_links_iff.mp linked
  cases there.symm.trans also
  obtain ⟨source, target, track, rfl⟩ := mem_edges_wide.mp (List.mem_of_getElem? there)
  exact ⟨source, target, track, rfl, kindAt source_edge leaves, kindAt target_edge enters⟩

theorem polarityAdvice_wide {link : Link} {edge : Edge}
    (listed : (link, edge) ∈ (Survey.ofGraph (wide factors options)).linkedEdges) :
    (Survey.ofGraph (wide factors options)).polarityAdvice link edge = [] := by
  obtain ⟨source, target, track, rfl, leaves, enters⟩ := linked_wide listed
  have raises := holds_numbers (fun mean _ _ => (!decide (mean < 0)) = true)
    (by decide) (by decide) (by decide) source target
  simp only [polarityAdvice, Survey.ofGraph, leaves, enters]
  cases track with
  | gain _ => exact Finding.unless_eq_nil_iff.mpr raises
  | _ => rfl

theorem deviationAdvice_wide {link : Link} {edge : Edge}
    (listed : (link, edge) ∈ (Survey.ofGraph (wide factors options)).linkedEdges) :
    (Survey.ofGraph (wide factors options)).deviationAdvice link edge = [] := by
  obtain ⟨source, target, track, rfl, leaves, enters⟩ := linked_wide listed
  have kept : (some 0.1 : Option Float).filter Float.isFinite = some 0.1 := by decide
  simp only [deviationAdvice, isScaffold, Survey.ofGraph, leaves, enters]
  cases track with
  | choice _ => rfl
  | pull _ _ => rfl
  | effect _ =>
      simp only [Station.kind, Station.edge, Edge.causal, kept]
      rfl
  | gain _ =>
      simp only [Station.kind, Station.edge, Edge.causal, kept]
      rfl

theorem looseScaffold_wide : (Survey.ofGraph (wide factors options)).looseScaffold = [] := by
  apply List.filterMap_eq_nil_iff.mpr
  rintro ⟨link, edge⟩ listed
  obtain ⟨source, target, track, rfl, leaves, enters⟩ := linked_wide listed
  simp only [Survey.ofGraph, leaves, enters]
  split
  · rfl
  · next loose =>
    cases track with
    | choice _ => exact absurd (isScaffold_scaffold _ _) loose
    | pull _ _ => exact absurd (isScaffold_scaffold _ _) loose
    | effect _ => rfl
    | gain _ => rfl

theorem driverAdvice_node (survey : Survey) (station : Station) (position : Nat) :
    survey.driverAdvice (station.node factors) position = [] := by
  unfold driverAdvice
  split
  · next stated =>
    cases station <;> cases stated
  · rfl

theorem advice_wide : (Survey.ofGraph (wide factors options)).advice = [] := by
  simp only [advice, List.append_eq_nil_iff, List.flatMap_eq_nil_iff]
  refine ⟨⟨?_, ?_⟩, ?_⟩
  · rintro ⟨edge, position⟩ listed
    obtain ⟨source, target, _, rfl⟩ := mem_edges_wide.mp (List.fst_mem_of_mem_zipIdx listed)
    exact rangeAdvice_edge source target position
  · rintro ⟨link, edge⟩ listed
    exact ⟨polarityAdvice_wide listed, deviationAdvice_wide listed⟩
  · rintro ⟨node, position⟩ live
    obtain ⟨listed, _⟩ := Graph.mem_live_iff.mp live
    obtain ⟨station, _, rfl, _, _⟩ := station_of_mem (List.mem_of_getElem? listed)
    exact driverAdvice_node _ station position

/-! Repair. -/

theorem settled_edge (source target : Station) : (source.edge target).Settled := by
  have up (mean : Float) (raises : Direction.ofMean? mean = some .positive) {edge : Edge}
      (same : edge.mean = mean) (stated : edge.direction = some (.word .positive)) :
      edge.Settled := by
    constructor
    · intro text found
      cases stated.symm.trans found
    · intro declared implied found sign
      cases stated.symm.trans found
      rw [same, raises, Option.some.injEq] at sign
      exact sign
  have effect : Direction.ofMean? 0.5 = some .positive := by decide
  have gain : Direction.ofMean? 0.4 = some .positive := by decide
  have scaffold : Direction.ofMean? 1.0 = some .positive := by decide
  cases source with
  | lever _ => exact up 0.5 effect rfl (congrArg (Option.map Term.word) effect)
  | result _ => exact up 0.4 gain rfl (congrArg (Option.map Term.word) gain)
  | _ => exact up 1.0 scaffold rfl rfl

theorem settled_wide (someOption : 0 < options) : (wide factors options).Settled true where
  nodes position node listed := by
    obtain ⟨station, there, rfl, kind, _⟩ := station_of_mem (List.mem_of_getElem? listed)
    constructor
    · intro category inferred isFactor
      rw [Graph.category?_eq_some_iff sound_wide listed, infers_iff there someOption] at inferred
      obtain ⟨isLever, rfl⟩ := inferred
      cases station <;> cases isLever
      rfl
    · intro data stated
      cases station <;> cases stated
      constructor
      · intro text foreign
        cases foreign
      · intro text foreign
        cases foreign
    · intro _ _ isFactor
      cases station <;> cases isFactor
      exact ⟨_, rfl, rfl, rfl⟩
  edges edge member := by
    obtain ⟨source, target, _, rfl⟩ := mem_edges_wide.mp member
    exact settled_edge source target

/-! The report. -/

theorem findings_wide (limits : Limits) (someFactor : 0 < factors) (someOption : 0 < options)
    (small : 10 * options + factors < 2 ^ 53)
    (accepted : limits.minOptions ≤ options ∧ options ≤ limits.maxOptions) :
    (Survey.ofGraph (wide factors options)).findings limits =
      Finding.unless ((wide factors options).nodes.length ≤ limits.nodes)
          (.tooManyNodes (wide factors options).nodes.length limits.nodes)
        ++ Finding.unless ((wide factors options).edges.length ≤ limits.edges)
          (.tooManyEdges (wide factors options).edges.length limits.edges) := by
  have formed : (wide factors options).WellFormed { limits with
      nodes := (wide factors options).nodes.length
      edges := (wide factors options).edges.length } :=
    wellFormed_wide someFactor someOption small accepted length_nodes_wide.ge length_edges_wide.ge
  obtain ⟨census, wiring, connection, data, choice, numbers, _, finite⟩ :=
    Graph.valid_check_iff_passes.mp (Graph.valid_of_wellFormed formed)
  obtain ⟨counts, repeated, undeclared⟩ := census_eq_nil_iff.mp census
  simp only [Survey.counts, List.append_eq_nil_iff] at counts
  obtain ⟨⟨⟨⟨⟨goal, decision⟩, option⟩, bridge⟩, _⟩, _⟩ := counts
  simp only [Survey.findings, Survey.census, Survey.counts, goal, decision, option, bridge,
    repeated, undeclared, wiring, connection, data, choice, numbers, finite, looseScaffold_wide,
    advice_wide, List.nil_append, List.append_nil]
  rfl

/-- An issue that blocks is an error, and no warning. -/
theorem split_unless {limit : Prop} [Decidable limit] {finding : Finding}
    (grave : finding.issue.isBlocking = true) :
    ((Finding.unless limit finding).map Finding.issue).filter Issue.isBlocking =
        (if limit then [] else [finding.issue]) ∧
      ((Finding.unless limit finding).map Finding.issue).filter (fun issue => !issue.isBlocking) =
        [] := by
  by_cases within : limit
  · simp [Finding.unless, within]
  · simp [Finding.unless, within, grave]

section Size

variable {graph : Graph} {limits : Limits}
  (found : (Survey.ofGraph graph).findings limits =
    Finding.unless (graph.nodes.length ≤ limits.nodes)
        (.tooManyNodes graph.nodes.length limits.nodes)
      ++ Finding.unless (graph.edges.length ≤ limits.edges)
        (.tooManyEdges graph.edges.length limits.edges))

include found

/-- Where only the size of a graph is at fault, the errors say so, and there is no warning. -/
theorem report_of_size :
    (graph.check limits).errors =
        (if graph.nodes.length ≤ limits.nodes then []
          else [(Finding.tooManyNodes graph.nodes.length limits.nodes).issue]) ++
        (if graph.edges.length ≤ limits.edges then []
          else [(Finding.tooManyEdges graph.edges.length limits.edges).issue]) ∧
      (graph.check limits).warnings = [] := by
  have nodes : (Finding.tooManyNodes graph.nodes.length limits.nodes).issue.isBlocking = true := rfl
  have edges : (Finding.tooManyEdges graph.edges.length limits.edges).issue.isBlocking = true := rfl
  simp only [Graph.check, Report.ofIssues, found, List.map_append, List.filter_append,
    split_unless nodes, split_unless edges, List.append_nil, and_self]

theorem valid_of_size :
    (graph.check limits).valid = true ↔
      graph.nodes.length ≤ limits.nodes ∧ graph.edges.length ≤ limits.edges := by
  rw [Graph.valid_check_iff_errors, (report_of_size found).1, List.append_eq_nil_iff]
  simp only [ite_eq_left_iff, List.cons_ne_nil, imp_false, Classical.not_not]

end Size

theorem gate_wide (someOption : 0 < options) : (wide factors options).gate = ⟨true, []⟩ := by
  have settled : (wide factors options).Settled true := settled_wide someOption
  have errors : (wide factors options).gate.errors = [] :=
    List.isEmpty_iff.mp (Graph.gate_valid_of_settled settled)
  change GateReport.ofErrors _ = _
  rw [show ((wide factors options).signFindings.map Finding.issue) = [] from errors]
  rfl

/-- Whatever its size, a wide graph has no fault but that it exceeds the limits: no warning is given,
the gate lets it pass, and a repair changes nothing. -/
theorem wide_faultless (limits : Limits) (someFactor : 1 ≤ factors) (someOption : 1 ≤ options)
    (small : 10 * options + factors < 2 ^ 53)
    (accepted : limits.minOptions ≤ options ∧ options ≤ limits.maxOptions) :
    let graph := wide factors options
    let report := graph.check limits
    graph.nodes.length = 2 + 2 * factors + options ∧
      graph.edges.length = 2 * factors + options + factors * options ∧
      report.warnings = [] ∧
      report.errors =
        (if graph.nodes.length ≤ limits.nodes then []
          else [(Finding.tooManyNodes graph.nodes.length limits.nodes).issue]) ++
        (if graph.edges.length ≤ limits.edges then []
          else [(Finding.tooManyEdges graph.edges.length limits.edges).issue]) ∧
      (report.valid = true ↔
        graph.nodes.length ≤ limits.nodes ∧ graph.edges.length ≤ limits.edges) ∧
      graph.gate = ⟨true, []⟩ ∧
      graph.repair .standard = (graph, ⟨[], none⟩) := by
  have found := findings_wide limits someFactor someOption small accepted
  have aimed : Repair.Aimed (wide factors options) Repair.Options.standard.constraints := by
    intro list stated
    cases stated
  obtain ⟨errors, warnings⟩ := report_of_size found
  exact ⟨length_nodes_wide, length_edges_wide, warnings, errors, valid_of_size found,
    gate_wide someOption, Graph.repair_of_settled (settled_wide someOption) aimed⟩

theorem wide_faultless_three_two :
    1 ≤ 3 ∧ 1 ≤ 2 ∧ 10 * 2 + 3 < 2 ^ 53 ∧
      (Limits.standard.minOptions ≤ 2 ∧ 2 ≤ Limits.standard.maxOptions) ∧
      (wide 3 2).nodes.length = 10 ∧ (wide 3 2).edges.length = 14 ∧
      ((wide 3 2).check .standard).warnings = [] ∧ ((wide 3 2).check .standard).errors = [] ∧
      (wide 3 2).gate = ⟨true, []⟩ ∧ (wide 3 2).repair .standard = (wide 3 2, ⟨[], none⟩) := by
  have accepted : Limits.standard.minOptions ≤ 2 ∧ 2 ≤ Limits.standard.maxOptions := by decide
  obtain ⟨nodes, edges, warnings, errors, _, gate, repair⟩ :
      (wide 3 2).nodes.length = 10 ∧ (wide 3 2).edges.length = 14 ∧ _ :=
    wide_faultless .standard (by decide) (by decide) (by decide) accepted
  rw [nodes, edges] at errors
  exact ⟨by decide, by decide, by decide, accepted, nodes, edges, warnings, errors, gate, repair⟩

end DecisionGraph.Sample

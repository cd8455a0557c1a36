import DecisionGraph.Proofs.Distinct
import DecisionGraph.Proofs.Shape
import DecisionGraph.Proofs.Tally

/-!
Reports on the same nodes and edges in another order. With each id declared once, the two reports
have as many issues of each code, cycles apart, and one has a cycle just when the other has.
-/

namespace DecisionGraph

/-! A report is valid when no code of an error is in it. -/

theorem Report.hasCode_eq_decide (report : Report) (code : IssueCode) :
    report.hasCode code = decide ((report.withCode code).length ≠ 0) := by
  rw [Bool.eq_iff_iff]
  simp [hasCode, withCode]

theorem Graph.valid_check_iff_codes {graph : Graph} {limits : Limits} :
    (graph.check limits).valid = true ↔
      ∀ code, code.severity = .error → (graph.check limits).hasCode code = false := by
  rw [valid_check_iff]
  constructor
  · intro mild code grave
    refine List.any_eq_false.mpr fun issue listed same => ?_
    obtain ⟨finding, found, rfl⟩ := mem_issues_check.mp listed
    exact mild finding found ((of_decide_eq_true same : finding.code = code) ▸ grave)
  · intro absent finding found grave
    have listed := mem_issues_check.mpr ⟨finding, found, rfl⟩
    exact List.any_eq_false.mp (absent finding.code grave) finding.issue listed (decide_eq_true rfl)

/-! Checks of single nodes and edges, linked or not. -/

theorem Finding.code_ofNumber (place other : Place) (owner : String) (value : Option Float) :
    (ofNumber other owner value).map code = (ofNumber place owner value).map code := by
  cases value with
  | none => rfl
  | some value => simp only [ofNumber, map_code_unless, code]

namespace Survey

variable (position place : Nat)

theorem code_nodeNumbers (node : Node) :
    (nodeNumbers node place).map Finding.code = (nodeNumbers node position).map Finding.code := by
  unfold nodeNumbers
  split
  · simp only [List.map_append]
    exact congrArg₂ (· ++ ·) (Finding.code_ofNumber ..) (Finding.code_ofNumber ..)
  · rw [List.map_flatMap, List.map_flatMap]
    exact List.flatMap_congr fun entry _ => Finding.code_ofNumber ..
  · rfl

theorem code_edgeNumbers (edge : Edge) :
    (edgeNumbers edge place).map Finding.code = (edgeNumbers edge position).map Finding.code := by
  simp only [edgeNumbers, List.map_append]
  exact congrArg₂ (· ++ ·) (congrArg₂ (· ++ ·)
    (congrArg₂ (· ++ ·) (Finding.code_ofNumber ..) (Finding.code_ofNumber ..))
    (Finding.code_ofNumber ..)) (Finding.code_ofNumber ..)

theorem code_rangeAdvice (edge : Edge) :
    (rangeAdvice edge place).map Finding.code = (rangeAdvice edge position).map Finding.code := by
  simp only [rangeAdvice, List.map_append, Finding.map_code_unless, Finding.code]
  refine congrArg _ ?_
  unfold beliefAdvice
  split
  · rfl
  · split
    · rfl
    · split <;> rfl

end Survey

theorem perm_of_zipIdx {α : Type} {items others : List α} {move : Nat → Nat}
    (numbered : others.zipIdx.Perm (items.zipIdx.map fun entry => (entry.1, move entry.2))) :
    others.Perm items := by
  have listed := numbered.map Prod.fst
  rw [List.zipIdx_map_fst, List.map_map] at listed
  exact listed.trans (.of_eq (List.zipIdx_map_fst 0 _))

namespace Renumbering

/-- The other graph lists the same nodes and edges in another order, with each id declared once. -/
structure Relists (moved : Renumbering) (graph other : Graph) : Prop where
  nodes : other.nodes.zipIdx.Perm (graph.nodes.zipIdx.map moved.entry)
  edges : other.edges.zipIdx.Perm
    (graph.edges.zipIdx.map fun entry => (entry.1, moved.edge entry.2))
  distinct : (graph.nodes.map Node.id).Nodup

namespace Relists

variable {moved : Renumbering} {graph other : Graph} (relists : moved.Relists graph other)

include relists

theorem nodes_perm : other.nodes.Perm graph.nodes := perm_of_zipIdx relists.nodes

theorem edges_perm : other.edges.Perm graph.edges := perm_of_zipIdx relists.edges

theorem also_distinct : (other.nodes.map Node.id).Nodup :=
  (relists.nodes_perm.map Node.id).nodup_iff.mpr relists.distinct

theorem live_perm : other.live.Perm (graph.live.map moved.entry) := by
  rw [Graph.live_eq_zipIdx relists.also_distinct, Graph.live_eq_zipIdx relists.distinct]
  exact relists.nodes

theorem carries : moved.Carries graph other where
  live := relists.live_perm
  links := (relists.edges.filterMap _).trans
    (.of_eq (filterMap_endsOf? (position?_of_live_perm relists.live_perm) _))
  edges link listed := by
    obtain ⟨edge, found, _, _⟩ := Graph.mem_links_iff.mp listed
    have numbered : (edge, moved.edge link.edge) ∈ other.edges.zipIdx :=
      relists.edges.mem_iff.mpr
        (List.mem_map.mpr ⟨(edge, link.edge), List.mem_zipIdx_iff_getElem?.mpr found, rfl⟩)
    rw [found, List.mem_zipIdx_iff_getElem?.mp numbered]

theorem tally_counts (limits : Limits) :
    Finding.Tally ((Survey.ofGraph graph).counts limits) ((Survey.ofGraph other).counts limits) := by
  have kinds (kind : NodeKind) : other.countKind kind = graph.countKind kind :=
    (relists.nodes_perm.filter _).length_eq
  refine .of_eq ?_
  simp only [Survey.counts, Survey.ofGraph, kinds, relists.nodes_perm.any_eq,
    relists.nodes_perm.length_eq, relists.edges_perm.length_eq]
  rfl

theorem tally_repeatedIds :
    Finding.Tally (Survey.ofGraph graph).repeatedIds (Survey.ofGraph other).repeatedIds := by
  rw [Survey.repeatedIds_eq_nil_iff.mpr relists.distinct,
    Survey.repeatedIds_eq_nil_iff.mpr relists.also_distinct]
  exact .of_eq rfl

theorem tally_undeclaredEnds :
    Finding.Tally (Survey.ofGraph graph).undeclaredEnds (Survey.ofGraph other).undeclaredEnds := by
  have absent (id : String) : ((Survey.ofGraph other).graph.position? id).isNone =
      ((Survey.ofGraph graph).graph.position? id).isNone := by
    change (other.position? id).isNone = _
    rw [relists.carries.position?_eq, Option.isNone_map]
    rfl
  refine .of_flatMap relists.edges fun entry _ => ?_
  simp only [absent, List.map_filterMap]
  refine List.filterMap_congr fun side _ => ?_
  split <;> rfl

theorem tally_census (limits : Limits) :
    Finding.Tally ((Survey.ofGraph graph).census limits) ((Survey.ofGraph other).census limits) :=
  ((relists.tally_counts limits).append relists.tally_repeatedIds).append
    relists.tally_undeclaredEnds

theorem tally_unfiniteNumbers :
    Finding.Tally (Survey.ofGraph graph).unfiniteNumbers
      (Survey.ofGraph other).unfiniteNumbers := by
  refine .append ?_ ?_
  · exact .of_flatMap relists.nodes fun entry _ => Survey.code_nodeNumbers _ _ entry.1
  · exact .of_flatMap relists.edges fun entry _ => Survey.code_edgeNumbers _ _ entry.1

theorem tally_advice :
    Finding.Tally (Survey.ofGraph graph).advice (Survey.ofGraph other).advice := by
  have carries := relists.carries
  refine .append (.append ?_ ?_) ?_
  · exact .of_flatMap relists.edges fun entry _ => Survey.code_rangeAdvice _ _ entry.1
  · refine .of_flatMap carries.linkedEdges_perm fun entry listed => ?_
    have linked := Survey.mem_links_of_linked _ listed
    simp only [List.map_append, carries.code_polarityAdvice entry.2 linked,
      carries.code_deviationAdvice entry.2 linked]
  · refine .of_flatMap carries.live fun entry live => ?_
    exact carries.code_driverAdvice entry.1 ⟨entry.1, live⟩

theorem tally_signFindings : Finding.Tally graph.signFindings other.signFindings := by
  refine .of_filterMap relists.edges fun entry _ => ?_
  obtain ⟨edge, position⟩ := entry
  simp only [Graph.signFinding?]
  split
  · split <;> rfl
  · rfl

/-! Whole reports. -/

theorem length_withCode (limits : Limits) {code : IssueCode} (acyclic : code ≠ .cycleDetected) :
    ((other.check limits).withCode code).length = ((graph.check limits).withCode code).length := by
  have carries := relists.carries
  have cycles (survey : Survey) :
      (survey.cycles.filter fun finding => finding.code = code) = [] := by
    refine Survey.filter_code_eq_nil fun finding found => ?_
    obtain ⟨cycle, _, rfl⟩ := List.mem_map.mp found
    exact acyclic.symm
  rw [Graph.withCode_check, Graph.withCode_check, List.length_map, List.length_map]
  simp only [Survey.findings, Survey.wiring, Survey.choice, List.filter_append, List.length_append,
    cycles, (relists.tally_census limits).count, carries.tally_leftGoals.count,
    carries.tally_enteredDecisions.count, carries.tally_misplacedEdges.count,
    carries.tally_connection.count, carries.tally_data.count, carries.tally_effects.count,
    carries.tally_identicalChoices.count, carries.tally_goalNumbers.count,
    carries.tally_looseScaffold.count, relists.tally_unfiniteNumbers.count,
    relists.tally_advice.count]

theorem hasCode_eq (limits : Limits) (code : IssueCode) :
    (other.check limits).hasCode code = (graph.check limits).hasCode code := by
  by_cases cyclic : code = .cycleDetected
  · rw [cyclic, Bool.eq_iff_iff, Graph.hasCode_cycleDetected_iff, Graph.hasCode_cycleDetected_iff]
    exact relists.carries.cyclic_iff
  · rw [Report.hasCode_eq_decide, Report.hasCode_eq_decide, relists.length_withCode limits cyclic]

theorem valid_eq (limits : Limits) :
    (other.check limits).valid = (graph.check limits).valid := by
  rw [Bool.eq_iff_iff, Graph.valid_check_iff_codes, Graph.valid_check_iff_codes]
  simp only [relists.hasCode_eq]

theorem length_gate (code : IssueCode) :
    (other.gate.errors.filter fun issue => issue.code = code).length =
      (graph.gate.errors.filter fun issue => issue.code = code).length := by
  have counts := relists.tally_signFindings.count code
  simp only [Graph.gate, GateReport.ofErrors, List.filter_map, List.length_map]
  exact counts

theorem valid_gate : other.gate.valid = graph.gate.valid := by
  have lengths := List.Perm.length_eq relists.tally_signFindings
  rw [List.length_map, List.length_map] at lengths
  simp only [Graph.gate, GateReport.ofErrors, List.isEmpty_map]
  rw [Bool.eq_iff_iff, List.isEmpty_iff_length_eq_zero, List.isEmpty_iff_length_eq_zero, lengths]

end Relists

end Renumbering

end DecisionGraph

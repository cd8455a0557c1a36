import DecisionGraph.Proofs.Distinct
import DecisionGraph.Proofs.KeptOrder

/-!
Graphs without what no check looks at. Nodes whose id an earlier node has, and edges that end at
undeclared ids, can be taken out: the checks of links, connections, data and meaning then report the
same issues in the same order, under new numbers.
-/

namespace DecisionGraph

/-! Issues under new numbers. -/

/-- The same issue at a place with a new number. A cycle names its closing edge also by number. -/
structure Issue.Renumbered (moved : Renumbering) (before after : Issue) : Prop where
  code : after.code = before.code
  severity : after.severity = before.severity
  message : after.message = before.message
  path : ∃ place : Place, before.path = place.text ∧ after.path = (moved.place place).text
  context : before.code ≠ .cycleDetected → after.context = before.context
  closing : before.code = .cycleDetected → ∃ ids edge,
    before.path = (Place.edge edge).text ∧
    before.context = .object [("cycle", .ofStrings ids), ("edge_index", .ofNat edge)] ∧
    after.context = .object [("cycle", .ofStrings ids), ("edge_index", .ofNat (moved.edge edge))]

namespace Renumbering

variable (moved : Renumbering)

theorem message_finding {finding : Finding} (other : finding.code.origin ≠ .numeric) :
    (moved.finding finding).message = finding.message := by
  cases finding with
  | notFinite place owner value => exact absurd rfl other
  | dataDefect position id category defect => cases defect <;> rfl
  | straySetting position id factor found => cases found <;> rfl
  | _ => rfl

theorem facts_finding {finding : Finding} (other : finding.code.origin ≠ .structural)
    (acyclic : finding.code ≠ .cycleDetected) :
    (moved.finding finding).facts = finding.facts := by
  cases finding with
  | repeatedId position id first => exact absurd rfl other
  | undeclaredEnd position edge side => exact absurd rfl other
  | cycle position ids => exact absurd rfl acyclic
  | dataDefect position id category defect => cases defect <;> rfl
  | _ => rfl

theorem renumbered_issue {finding : Finding} (counted : finding.code.origin ≠ .structural)
    (number : finding.code.origin ≠ .numeric) :
    Issue.Renumbered moved finding.issue (moved.finding finding).issue where
  code := moved.code_finding finding
  severity := congrArg IssueCode.severity (moved.code_finding finding)
  message := moved.message_finding number
  path := ⟨finding.place, rfl, congrArg Place.text (moved.place_finding finding)⟩
  context acyclic := congrArg Json.free (moved.facts_finding counted acyclic)
  closing cyclic := by
    cases finding with
    | cycle position ids =>
        exact ⟨ids, position, rfl, Finding.context_issue_cycle _ _,
          Finding.context_issue_cycle _ _⟩
    | dataDefect position id category defect => cases category <;> cases defect <;> cases cyclic
    | _ => cases cyclic

end Renumbering

theorem Survey.origin_of_mem_linkChecks {survey : Survey} {check : Survey → List Finding}
    (member : check ∈ linkChecks) {finding : Finding} (found : finding ∈ check survey) :
    finding.code.origin ≠ .structural ∧ finding.code.origin ≠ .numeric := by
  simp only [linkChecks, List.mem_cons, List.not_mem_nil, or_false] at member
  rcases member with rfl | rfl | rfl | rfl
  · rw [origin_of_mem_wiring found]
    decide
  · rw [origin_of_mem_connection found]
    decide
  · rw [origin_of_mem_data found]
    decide
  · rcases List.mem_append.mp found with found | found
    · rcases List.mem_append.mp found with found | found
      · rw [origin_of_mem_choice found]
        decide
      · rw [origin_of_mem_goalNumbers found]
        decide
    · rcases origin_of_mem_looseScaffold found with origin | origin
      · rw [origin]
        decide
      · rw [origin]
        decide

/-! What can be taken out of a graph. -/

namespace Graph

variable (graph : Graph)

/-- Edges with both ends declared, with their positions. -/
def resolvedEdges : List (Edge × Nat) :=
  graph.edges.zipIdx.filter fun entry => (graph.endsOf? entry.1).isSome

/-- The graph without the nodes whose id an earlier node has, and without the edges that end at
undeclared ids. -/
def pruned : Graph :=
  { graph with nodes := graph.live.map (·.1), edges := graph.resolvedEdges.map (·.1) }

/-- The numbers that what is left has in the pruned graph. -/
def pruning : Renumbering :=
  ⟨rank (graph.live.map (·.2)), rank (graph.resolvedEdges.map (·.2))⟩

theorem nodes_pruned : graph.pruned.nodes.zipIdx = graph.live.map graph.pruning.entry :=
  zipIdx_map_fst_of_nodup graph.nodup_live

theorem edges_pruned :
    graph.pruned.edges.zipIdx =
      graph.resolvedEdges.map fun entry => (entry.1, graph.pruning.edge entry.2) := by
  exact zipIdx_map_fst_of_nodup ((nodup_zipIdx graph.edges).sublist (List.filter_sublist.map _))

theorem getElem?_edges_pruned {entry : Edge × Nat} (listed : entry ∈ graph.resolvedEdges) :
    graph.pruned.edges[graph.pruning.edge entry.2]? = some entry.1 := by
  have numbered : (entry.1, graph.pruning.edge entry.2) ∈ graph.pruned.edges.zipIdx := by
    rw [edges_pruned]
    exact List.mem_map_of_mem listed
  exact List.mem_zipIdx_iff_getElem?.mp numbered

theorem distinct_pruned : (graph.pruned.nodes.map Node.id).Nodup := by
  rw [pruned, List.map_map]
  refine graph.nodup_live.of_map.map_on fun first live second also same => ?_
  have place : first.2 = second.2 := by
    have found := (mem_live_iff.mp live).2
    rw [show first.1.id = second.1.id from same, (mem_live_iff.mp also).2] at found
    exact (Option.some.inj found).symm
  exact List.inj_on_of_nodup_map graph.nodup_live live also place

theorem links_resolvedEdges :
    (graph.resolvedEdges.filterMap fun entry =>
      (graph.endsOf? entry.1).map fun ends => (⟨entry.2, ends.1, ends.2⟩ : Link)) =
      graph.links := by
  rw [resolvedEdges, List.filterMap_filter, links]
  refine List.filterMap_congr fun entry _ => ?_
  cases graph.endsOf? entry.1 <;> rfl

theorem keeps_pruning : graph.pruning.Keeps graph graph.pruned where
  live := by rw [live_eq_zipIdx graph.distinct_pruned, nodes_pruned]
  links := by
    have live : graph.pruned.live = graph.live.map graph.pruning.entry := by
      rw [live_eq_zipIdx graph.distinct_pruned, nodes_pruned]
    rw [links, edges_pruned,
      Renumbering.filterMap_endsOf? (Renumbering.position?_of_live_perm (.of_eq live)),
      links_resolvedEdges]
  edges link listed := by
    obtain ⟨edge, found, source, target⟩ := mem_links_iff.mp listed
    have resolved : (edge, link.edge) ∈ graph.resolvedEdges :=
      List.mem_filter.mpr ⟨List.mem_zipIdx_iff_getElem?.mpr found, by simp [endsOf?, source, target]⟩
    rw [graph.getElem?_edges_pruned resolved, found]
  apart := rank_injective _

/-- Nodes whose id an earlier node has and edges that end at undeclared ids are inert: without them
the checks of links, connections, data and meaning report the same issues in the same order, with
the numbers that the remaining nodes and edges then have. These are all the checks between the
counts and the numbers. -/
theorem pruned_checks_alike :
    (∀ entry ∈ graph.live, graph.pruned.nodes[graph.pruning.node entry.2]? = some entry.1) ∧
    (∀ entry ∈ graph.resolvedEdges,
      graph.pruned.edges[graph.pruning.edge entry.2]? = some entry.1) ∧
    (∀ (survey : Survey) (limits : Limits),
      survey.findings limits = survey.census limits ++ Survey.linkChecks.flatMap (· survey)
        ++ survey.unfiniteNumbers ++ survey.advice) ∧
    ∀ check ∈ Survey.linkChecks,
      List.Forall₂ (Issue.Renumbered graph.pruning)
        ((check (.ofGraph graph)).map Finding.issue)
        ((check (.ofGraph graph.pruned)).map Finding.issue) := by
  refine ⟨fun entry live => ?_, fun entry => graph.getElem?_edges_pruned,
    Survey.findings_eq_linkChecks, fun check member => ?_⟩
  · have numbered : graph.pruning.entry entry ∈ graph.pruned.nodes.zipIdx := by
      rw [nodes_pruned]
      exact List.mem_map_of_mem live
    exact List.mem_zipIdx_iff_getElem?.mp numbered
  · rw [graph.keeps_pruning.linkChecks_eq member, List.map_map]
    refine List.forall₂_map_left_iff.mpr (List.forall₂_map_right_iff.mpr ?_)
    refine List.forall₂_same.mpr fun finding found => ?_
    obtain ⟨counted, number⟩ := Survey.origin_of_mem_linkChecks member found
    exact graph.pruning.renumbered_issue counted number

end Graph

end DecisionGraph

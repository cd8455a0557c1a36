import DecisionGraph.Check
import DecisionGraph.Proofs.OptionGroups
import DecisionGraph.Proofs.Outline

/-!
What most passes find can be read off the outline of a graph: the same findings, or findings of the
same kind at the same place.
-/

namespace DecisionGraph

/-- What a finding is about and where: its code and its place. -/
def Finding.spot (finding : Finding) : IssueCode × Place := (finding.code, finding.place)

def Finding.spots (findings : List Finding) : List (IssueCode × Place) := findings.map spot

namespace Finding

@[simp] theorem spots_append (findings more : List Finding) :
    spots (findings ++ more) = spots findings ++ spots more := List.map_append

theorem mem_spots {findings : List Finding} {finding : Finding} (found : finding ∈ findings) :
    finding.spot ∈ spots findings := List.mem_map_of_mem found

theorem spots_flatMap {α : Type} (items : List α) (find : α → List Finding) :
    spots (items.flatMap find) = items.flatMap fun item => spots (find item) := List.map_flatMap

theorem spots_filterMap {α : Type} (items : List α) (find : α → Option Finding) :
    spots (items.filterMap find) = items.filterMap fun item => (find item).map spot :=
  List.map_filterMap

theorem spots_unless (isFine : Bool) (finding : Finding) :
    spots (Finding.unless isFine finding) = if isFine then [] else [finding.spot] := by
  cases isFine <;> rfl

end Finding

namespace Survey

open Finding

variable (survey : Survey)

def outline : Survey := { survey with graph := survey.graph.outline }

theorem outline_ofGraph (graph : Graph) : (ofGraph graph).outline = ofGraph graph.outline :=
  (ofGraph_outline graph).symm

theorem role?_outline (position : Nat) : survey.outline.role? position = survey.role? position := by
  simp [role?, outline, category?]

theorem options_outline :
    survey.outline.options = survey.options.map fun entry => (entry.1.outline, entry.2) := by
  simp [options, outline, Graph.live_outline, List.filter_map, Function.comp_def]

theorem linkedEdges_outline :
    survey.outline.linkedEdges =
      survey.linkedEdges.map fun entry => (entry.1, entry.2.outline) := by
  simp [linkedEdges, outline, Graph.edges_outline, List.map_filterMap, Function.comp_def]

theorem counts_outline (limits : Limits) : survey.outline.counts limits = survey.counts limits := by
  simp [counts, outline, Graph.countKind_outline, Graph.nodes_outline, Graph.edges_outline,
    Function.comp_def]

theorem repeatedIds_outline : survey.outline.repeatedIds = survey.repeatedIds := by
  have shadowed (position : Nat) :
      survey.graph.outline.isShadowed position = survey.graph.isShadowed position := by
    unfold Graph.isShadowed
    rw [Graph.nodes_outline, List.getElem?_map]
    cases survey.graph.nodes[position]? <;> simp
  simp only [repeatedIds, outline, shadowed, Graph.position?_outline]
  rw [Graph.nodes_outline, List.zipIdx_map, List.filterMap_map]
  rfl

theorem spots_undeclaredEnds_outline :
    spots survey.outline.undeclaredEnds = spots survey.undeclaredEnds := by
  simp only [undeclaredEnds, outline, Graph.position?_outline, spots_flatMap, spots_filterMap]
  rw [Graph.edges_outline, List.zipIdx_map, List.flatMap_map]
  refine List.flatMap_congr fun entry _ => List.filterMap_congr fun side _ => ?_
  cases side with
  | source =>
      change Option.map _ (if (survey.graph.position? entry.1.source).isNone then _ else _) =
        Option.map _ (if (survey.graph.position? entry.1.source).isNone then _ else _)
      split <;> rfl
  | target =>
      change Option.map _ (if (survey.graph.position? entry.1.target).isNone then _ else _) =
        Option.map _ (if (survey.graph.position? entry.1.target).isNone then _ else _)
      split <;> rfl

theorem wiring_outline : survey.outline.wiring = survey.wiring := by
  have misplaced : survey.outline.misplacedEdges = survey.misplacedEdges := by
    simp only [misplacedEdges, role?_outline]
    simp [outline]
  have ids : survey.graph.outline.idAt = survey.graph.idAt := funext survey.graph.idAt_outline
  have along : survey.outline.idsAlong = survey.idsAlong := by
    funext cycle
    simp only [idsAlong, outline, ids]
  simp only [wiring, misplaced, cycles, along]
  simp [leftGoals, enteredDecisions, outline]

theorem connection_outline : survey.outline.connection = survey.connection := by
  have drivers : survey.outline.isDriver = survey.isDriver := rfl
  simp only [connection, unreachedNodes, strandedNodes, drivers]
  simp only [outline, Graph.live_outline, List.filterMap_map]
  simp only [Function.comp_def, Node.kind_outline, Node.id_outline]

theorem effects_outline : survey.outline.effects = survey.effects := by
  have kinds : survey.graph.outline.kindAt? = survey.graph.kindAt? :=
    funext survey.graph.kindAt?_outline
  have ids : survey.graph.outline.idAt = survey.graph.idAt := funext survey.graph.idAt_outline
  have strays (option : Node) (position : Nat) :
      survey.outline.straySettings option.outline position =
        survey.straySettings option position := by
    simp [straySettings, outline, kinds]
  have factors (option : Node) (position : Nat) :
      survey.outline.factorsOf option.outline position = survey.factorsOf option position := by
    unfold factorsOf
    rw [Node.settings_outline]
    simp only [outline, Graph.liveOfKind_outline, ids]
  have missing (option : Node) (position : Nat) :
      survey.outline.missingEffect option.outline position =
        survey.missingEffect option position := by
    simp only [missingEffect, factors]
    simp only [outline, ids, Node.id_outline]
  simp only [effects, options_outline, List.flatMap_map, strays, missing]

theorem signature_outline (option : Node) : signature option.outline = signature option := by
  simp [signature]

theorem equalOptions_outline :
    survey.outline.equalOptions =
      survey.equalOptions.map (List.map fun entry => (entry.1.outline, entry.2)) := by
  have same (option : Node × Nat) :
      signature (option.1.outline, option.2).1 = signature option.1 :=
    signature_outline option.1
  have groups := gathered_map same survey.options
  rw [equalOptions, options_outline, groups, equalOptions, List.map_map, List.map_map]
  rfl

theorem choice_outline : survey.outline.choice = survey.choice := by
  have identical : survey.outline.identicalChoices = survey.identicalChoices := by
    simp only [identicalChoices, equalOptions_outline, List.filterMap_map]
    refine List.filterMap_congr fun group _ => ?_
    cases group with
    | nil => rfl
    | cons first more =>
        cases more with
        | nil => rfl
        | cons second others => simp [Function.comp_def]
  rw [choice, choice, effects_outline, identical]

theorem unfiniteNumbers_outline : survey.outline.unfiniteNumbers = survey.unfiniteNumbers := by
  have nodes (node : Node) (position : Nat) :
      nodeNumbers node.outline position = nodeNumbers node position := by
    unfold nodeNumbers Node.outline
    cases node.body with
    | factor category data => cases data <;> rfl
    | _ => rfl
  simp only [unfiniteNumbers, outline, Graph.nodes_outline, Graph.edges_outline, List.zipIdx_map,
    List.flatMap_map, Prod.map, nodes]
  rfl

theorem spots_rangeAdvice_outline (edge : Edge) (position : Nat) :
    spots (rangeAdvice edge.outline position) = spots (rangeAdvice edge position) := by
  have belief :
      spots (beliefAdvice edge.outline position) = spots (beliefAdvice edge position) := by
    unfold beliefAdvice
    rw [show edge.outline.effectiveBelief? = edge.effectiveBelief? from rfl]
    cases edge.effectiveBelief?.filter Float.isFinite with
    | none => rfl
    | some belief =>
        by_cases inside : (!(decide (0 ≤ belief) && decide (belief ≤ 1))) = true
        · simp only [if_pos inside]
          rfl
        · simp only [if_neg inside]
          split <;> rfl
  simp only [rangeAdvice, spots_append, spots_unless, belief]
  rfl

theorem spots_polarityAdvice_outline (link : Link) (edge : Edge) :
    spots (survey.outline.polarityAdvice link edge.outline) =
      spots (survey.polarityAdvice link edge) := by
  unfold polarityAdvice
  rw [outline, Graph.kindAt?_outline, Graph.kindAt?_outline]
  split
  · simp only [spots_unless]
    rfl
  · simp only [spots_unless]
    rfl
  · rfl

theorem spots_deviationAdvice_outline (link : Link) (edge : Edge) :
    spots (survey.outline.deviationAdvice link edge.outline) =
      spots (survey.deviationAdvice link edge) := by
  have scaffold : survey.outline.isScaffold link = survey.isScaffold link := by
    simp [isScaffold, outline]
  unfold deviationAdvice
  rw [scaffold]
  split
  · rfl
  · rw [show edge.outline.deviation = edge.deviation from rfl]
    cases edge.deviation.filter Float.isFinite with
    | none => rfl
    | some deviation =>
        simp only [spots_unless]
        rfl

/-- Advice on edges. -/
def edgeAdvice : List Finding :=
  (survey.graph.edges.zipIdx.flatMap fun (edge, position) => rangeAdvice edge position)
    ++ survey.linkedEdges.flatMap fun (link, edge) =>
      survey.polarityAdvice link edge ++ survey.deviationAdvice link edge

theorem advice_eq_append :
    survey.advice = survey.edgeAdvice
      ++ survey.graph.live.flatMap fun (node, position) => survey.driverAdvice node position := rfl

theorem spots_edgeAdvice_outline : spots survey.outline.edgeAdvice = spots survey.edgeAdvice := by
  have ranges : spots (survey.outline.graph.edges.zipIdx.flatMap fun entry =>
      rangeAdvice entry.1 entry.2) =
      spots (survey.graph.edges.zipIdx.flatMap fun entry => rangeAdvice entry.1 entry.2) := by
    rw [outline, Graph.edges_outline, List.zipIdx_map, List.flatMap_map, spots_flatMap,
      spots_flatMap]
    exact List.flatMap_congr fun entry _ => spots_rangeAdvice_outline entry.1 entry.2
  simp only [edgeAdvice, spots_append, ranges, linkedEdges_outline, List.flatMap_map,
    spots_flatMap, spots_polarityAdvice_outline, spots_deviationAdvice_outline]

theorem spots_census_outline (limits : Limits) :
    spots (survey.outline.census limits) = spots (survey.census limits) := by
  simp only [census, spots_append, counts_outline, repeatedIds_outline,
    spots_undeclaredEnds_outline]

theorem mem_spots_findings {limits : Limits} {spot : IssueCode × Place} :
    spot ∈ spots (survey.findings limits) ↔
      spot ∈ spots (survey.census limits) ∨ spot ∈ spots survey.wiring ∨
        spot ∈ spots survey.connection ∨ spot ∈ spots survey.data ∨ spot ∈ spots survey.choice ∨
        spot ∈ spots survey.goalNumbers ∨ spot ∈ spots survey.looseScaffold ∨
        spot ∈ spots survey.unfiniteNumbers ∨ spot ∈ spots survey.advice := by
  simp only [findings, spots_append, List.mem_append, or_assoc]

end Survey

end DecisionGraph

import DecisionGraph.Proofs.AlikeOptions
import DecisionGraph.Proofs.DataReport
import DecisionGraph.Proofs.NumberReport
import DecisionGraph.Proofs.Severity
import DecisionGraph.Proofs.Spot
import DecisionGraph.Proofs.Table

/-!
Where issues stand. Each of them points at a place that the graph has, and a report names no place
twice for the same reason.
-/

namespace DecisionGraph

/-- The fields that a node of its kind has, by their paths. -/
def Node.fieldPaths (node : Node) : List String :=
  ["id", "label", "kind"] ++
    match node.body with
    | .option _ =>
      ["data", "data.interventions"]
        ++ node.settings.map fun entry => s!"data.interventions.{entry.1}"
    | .factor _ _ => ["category", "data"] ++ FactorData.fieldNames.map fun name => s!"data.{name}"
    | _ => []

namespace Node

variable {node : Node}

theorem mem_fieldPaths_setting {factor : String} {value : Double}
    (set : (factor, value) ∈ node.settings) :
    s!"data.interventions.{factor}" ∈ node.fieldPaths := by
  have named := List.mem_map_of_mem (f := fun entry => s!"data.interventions.{entry.1}") set
  obtain ⟨id, label, body⟩ := node
  cases body <;> try cases set
  exact List.mem_append_right _ (List.mem_append_right _ named)

theorem mem_fieldPaths_data (isFactor : node.isFactor = true) (name : String)
    (known : name ∈ FactorData.fieldNames) : s!"data.{name}" ∈ node.fieldPaths := by
  obtain ⟨id, label, body⟩ := node
  cases body <;> try cases isFactor
  exact List.mem_append_right _ (List.mem_append_right _ (List.mem_map_of_mem known))

theorem isFactor_of_factorData? {data : FactorData} (held : node.factorData? = some data) :
    node.isFactor = true := by
  obtain ⟨id, label, body⟩ := node
  cases body <;> first | rfl | cases held

end Node

/-- The place is in the graph: its position is in range, and its field is one of the element. -/
def Graph.Has (graph : Graph) : Place → Prop
  | .nodes | .edges => True
  | .node position => position < graph.nodes.length
  | .nodeField position field =>
    ∃ node, graph.nodes[position]? = some node ∧ field ∈ node.fieldPaths
  | .edge position => position < graph.edges.length
  | .edgeField position field => position < graph.edges.length ∧ field ∈ Edge.fieldNames

/-- The position of the element that a place is about, if it is about one. -/
def Place.position? : Place → Option Nat
  | nodes | edges => none
  | node position | nodeField position _ | edge position | edgeField position _ => some position

/-- Findings with codes of the list, at places of the graph, and no two with one code at one
place. -/
structure Graph.Tells (graph : Graph) (codes : List IssueCode) (findings : List Finding) :
    Prop where
  coded : ∀ finding ∈ findings, finding.code ∈ codes
  placed : ∀ finding ∈ findings, graph.Has finding.place
  once : (Finding.spots findings).Nodup

namespace Graph.Tells

open Finding

variable {graph : Graph} {codes others : List IssueCode} {findings more : List Finding}

theorem nil : graph.Tells codes [] := ⟨by simp, by simp, List.nodup_nil⟩

theorem of_places (coded : ∀ finding ∈ findings, finding.code ∈ codes)
    (placed : ∀ finding ∈ findings, graph.Has finding.place)
    (apart : (findings.map Finding.place).Nodup) : graph.Tells codes findings := by
  refine ⟨coded, placed, List.Nodup.of_map Prod.snd ?_⟩
  rwa [spots, List.map_map]

theorem single {finding : Finding} (coded : finding.code ∈ codes)
    (placed : graph.Has finding.place) : graph.Tells codes [finding] :=
  ⟨by simpa, by simpa, by simp [spots]⟩

theorem unlessFine {isFine : Bool} {finding : Finding} (coded : finding.code ∈ codes)
    (placed : graph.Has finding.place) : graph.Tells codes (Finding.unless isFine finding) := by
  cases isFine with
  | true => exact nil
  | false => exact single coded placed

theorem append (told : graph.Tells codes findings) (also : graph.Tells others more)
    (apart : ∀ code ∈ codes, code ∉ others) : graph.Tells (codes ++ others) (findings ++ more) where
  coded finding found := by
    rcases List.mem_append.mp found with found | found
    · exact List.mem_append_left _ (told.coded finding found)
    · exact List.mem_append_right _ (also.coded finding found)
  placed finding found :=
    (List.mem_append.mp found).elim (told.placed finding) (also.placed finding)
  once := by
    rw [spots_append]
    refine told.once.append also.once fun spot here there => ?_
    obtain ⟨finding, found, rfl⟩ := List.mem_map.mp here
    obtain ⟨other, alsoFound, same⟩ := List.mem_map.mp there
    have code : other.code = finding.code := congrArg Prod.fst same
    exact apart _ (told.coded finding found) (code ▸ also.coded other alsoFound)

/-- Items are told apart by their positions. -/
theorem flatMap {α : Type} {items : List α} {key : α → Nat} {find : α → List Finding}
    (apart : (items.map key).Nodup) (each : ∀ item ∈ items, graph.Tells codes (find item))
    (keyed : ∀ item ∈ items, ∀ finding ∈ find item,
      finding.place.position? = some (key item)) : graph.Tells codes (items.flatMap find) where
  coded finding found := by
    obtain ⟨item, listed, found⟩ := List.mem_flatMap.mp found
    exact (each item listed).coded finding found
  placed finding found := by
    obtain ⟨item, listed, found⟩ := List.mem_flatMap.mp found
    exact (each item listed).placed finding found
  once := by
    rw [spots_flatMap, List.nodup_flatMap]
    refine ⟨fun item listed => (each item listed).once, ?_⟩
    rw [List.nodup_iff_pairwise_ne, List.pairwise_map] at apart
    refine apart.imp_of_mem fun {first second} listed alsoListed differ spot here there => differ ?_
    obtain ⟨finding, found, rfl⟩ := List.mem_map.mp here
    obtain ⟨other, alsoFound, same⟩ := List.mem_map.mp there
    have place : other.place = finding.place := congrArg Prod.snd same
    have position := keyed second alsoListed other alsoFound
    rw [place, keyed first listed finding found] at position
    exact Option.some.inj position

theorem filterMap {α : Type} {items : List α} {key : α → Nat} {find : α → Option Finding}
    (apart : (items.map key).Nodup)
    (each : ∀ item ∈ items, ∀ finding, find item = some finding → finding.code ∈ codes ∧
      graph.Has finding.place ∧ finding.place.position? = some (key item)) :
    graph.Tells codes (items.filterMap find) := by
  rw [List.filterMap_eq_flatMap_toList]
  refine flatMap apart (fun item listed => ?_) fun item listed finding found =>
    (each item listed finding (by simpa using found)).2.2
  cases found : find item with
  | none => exact nil
  | some finding =>
      obtain ⟨coded, placed, _⟩ := each item listed finding found
      exact single coded placed

end Graph.Tells

namespace Survey

open Finding

variable {graph : Graph}

theorem has_of_live {node : Node} {position : Nat} (live : (node, position) ∈ graph.live)
    {field : String} (known : field ∈ node.fieldPaths) :
    graph.Has (.nodeField position field) :=
  ⟨node, (Graph.mem_live_iff.mp live).1, known⟩

theorem has_of_liveOfKind {kind : NodeKind} {position : Nat}
    (listed : position ∈ graph.liveOfKind kind) : graph.Has (.node position) := by
  obtain ⟨node, live, _⟩ := Graph.mem_liveOfKind_iff.mp listed
  exact Graph.lt_of_live live

/-! The passes over the whole of a graph and over its wiring. -/

theorem tells_counts (graph : Graph) (limits : Limits) :
    graph.Tells [.missingGoal, .missingDecision, .insufficientOptions, .missingBridge,
      .nodeLimitExceeded, .edgeLimitExceeded] ((ofGraph graph).counts limits) where
  coded finding found := by
    simp only [counts, List.mem_append, mem_unless] at found
    rcases found with ((((⟨_, rfl⟩ | ⟨_, rfl⟩) | ⟨_, rfl⟩) | ⟨_, rfl⟩) | ⟨_, rfl⟩) | ⟨_, rfl⟩ <;>
      simp [code]
  placed finding found := by
    simp only [counts, List.mem_append, mem_unless] at found
    rcases found with ((((⟨_, rfl⟩ | ⟨_, rfl⟩) | ⟨_, rfl⟩) | ⟨_, rfl⟩) | ⟨_, rfl⟩) | ⟨_, rfl⟩ <;>
      trivial
  once := by
    simp only [counts, spots_append, spots_unless]
    split_ifs <;> simp [spot, code]

theorem tells_repeatedIds (graph : Graph) :
    graph.Tells [.duplicateNodeId] (ofGraph graph).repeatedIds := by
  refine .filterMap (nodup_zipIdx graph.nodes) fun ⟨node, position⟩ listed finding found => ?_
  simp only [Option.ite_none_right_eq_some, Option.some.injEq] at found
  obtain ⟨_, rfl⟩ := found
  exact ⟨List.mem_singleton_self _, ⟨node, List.mem_zipIdx_iff_getElem?.mp listed,
    by simp [Node.fieldPaths]⟩, rfl⟩

theorem tells_undeclaredEnds (graph : Graph) :
    graph.Tells [.invalidEdgeRef] (ofGraph graph).undeclaredEnds := by
  refine .flatMap (nodup_zipIdx graph.edges) (fun ⟨edge, position⟩ listed => ⟨?_, ?_, ?_⟩) ?_
  · intro finding found
    obtain ⟨side, _, made⟩ := List.mem_filterMap.mp found
    split at made <;> cases made
    exact List.mem_singleton_self _
  · intro finding found
    obtain ⟨side, _, made⟩ := List.mem_filterMap.mp found
    have bound := (List.getElem?_eq_some_iff.mp (List.mem_zipIdx_iff_getElem?.mp listed)).1
    split at made <;> cases made
    exact ⟨bound, by cases side <;> simp [Side.field, Edge.fieldNames]⟩
  · simp only [List.filterMap_cons, List.filterMap_nil]
    split_ifs <;> simp [spots, spot, place, Side.field]
  · intro entry listed finding found
    obtain ⟨side, _, made⟩ := List.mem_filterMap.mp found
    split at made <;> cases made
    rfl

theorem tells_census (graph : Graph) (limits : Limits) :
    graph.Tells [.missingGoal, .missingDecision, .insufficientOptions, .missingBridge,
      .nodeLimitExceeded, .edgeLimitExceeded, .duplicateNodeId, .invalidEdgeRef]
      ((ofGraph graph).census limits) :=
  ((tells_counts graph limits).append (tells_repeatedIds graph) (by decide)).append
    (tells_undeclaredEnds graph) (by decide)

theorem nodup_liveOfKind (graph : Graph) (kind : NodeKind) :
    ((graph.liveOfKind kind).map id).Nodup := by
  rw [List.map_id]
  exact (graph.pairwise_liveOfKind kind).imp Nat.ne_of_lt

theorem nodup_linkedEdges (graph : Graph) :
    ((ofGraph graph).linkedEdges.map fun entry => entry.1.edge).Nodup := by
  refine graph.nodup_edge_links.sublist (map_filterMap_sublist ?_ graph.links)
  intro link entry made
  obtain ⟨edge, _, rfl⟩ := Option.map_eq_some_iff.mp made
  rfl

theorem tells_leftGoals (graph : Graph) :
    graph.Tells [.goalHasOutgoing] (ofGraph graph).leftGoals := by
  refine .filterMap (nodup_liveOfKind graph .goal) fun position listed finding found => ?_
  split at found <;> cases found
  exact ⟨List.mem_singleton_self _, has_of_liveOfKind listed, rfl⟩

theorem tells_enteredDecisions (graph : Graph) :
    graph.Tells [.decisionHasIncoming] (ofGraph graph).enteredDecisions := by
  refine .filterMap (nodup_liveOfKind graph .decision) fun position listed finding found => ?_
  split at found <;> cases found
  exact ⟨List.mem_singleton_self _, has_of_liveOfKind listed, rfl⟩

theorem tells_misplacedEdges (graph : Graph) :
    graph.Tells [.invalidEdgeType] (ofGraph graph).misplacedEdges := by
  refine .filterMap graph.nodup_edge_links fun link listed finding found => ?_
  split at found
  · split at found <;> cases found
    exact ⟨List.mem_singleton_self _, Graph.edge_lt listed, rfl⟩
  · cases found

theorem tells_cycles (graph : Graph) : graph.Tells [.cycleDetected] (ofGraph graph).cycles := by
  rw [cycles, ← List.filterMap_eq_map]
  refine .filterMap (Cycle.nodup_closingEdges graph) fun cycle listed finding found => ?_
  cases found
  obtain ⟨link, linked, closes, _⟩ := (Cycle.closed_of_mem_find listed).closing
  have bound := Graph.edge_lt linked
  rw [closes] at bound
  exact ⟨List.mem_singleton_self _, bound, rfl⟩

theorem tells_wiring (graph : Graph) :
    graph.Tells [.goalHasOutgoing, .decisionHasIncoming, .invalidEdgeType, .cycleDetected]
      (ofGraph graph).wiring :=
  (((tells_leftGoals graph).append (tells_enteredDecisions graph) (by decide)).append
    (tells_misplacedEdges graph) (by decide)).append (tells_cycles graph) (by decide)

/-! The passes over live nodes. -/

theorem tells_connection (graph : Graph) :
    graph.Tells [.unreachableFromDecision, .noPathToGoal] (ofGraph graph).connection := by
  have unreached : graph.Tells [.unreachableFromDecision] (ofGraph graph).unreachedNodes := by
    unfold unreachedNodes
    split
    · exact .nil
    · refine .filterMap graph.nodup_live fun ⟨node, position⟩ live finding found => ?_
      simp only at found
      split at found <;> cases found
      exact ⟨List.mem_singleton_self _, Graph.lt_of_live live, rfl⟩
  have stranded : graph.Tells [.noPathToGoal] (ofGraph graph).strandedNodes := by
    unfold strandedNodes
    split
    · exact .nil
    · refine .filterMap graph.nodup_live fun ⟨node, position⟩ live finding found => ?_
      simp only at found
      split at found <;> cases found
      exact ⟨List.mem_singleton_self _, Graph.lt_of_live live, rfl⟩
  exact unreached.append stranded (by decide)

/-- The defects of one node differ in their codes. -/
theorem nodup_code_defects (node : Node) (position : Nat) (category : Category) :
    ((Payload.defects node.factorData? category).map fun defect =>
      (dataDefect position node.id category defect).code).Nodup := by
  cases category with
  | controllable =>
      simp only [Payload.defects, DataDefect.absent_eq]
      split_ifs <;> simp
  | observable =>
      simp only [Payload.defects, DataDefect.absent_eq, DataDefect.present_eq]
      split_ifs <;> simp [code]
  | external =>
      simp only [Payload.defects]
      split_ifs <;> simp

theorem tells_data (graph : Graph) :
    graph.Tells (dataCodes ++ [.categoryMismatch]) (ofGraph graph).data := by
  have fields {node : Node} {position : Nat} (live : (node, position) ∈ graph.live)
      {category : Category} (inferred : graph.category? position = some category) :
      graph.Has (.nodeField position "data") ∧ graph.Has (.nodeField position "category") := by
    have isFactor := (Graph.category?_isSome_iff (Graph.mem_live_iff.mp live).1).mp
      (Option.isSome_of_eq_some inferred)
    obtain ⟨id, label, body⟩ := node
    cases body <;> try cases isFactor
    exact ⟨has_of_live live (by simp [Node.fieldPaths]),
      has_of_live live (by simp [Node.fieldPaths])⟩
  refine .flatMap graph.nodup_live (fun ⟨node, position⟩ live => ?_)
    fun ⟨node, position⟩ live finding found => ?_
  · simp only
    split
    · next category inferred =>
      rw [dataOf_eq_append]
      refine .append ⟨?_, ?_, ?_⟩ ?_ (by decide)
      · intro finding found
        obtain ⟨defect, _, rfl⟩ := List.mem_map.mp found
        exact code_dataDefect_mem position node.id category defect
      · intro finding found
        obtain ⟨defect, _, rfl⟩ := List.mem_map.mp found
        exact (fields live inferred).1
      · refine List.Nodup.of_map Prod.fst ?_
        simpa [spots, Function.comp_def, spot] using nodup_code_defects node position category
      · unfold claimsOf
        split
        · exact .unlessFine (List.mem_singleton_self _) (fields live inferred).2
        · exact .nil
    · exact .nil
  · simp only at found
    split at found
    · rcases mem_dataOf.mp found with ⟨defect, _, rfl⟩ | ⟨declared, _, _, rfl⟩ <;> rfl
    · cases found

theorem tells_straySettings {option : Node} {position : Nat}
    (live : (option, position) ∈ graph.live) :
    graph.Tells [.invalidInterventionRef] ((ofGraph graph).straySettings option position) := by
  refine .of_places ?_ ?_ (nodup_places_straySettings _ option position)
  · intro finding found
    obtain ⟨factor, kind, rfl⟩ := form_of_mem_straySettings found
    exact List.mem_singleton_self _
  · intro finding found
    obtain ⟨factor, set, _, same⟩ := mem_places_straySettings.mp (List.mem_map_of_mem found)
    obtain ⟨⟨_, value⟩, listed, rfl⟩ := List.mem_map.mp set
    rw [same]
    exact has_of_live live (Node.mem_fieldPaths_setting listed)

theorem tells_missingEffect {option : Node} {position : Nat}
    (live : (option, position) ∈ graph.live) :
    graph.Tells [.noEffectPath] ((ofGraph graph).missingEffect option position) := by
  unfold missingEffect
  split
  · exact .nil
  · exact .unlessFine (List.mem_singleton_self _) (Graph.lt_of_live live)

theorem tells_effects (graph : Graph) :
    graph.Tells [.invalidInterventionRef, .noEffectPath] (ofGraph graph).effects := by
  refine .flatMap (ofGraph graph).nodup_options (fun ⟨option, position⟩ listed => ?_)
    fun ⟨option, position⟩ listed finding found => ?_
  · obtain ⟨live, _⟩ := mem_options_iff_live.mp listed
    exact (tells_straySettings live).append (tells_missingEffect live) (by decide)
  · rcases List.mem_append.mp found with stray | idle
    · obtain ⟨factor, kind, rfl⟩ := form_of_mem_straySettings stray
      rfl
    · obtain ⟨factors, rfl⟩ := form_of_mem_missingEffect idle
      rfl

theorem tells_identicalChoices (graph : Graph) :
    graph.Tells [.optionsIdentical] (ofGraph graph).identicalChoices := by
  rw [identicalChoices_eq_peers]
  have apart : ((ofGraph graph).leaders.map (·.2)).Nodup :=
    (ofGraph graph).nodup_options.sublist (List.filter_sublist.map _)
  refine .filterMap apart fun leader leads finding found => ?_
  obtain ⟨second, others, _, rfl⟩ := (identical?_peers_eq_some_iff leads).mp found
  have live := (mem_options_iff_live.mp (mem_leaders_iff.mp leads).1).1
  exact ⟨List.mem_singleton_self _, Graph.lt_of_live live, rfl⟩

theorem tells_goalNumbers (graph : Graph) :
    graph.Tells [.goalNumberAsFactor] (ofGraph graph).goalNumbers := by
  refine .filterMap graph.nodup_live fun ⟨node, position⟩ live finding found => ?_
  simp only at found
  split at found <;> cases found
  exact ⟨List.mem_singleton_self _, has_of_live live (by simp [Node.fieldPaths]), rfl⟩

theorem tells_looseScaffold (graph : Graph) :
    graph.Tells [.structuralEdgeNotCanonicalError, .structuralEdgeNotCanonical]
      (ofGraph graph).looseScaffold := by
  refine .filterMap (nodup_linkedEdges graph) fun ⟨link, edge⟩ listed finding found => ?_
  have bound := (List.getElem?_eq_some_iff.mp (mem_linkedEdges_ofGraph.mp listed).1).1
  simp only at found
  split at found
  · cases found
  · split at found <;> cases found
    · exact ⟨by simp [code], bound, rfl⟩
    · exact ⟨by simp [code], bound, rfl⟩

/-! The passes over numbers. -/

theorem mem_fieldNames_of_number? {edge : Edge} {field : String} {number : Float}
    (stated : edge.number? field = some number) : field ∈ Edge.fieldNames := by
  unfold Edge.number? at stated
  split at stated <;> first | cases stated; done | simp [Edge.fieldNames]

theorem has_of_number? {slot : NumberSlot} {number : Float}
    (stated : graph.number? slot = some number) : graph.Has slot.place := by
  cases slot with
  | value position =>
      obtain ⟨node, listed, stated⟩ := Option.bind_eq_some_iff.mp stated
      obtain ⟨data, held, _⟩ := Option.bind_eq_some_iff.mp stated
      exact ⟨node, listed, Node.mem_fieldPaths_data (Node.isFactor_of_factorData? held) "value"
        (by decide)⟩
  | baseline position =>
      obtain ⟨node, listed, stated⟩ := Option.bind_eq_some_iff.mp stated
      obtain ⟨data, held, _⟩ := Option.bind_eq_some_iff.mp stated
      exact ⟨node, listed, Node.mem_fieldPaths_data (Node.isFactor_of_factorData? held) "baseline"
        (by decide)⟩
  | setting position factor =>
      obtain ⟨node, listed, stated⟩ := Option.bind_eq_some_iff.mp stated
      obtain ⟨value, set, _⟩ := Option.map_eq_some_iff.mp stated
      exact ⟨node, listed, Node.mem_fieldPaths_setting (Node.setting?_eq_some_iff.mp set)⟩
  | edge position field =>
      obtain ⟨edge, listed, stated⟩ := Option.bind_eq_some_iff.mp stated
      exact ⟨(List.getElem?_eq_some_iff.mp listed).1, mem_fieldNames_of_number? stated⟩

theorem tells_unfiniteNumbers (graph : Graph) :
    graph.Tells [.nanValue] (ofGraph graph).unfiniteNumbers := by
  refine .of_places (fun finding found => ?_) (fun finding found => ?_)
    (nodup_places_unfiniteNumbers _)
  · exact List.mem_singleton.mpr (code_of_mem_unfiniteNumbers found)
  obtain ⟨slot, ⟨number, stated, _⟩, same⟩ :=
    mem_places_unfiniteNumbers.mp (List.mem_map_of_mem found)
  exact same ▸ has_of_number? stated

theorem has_edgeField {edge : Edge} {position : Nat} (listed : graph.edges[position]? = some edge)
    {field : String} (known : field ∈ Edge.fieldNames) : graph.Has (.edgeField position field) :=
  ⟨(List.getElem?_eq_some_iff.mp listed).1, known⟩

theorem tells_rangeAdvice {edge : Edge} {position : Nat}
    (listed : graph.edges[position]? = some edge) :
    graph.Tells [.strengthOutOfRange, .probabilityOutOfRange, .lowEdgeConfidence]
      (rangeAdvice edge position) := by
  have field : beliefField edge ∈ Edge.fieldNames := by
    unfold beliefField
    split <;> simp [Edge.fieldNames]
  have strong {isFine : Bool} : graph.Tells [.strengthOutOfRange]
      (Finding.unless isFine (.strongEffect position edge)) :=
    .unlessFine (List.mem_singleton_self _) (has_edgeField listed (by decide))
  have belief : graph.Tells [.probabilityOutOfRange, .lowEdgeConfidence]
      (beliefAdvice edge position) := by
    unfold beliefAdvice
    split
    · exact .nil
    · split_ifs
      · exact .single (by simp [code]) (has_edgeField listed field)
      · exact .single (by simp [code]) (has_edgeField listed field)
      · exact .nil
  exact strong.append belief (by decide)

theorem tells_linkedAdvice {link : Link} {edge : Edge}
    (listed : graph.edges[link.edge]? = some edge) :
    graph.Tells [.outcomeNegativePolarity, .riskPositivePolarity, .lowStdNonStructural]
      ((ofGraph graph).polarityAdvice link edge ++ (ofGraph graph).deviationAdvice link edge) := by
  have polarity : graph.Tells [.outcomeNegativePolarity, .riskPositivePolarity]
      ((ofGraph graph).polarityAdvice link edge) := by
    unfold polarityAdvice
    split
    · exact .unlessFine (by simp [code]) (has_edgeField listed (by decide))
    · exact .unlessFine (by simp [code]) (has_edgeField listed (by decide))
    · exact .nil
  have deviation : graph.Tells [.lowStdNonStructural]
      ((ofGraph graph).deviationAdvice link edge) := by
    unfold deviationAdvice
    split
    · exact .nil
    · split
      · exact .unlessFine (List.mem_singleton_self _) (has_edgeField listed (by decide))
      · exact .nil
  exact polarity.append deviation (by decide)

theorem tells_driverAdvice {node : Node} {position : Nat} (live : (node, position) ∈ graph.live) :
    graph.Tells [.emptyUncertaintyDrivers] ((ofGraph graph).driverAdvice node position) := by
  unfold driverAdvice
  split
  · next drivers =>
    obtain ⟨data, held, _⟩ := Option.bind_eq_some_iff.mp drivers
    exact .single (List.mem_singleton_self _) (has_of_live live
      (Node.mem_fieldPaths_data (Node.isFactor_of_factorData? held) "uncertainty_drivers"
        (by decide)))
  · exact .nil

theorem tells_advice (graph : Graph) :
    graph.Tells [.strengthOutOfRange, .probabilityOutOfRange, .lowEdgeConfidence,
      .outcomeNegativePolarity, .riskPositivePolarity, .lowStdNonStructural,
      .emptyUncertaintyDrivers] (ofGraph graph).advice := by
  have range : graph.Tells [.strengthOutOfRange, .probabilityOutOfRange, .lowEdgeConfidence]
      ((ofGraph graph).graph.edges.zipIdx.flatMap fun entry => rangeAdvice entry.1 entry.2) := by
    refine .flatMap (nodup_zipIdx graph.edges) (fun entry listed =>
      tells_rangeAdvice (List.mem_zipIdx_iff_getElem?.mp listed)) fun entry _ finding found => ?_
    obtain ⟨field, _, same, _⟩ := finite_of_mem_rangeAdvice found
    rw [same]
    rfl
  have linked : graph.Tells [.outcomeNegativePolarity, .riskPositivePolarity,
      .lowStdNonStructural] ((ofGraph graph).linkedEdges.flatMap fun entry =>
        (ofGraph graph).polarityAdvice entry.1 entry.2
          ++ (ofGraph graph).deviationAdvice entry.1 entry.2) := by
    refine .flatMap (nodup_linkedEdges graph) (fun entry linked =>
      tells_linkedAdvice (mem_linkedEdges_ofGraph.mp linked).1) fun entry linked finding found => ?_
    rcases List.mem_append.mp found with signed | narrow
    · rw [(astray_of_mem_polarityAdvice linked signed).1]
      rfl
    · obtain ⟨_, same, _⟩ := finite_of_mem_deviationAdvice narrow
      rw [same]
      rfl
  have drivers : graph.Tells [.emptyUncertaintyDrivers] ((ofGraph graph).graph.live.flatMap
      fun entry => (ofGraph graph).driverAdvice entry.1 entry.2) := by
    refine .flatMap graph.nodup_live (fun entry live => tells_driverAdvice live)
      fun entry _ finding found => ?_
    simp only [driverAdvice] at found
    split at found
    · cases List.mem_singleton.mp found
      rfl
    · cases found
  exact (range.append linked (by decide)).append drivers (by decide)

/-! All passes, and the last gate. -/

theorem tells_findings (graph : Graph) (limits : Limits) :
    ∃ codes, graph.Tells codes ((ofGraph graph).findings limits) := by
  have semantic := ((tells_effects graph).append (tells_identicalChoices graph) (by decide)).append
    (tells_goalNumbers graph) (by decide) |>.append (tells_looseScaffold graph) (by decide)
  exact ⟨_, (((((tells_census graph limits).append (tells_wiring graph) (by decide)).append
    (tells_connection graph) (by decide)).append (tells_data graph) (by decide)).append
    semantic (by decide)).append (tells_unfiniteNumbers graph) (by decide) |>.append
    (tells_advice graph) (by decide)⟩

end Survey

namespace Graph

variable {graph : Graph}

theorem tells_signFindings (graph : Graph) : graph.Tells [.signMismatch] graph.signFindings := by
  refine .filterMap (nodup_zipIdx graph.edges) fun ⟨edge, position⟩ listed finding found => ?_
  obtain ⟨declared, implied, _, _, _, rfl⟩ := signFinding?_eq_some_iff.mp found
  have listed := List.mem_zipIdx_iff_getElem?.mp listed
  exact ⟨List.mem_singleton_self _, Survey.has_edgeField listed (by decide), rfl⟩

/-- Each issue points at a place of the graph, and no two share their code and their path. -/
def Addresses (graph : Graph) (issues : List Issue) : Prop :=
  (∀ issue ∈ issues, ∃ place, graph.Has place ∧ issue.path = place.text) ∧
    (issues.map fun issue => (issue.code, issue.path)).Nodup

theorem Tells.addresses {codes : List IssueCode} {findings : List Finding}
    (told : graph.Tells codes findings) : graph.Addresses (findings.map Finding.issue) := by
  constructor
  · intro issue reported
    obtain ⟨finding, found, rfl⟩ := List.mem_map.mp reported
    exact ⟨finding.place, told.placed finding found, rfl⟩
  · have apart := told.once.map (Function.injective_id.prodMap Place.text_injective)
    rw [Finding.spots, List.map_map] at apart
    rw [List.map_map]
    exact apart

theorem Addresses.perm {issues others : List Issue} (addressed : graph.Addresses issues)
    (perm : others.Perm issues) : graph.Addresses others :=
  ⟨fun issue reported => addressed.1 issue (perm.mem_iff.mp reported),
    (perm.map _).nodup_iff.mpr addressed.2⟩

/-- What the check of a graph and the last gate report points at places that the graph has, and
nothing is reported twice. -/
theorem issues_addressed (graph : Graph) (limits : Limits) :
    graph.Addresses (graph.check limits).issues ∧ graph.Addresses graph.gate.errors := by
  obtain ⟨codes, told⟩ := Survey.tells_findings graph limits
  exact ⟨told.addresses.perm (Report.perm_ofIssues _), (tells_signFindings graph).addresses⟩

end Graph

end DecisionGraph

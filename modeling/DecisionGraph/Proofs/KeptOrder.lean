import DecisionGraph.Proofs.CycleReport
import DecisionGraph.Proofs.MovedFindings
import DecisionGraph.Proofs.OptionGroups

/-!
Findings in order. Where one graph lists the live nodes and the links of another in the same order,
the checks of links, connections, data and meaning take the same steps on both and find the same in
the same order.
-/

namespace DecisionGraph

namespace Renumbering

/-- The other graph has the live nodes and the links under new numbers, in the same order. -/
structure Keeps (moved : Renumbering) (graph other : Graph) : Prop where
  live : other.live = graph.live.map moved.entry
  links : other.links = graph.links.map moved.link
  edges : ∀ link ∈ graph.links, other.edges[moved.edge link.edge]? = graph.edges[link.edge]?
  apart : Function.Injective moved.node

variable (moved : Renumbering)

def frame (frame : Cycle.Frame) : Cycle.Frame :=
  ⟨moved.node frame.node, frame.pending.map moved.link⟩

def cycle (cycle : Cycle) : Cycle :=
  ⟨cycle.positions.map moved.node, moved.edge cycle.closingEdge⟩

theorem map_node_frame (path : List Cycle.Frame) :
    (path.map moved.frame).map Cycle.Frame.node = (path.map Cycle.Frame.node).map moved.node := by
  simp [frame, Function.comp_def]

section Search

variable {moved} (apart : Function.Injective moved.node)

include apart

theorem mem_map_node {nodes : List Nat} {position : Nat} :
    moved.node position ∈ nodes.map moved.node ↔ position ∈ nodes :=
  List.mem_map_of_injective apart

theorem leaving_map_of_injective (links : List Link) (position : Nat) :
    Link.leaving (links.map moved.link) (moved.node position) =
      (Link.leaving links position).map moved.link :=
  moved.leaving_map fun _ _ same => apart same

theorem loop_map (target : Nat) (path : List Cycle.Frame) :
    Cycle.loop (moved.node target) (path.map moved.frame) =
      (Cycle.loop target path).map moved.node := by
  have stops : (fun position => decide (position ≠ moved.node target)) ∘ moved.node =
      fun position => decide (position ≠ target) :=
    funext fun position => decide_eq_decide.mpr apart.ne_iff
  rw [Cycle.loop, map_node_frame, List.takeWhile_map, stops, Cycle.loop, List.map_cons,
    List.map_reverse]

/-- The search takes the same steps under new numbers. -/
theorem search_map (links : List Link) (fresh : List Nat) (path : List Cycle.Frame) :
    Cycle.search (links.map moved.link) (fresh.map moved.node) (path.map moved.frame) =
      (Cycle.search links fresh path).map moved.cycle := by
  fun_induction Cycle.search links fresh path with
  | case1 => simp [Cycle.search]
  | case2 start fresh ih =>
      rw [← ih]
      simp only [List.map_cons, List.map_nil, Cycle.search, frame,
        leaving_map_of_injective apart links start]
  | case3 fresh node path ih =>
      rw [← ih]
      simp only [List.map_cons, frame, List.map_nil, Cycle.search]
  | case4 fresh node link pending path entered ih =>
      rw [← ih, List.map_erase apart]
      have entersToo : (moved.link link).target ∈ fresh.map moved.node :=
        (mem_map_node apart).mpr entered
      simp only [List.map_cons, frame, Cycle.search, if_pos entersToo]
      simp only [Renumbering.link, leaving_map_of_injective apart links link.target]
  | case5 fresh node link pending path left closes ih =>
      have leftToo : (moved.link link).target ∉ fresh.map moved.node :=
        (mem_map_node apart).not.mpr left
      have closesToo : (moved.link link).target = moved.node node ∨
          (moved.link link).target ∈ (path.map moved.frame).map Cycle.Frame.node := by
        rw [map_node_frame]
        exact closes.imp (congrArg moved.node) (mem_map_node apart).mpr
      rw [List.map_cons, List.map_cons, ← ih]
      simp only [List.map_cons, Cycle.search, frame, if_neg leftToo]
      rw [if_pos closesToo]
      refine congrArg₂ List.cons ?_ rfl
      exact congrArg₂ Cycle.mk (loop_map apart link.target (⟨node, pending⟩ :: path)) rfl
  | case6 fresh node link pending path left opens ih =>
      have leftToo : (moved.link link).target ∉ fresh.map moved.node :=
        (mem_map_node apart).not.mpr left
      have opensToo : ¬((moved.link link).target = moved.node node ∨
          (moved.link link).target ∈ (path.map moved.frame).map Cycle.Frame.node) := by
        rw [map_node_frame]
        exact fun closes => opens (closes.imp (apart ·) (mem_map_node apart).mp)
      rw [← ih]
      simp only [List.map_cons, Cycle.search, frame, if_neg leftToo]
      rw [if_neg opensToo]

end Search

end Renumbering

/-! What the checks of links, connections, data and meaning find. -/

namespace Survey

/-- Whether options and labels make sense. -/
def meaning (survey : Survey) : List Finding :=
  survey.choice ++ survey.goalNumbers ++ survey.looseScaffold

/-- The checks that see a graph by its live nodes and its links. -/
def linkChecks : List (Survey → List Finding) := [wiring, connection, data, meaning]

theorem findings_eq_linkChecks (survey : Survey) (limits : Limits) :
    survey.findings limits = survey.census limits ++ linkChecks.flatMap (fun check => check survey)
      ++ survey.unfiniteNumbers ++ survey.advice := by
  simp only [findings, linkChecks, meaning, List.flatMap_cons, List.flatMap_nil, List.append_nil,
    List.append_assoc]

end Survey

/-- A pass finds the same under new numbers when it does for every item. -/
theorem filterMap_renumbered {α β : Type} {move : α → α} {renamed : β → β} {items : List α}
    {find again : α → Option β}
    (same : ∀ item ∈ items, again (move item) = (find item).map renamed) :
    (items.map move).filterMap again = (items.filterMap find).map renamed := by
  rw [List.filterMap_map, List.map_filterMap]
  exact List.filterMap_congr same

theorem flatMap_renumbered {α β : Type} {move : α → α} {renamed : β → β} {items : List α}
    {find again : α → List β} (same : ∀ item ∈ items, again (move item) = (find item).map renamed) :
    (items.map move).flatMap again = (items.flatMap find).map renamed := by
  rw [List.flatMap_map, List.map_flatMap]
  exact List.flatMap_congr same

namespace Renumbering.Keeps

variable {moved : Renumbering} {graph other : Graph} (keeps : moved.Keeps graph other)

include keeps

theorem carries : moved.Carries graph other where
  live := .of_eq keeps.live
  links := .of_eq keeps.links
  edges := keeps.edges

theorem liveOfKind_eq (kind : NodeKind) :
    other.liveOfKind kind = (graph.liveOfKind kind).map moved.node := by
  rw [Graph.liveOfKind, Graph.liveOfKind, keeps.live, List.filter_map, List.map_map, List.map_map]
  rfl

theorem targets_eq {position : Nat} (live : graph.IsLive position) :
    (Link.leaving other.links (moved.node position)).map (fun link => other.idAt link.target) =
      (Link.leaving graph.links position).map fun link => graph.idAt link.target := by
  rw [keeps.links, keeps.carries.leaving_map live, List.map_map]
  refine List.map_congr_left fun link leaving => ?_
  exact keeps.carries.idAt_eq (Graph.isLive_target (List.mem_filter.mp leaving).1)

theorem sources_eq {position : Nat} (live : graph.IsLive position) :
    (Link.entering other.links (moved.node position)).map (fun link => other.idAt link.source) =
      (Link.entering graph.links position).map fun link => graph.idAt link.source := by
  rw [keeps.links, keeps.carries.entering_map live, List.map_map]
  refine List.map_congr_left fun link entering => ?_
  exact keeps.carries.idAt_eq (Graph.isLive_source (List.mem_filter.mp entering).1)

theorem leftGoals_eq :
    (Survey.ofGraph other).leftGoals =
      (Survey.ofGraph graph).leftGoals.map moved.finding := by
  rw [Survey.leftGoals_eq, Survey.leftGoals_eq]
  change (other.liveOfKind .goal).filterMap _ = _
  rw [keeps.liveOfKind_eq]
  refine filterMap_renumbered fun position listed => ?_
  obtain ⟨node, live, _⟩ := Graph.mem_liveOfKind_iff.mp listed
  rw [Survey.leftGoal?_eq, Survey.leftGoal?_eq, Finding.map_naming]
  simp only [Survey.ofGraph, keeps.targets_eq ⟨node, live⟩, keeps.carries.idAt_eq ⟨node, live⟩]
  rfl

theorem enteredDecisions_eq :
    (Survey.ofGraph other).enteredDecisions =
      (Survey.ofGraph graph).enteredDecisions.map moved.finding := by
  rw [Survey.enteredDecisions_eq, Survey.enteredDecisions_eq]
  change (other.liveOfKind .decision).filterMap _ = _
  rw [keeps.liveOfKind_eq]
  refine filterMap_renumbered fun position listed => ?_
  obtain ⟨node, live, _⟩ := Graph.mem_liveOfKind_iff.mp listed
  rw [Survey.enteredDecision?_eq, Survey.enteredDecision?_eq, Finding.map_naming]
  simp only [Survey.ofGraph, keeps.sources_eq ⟨node, live⟩, keeps.carries.idAt_eq ⟨node, live⟩]
  rfl

theorem misplacedEdges_eq :
    (Survey.ofGraph other).misplacedEdges =
      (Survey.ofGraph graph).misplacedEdges.map moved.finding := by
  rw [Survey.misplacedEdges_eq, Survey.misplacedEdges_eq]
  change other.links.filterMap _ = _
  rw [keeps.links]
  exact filterMap_renumbered fun _ => keeps.carries.misplacedEdge?_eq

theorem find_eq : Cycle.find other = (Cycle.find graph).map moved.cycle := by
  have places : other.live.map (·.2) = (graph.live.map (·.2)).map moved.node := by
    rw [keeps.live, List.map_map, List.map_map]
    rfl
  rw [Cycle.find, places, keeps.links]
  exact Renumbering.search_map keeps.apart graph.links _ []

theorem idsAlong_eq {cycle : Cycle} (found : cycle ∈ Cycle.find graph) :
    (Survey.ofGraph other).idsAlong (moved.cycle cycle) =
      (Survey.ofGraph graph).idsAlong cycle := by
  have ids : ∀ position ∈ cycle.positions,
      other.idAt (moved.node position) = graph.idAt position := by
    intro position member
    have closed := Cycle.closed_of_mem_find found
    obtain ⟨_, _, _, head, _⟩ := closed.closing
    obtain ⟨rest, walk⟩ := List.head?_eq_some_iff.mp head
    obtain ⟨_, link, listed, rfl, _⟩ :=
      exists_next_of_isChain (closed.isChain walk) (walk ▸ member)
    exact keeps.carries.idAt_eq (Graph.isLive_source listed)
  simp only [Survey.idsAlong, Survey.ofGraph, Renumbering.cycle, ← List.map_take, ← List.map_append,
    List.map_map]
  refine List.map_congr_left fun position member => ids position ?_
  rcases List.mem_append.mp member with member | member
  · exact member
  · exact List.mem_of_mem_take member

theorem cycles_eq :
    (Survey.ofGraph other).cycles = (Survey.ofGraph graph).cycles.map moved.finding := by
  change (Cycle.find other).map _ = ((Cycle.find graph).map _).map moved.finding
  rw [keeps.find_eq, List.map_map, List.map_map]
  refine List.map_congr_left fun cycle found => ?_
  exact congrArg (Finding.cycle _) (keeps.idsAlong_eq found)

theorem wiring_eq :
    (Survey.ofGraph other).wiring = (Survey.ofGraph graph).wiring.map moved.finding := by
  simp only [Survey.wiring, List.map_append, keeps.leftGoals_eq, keeps.enteredDecisions_eq,
    keeps.misplacedEdges_eq, keeps.cycles_eq]

theorem connection_eq :
    (Survey.ofGraph other).connection = (Survey.ofGraph graph).connection.map moved.finding := by
  have reached := keeps.carries.same_reached
  have reaching := keeps.carries.same_reaching
  rw [Survey.connection, Survey.connection, List.map_append]
  refine congrArg₂ (· ++ ·) ?_ ?_
  · rw [Survey.unreachedNodes_eq, Survey.unreachedNodes_eq]
    generalize (Survey.ofGraph graph).reached = found at reached ⊢
    generalize (Survey.ofGraph other).reached = again at reached ⊢
    cases reached with
    | none => rfl
    | some same =>
        change other.live.filterMap _ = (graph.live.filterMap _).map _
        rw [keeps.live]
        exact filterMap_renumbered fun _ live => keeps.carries.unreached?_eq live same
  · rw [Survey.strandedNodes_eq, Survey.strandedNodes_eq]
    generalize (Survey.ofGraph graph).reaching = found at reaching ⊢
    generalize (Survey.ofGraph other).reaching = again at reaching ⊢
    cases reaching with
    | none => rfl
    | some same =>
        change other.live.filterMap _ = (graph.live.filterMap _).map _
        rw [keeps.live]
        exact filterMap_renumbered fun _ live => Carries.stranded?_eq live same

theorem data_eq :
    (Survey.ofGraph other).data = (Survey.ofGraph graph).data.map moved.finding := by
  rw [Survey.data_eq, Survey.data_eq]
  change other.live.flatMap _ = (graph.live.flatMap _).map _
  rw [keeps.live]
  exact flatMap_renumbered fun _ => keeps.carries.dataAt_eq

theorem options_eq :
    (Survey.ofGraph other).options = (Survey.ofGraph graph).options.map moved.entry := by
  change other.live.filter _ = (graph.live.filter _).map moved.entry
  rw [keeps.live, List.filter_map]
  rfl

theorem missingEffect_eq (option : Node) {position : Nat} (live : graph.IsLive position) :
    (Survey.ofGraph other).missingEffect option (moved.node position) =
      ((Survey.ofGraph graph).missingEffect option position).map moved.finding := by
  have factors : (Survey.ofGraph other).factorsOf option (moved.node position) =
      ((Survey.ofGraph graph).factorsOf option position).map moved.node := by
    rw [← keeps.carries.factors_map option live, ← keeps.liveOfKind_eq]
    rfl
  have names : (((Survey.ofGraph graph).factorsOf option position).map moved.node).map other.idAt =
      ((Survey.ofGraph graph).factorsOf option position).map graph.idAt := by
    rw [List.map_map]
    exact List.map_congr_left fun factor listed =>
      keeps.carries.idAt_eq (Survey.isLive_of_mem_factorsOf listed)
  have reaching := keeps.carries.same_reaching
  unfold Survey.missingEffect
  rw [factors]
  generalize (Survey.ofGraph graph).reaching = found at reaching ⊢
  generalize (Survey.ofGraph other).reaching = again at reaching ⊢
  cases reaching with
  | none => rfl
  | @some found again same =>
      have any : (((Survey.ofGraph graph).factorsOf option position).map moved.node).any
          (fun factor => factor ∈ again) =
          ((Survey.ofGraph graph).factorsOf option position).any fun factor => factor ∈ found := by
        rw [List.any_map]
        rw [Bool.eq_iff_iff, List.any_eq_true, List.any_eq_true]
        refine exists_congr fun factor => and_congr_right fun listed => ?_
        simp only [Function.comp, same factor (Survey.isLive_of_mem_factorsOf listed)]
      simp only [any, Renumbering.map_unless]
      exact congrArg (Finding.unless _ <| Finding.noEffect _ _ ·) names

theorem effects_eq :
    (Survey.ofGraph other).effects = (Survey.ofGraph graph).effects.map moved.finding := by
  change (Survey.ofGraph other).options.flatMap (Survey.ofGraph other).effectsAt =
    ((Survey.ofGraph graph).options.flatMap (Survey.ofGraph graph).effectsAt).map moved.finding
  rw [keeps.options_eq]
  refine flatMap_renumbered fun entry listed => ?_
  have live : graph.IsLive entry.2 := ⟨entry.1, (List.mem_filter.mp listed).1⟩
  rw [Survey.effectsAt, Survey.effectsAt, List.map_append]
  exact congrArg₂ (· ++ ·) keeps.carries.straySettings_eq (keeps.missingEffect_eq entry.1 live)

theorem equalOptions_eq :
    (Survey.ofGraph other).equalOptions =
      (Survey.ofGraph graph).equalOptions.map (List.map moved.entry) := by
  have same (option : Node × Nat) :
      Survey.signature (moved.entry option).1 = Survey.signature option.1 := rfl
  have groups := Survey.gathered_map same (Survey.ofGraph graph).options
  rw [Survey.equalOptions, keeps.options_eq, groups, Survey.equalOptions, List.map_map,
    List.map_map]
  rfl

theorem identicalChoices_eq :
    (Survey.ofGraph other).identicalChoices =
      (Survey.ofGraph graph).identicalChoices.map moved.finding := by
  rw [Survey.identicalChoices_eq, Survey.identicalChoices_eq, keeps.equalOptions_eq]
  refine filterMap_renumbered fun group _ => ?_
  rcases group with _ | ⟨first, _ | ⟨second, others⟩⟩
  · rfl
  · rfl
  · simp only [List.map_cons, Survey.identical?, Renumbering.entry, List.map_map, Option.map_some]
    rfl

theorem goalNumbers_eq :
    (Survey.ofGraph other).goalNumbers = (Survey.ofGraph graph).goalNumbers.map moved.finding := by
  rw [Survey.goalNumbers_eq, Survey.goalNumbers_eq]
  change other.live.filterMap _ = (graph.live.filterMap _).map _
  rw [keeps.live]
  exact filterMap_renumbered fun _ => keeps.carries.goalNumber?_eq

theorem linkedEdges_eq :
    (Survey.ofGraph other).linkedEdges =
      (Survey.ofGraph graph).linkedEdges.map fun entry => (moved.link entry.1, entry.2) := by
  change other.links.filterMap _ = (graph.links.filterMap _).map _
  rw [keeps.links]
  refine filterMap_renumbered fun link listed => ?_
  have edge : other.edges[(moved.link link).edge]? = graph.edges[link.edge]? :=
    keeps.edges link listed
  simp only [Survey.ofGraph, edge, Option.map_map]
  rfl

theorem looseScaffold_eq :
    (Survey.ofGraph other).looseScaffold =
      (Survey.ofGraph graph).looseScaffold.map moved.finding := by
  rw [Survey.looseScaffold_eq, Survey.looseScaffold_eq, keeps.linkedEdges_eq]
  refine filterMap_renumbered fun entry listed => ?_
  exact keeps.carries.looseScaffold?_eq (Survey.mem_links_of_linked _ listed)

theorem meaning_eq :
    (Survey.ofGraph other).meaning = (Survey.ofGraph graph).meaning.map moved.finding := by
  simp only [Survey.meaning, Survey.choice, List.map_append, keeps.effects_eq,
    keeps.identicalChoices_eq, keeps.goalNumbers_eq, keeps.looseScaffold_eq]

theorem linkChecks_eq {check : Survey → List Finding} (member : check ∈ Survey.linkChecks) :
    check (.ofGraph other) = (check (.ofGraph graph)).map moved.finding := by
  simp only [Survey.linkChecks, List.mem_cons, List.not_mem_nil, or_false] at member
  rcases member with rfl | rfl | rfl | rfl
  · exact keeps.wiring_eq
  · exact keeps.connection_eq
  · exact keeps.data_eq
  · exact keeps.meaning_eq

end Renumbering.Keeps

end DecisionGraph

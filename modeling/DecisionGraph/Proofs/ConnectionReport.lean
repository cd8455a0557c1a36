import DecisionGraph.Proofs.CycleReport

/-!
What a report says about connections. It names just the live nodes that the decision does not reach,
drivers of the goal apart, and those that do not reach the goal.
-/

namespace DecisionGraph

open Relation

namespace Graph

variable {graph : Graph}

/-- A walk along edges with declared ends leads from the one id to the other; it may be empty. -/
def Reaches (graph : Graph) (source target : String) : Prop :=
  ReflTransGen graph.Resolved source target

/-- The one live node of a kind. -/
structure Sole (graph : Graph) (kind : NodeKind) (node : Node) : Prop where
  live : ∃ position, (node, position) ∈ graph.live
  only : ∀ other position, (other, position) ∈ graph.live → (other.kind = kind ↔ other = node)

/-- A factor that no option sets and that leads to the goal, if there is just one goal. -/
def Drives (graph : Graph) (node : Node) (position : Nat) : Prop :=
  (graph.category? position = some .observable ∨ graph.category? position = some .external) ∧
    ∀ goal, graph.Sole .goal goal → graph.Reaches node.id goal.id

theorem idAt_of_live {node : Node} {position : Nat} (live : (node, position) ∈ graph.live) :
    graph.idAt position = node.id :=
  idAt_of_getElem? (mem_live_iff.mp live).1

theorem place_of_live {node : Node} {position : Nat} (live : (node, position) ∈ graph.live) :
    graph.place node.id = position := by
  simp [place, (mem_live_iff.mp live).2]

theorem kindAt?_of_live {node : Node} {position : Nat} (live : (node, position) ∈ graph.live) :
    graph.kindAt? position = some node.kind :=
  kindAt?_eq_some_iff.mpr ⟨node, (mem_live_iff.mp live).1, rfl⟩

theorem leads_iff_resolved {first second : Node} {start stop : Nat}
    (starts : (first, start) ∈ graph.live) (stops : (second, stop) ∈ graph.live) :
    Link.Leads graph.links start stop ↔ graph.Resolved first.id second.id := by
  constructor
  · intro leads
    have resolved := resolved_of_leads leads
    rwa [idAt_of_live starts, idAt_of_live stops] at resolved
  · intro resolved
    have leads := leads_of_resolved resolved
    rwa [place_of_live starts, place_of_live stops] at leads

/-- Between live nodes, walks over positions are walks over ids. -/
theorem walk_iff_reaches {first second : Node} {start stop : Nat}
    (starts : (first, start) ∈ graph.live) (stops : (second, stop) ∈ graph.live) :
    ReflTransGen (Link.Leads graph.links) start stop ↔ graph.Reaches first.id second.id := by
  constructor
  · intro walk
    have lifted := ReflTransGen.lift graph.idAt (fun _ _ => resolved_of_leads) _ _ walk
    simpa [Function.onFun, idAt_of_live starts, idAt_of_live stops, Reaches] using lifted
  · intro walk
    have lifted := ReflTransGen.lift graph.place (fun _ _ => leads_of_resolved) _ _ walk
    simpa [Function.onFun, place_of_live starts, place_of_live stops] using lifted

theorem mem_forward_iff_reaches {first second : Node} {start stop : Nat}
    (starts : (first, start) ∈ graph.live) (stops : (second, stop) ∈ graph.live) :
    stop ∈ Reach.forward graph.links graph.nodes.length start ↔
      graph.Reaches first.id second.id := by
  rw [Reach.mem_forward fun _ => source_lt, walk_iff_reaches starts stops]
  exact and_iff_right (lt_of_live stops)

theorem mem_backward_iff_reaches {first second : Node} {start stop : Nat}
    (starts : (first, start) ∈ graph.live) (stops : (second, stop) ∈ graph.live) :
    start ∈ Reach.backward graph.links graph.nodes.length stop ↔
      graph.Reaches first.id second.id := by
  rw [Reach.mem_backward fun _ => target_lt, walk_iff_reaches starts stops]
  exact and_iff_right (lt_of_live starts)

theorem position_of_live {node : Node} {position place : Nat}
    (live : (node, position) ∈ graph.live) (also : (node, place) ∈ graph.live) :
    position = place :=
  (place_of_live live).symm.trans (place_of_live also)

theorem uniqueOfKind?_eq_some_iff {kind : NodeKind} {position : Nat} :
    graph.uniqueOfKind? kind = some position ↔
      ∃ node, (node, position) ∈ graph.live ∧ graph.Sole kind node := by
  have listed {place : Nat} : place ∈ graph.liveOfKind kind ↔
      ∃ node, (node, place) ∈ graph.live ∧ node.kind = kind := by
    simp [liveOfKind]
  constructor
  · intro found
    have only : graph.liveOfKind kind = [position] := by
      unfold uniqueOfKind? at found
      split at found
      · next same =>
        cases found
        exact same
      · cases found
    obtain ⟨node, live, same⟩ := listed.mp (by rw [only]; exact List.mem_singleton_self position)
    refine ⟨node, live, ⟨position, live⟩, fun other place also => ⟨fun kinds => ?_, ?_⟩⟩
    · have among := listed.mpr ⟨other, also, kinds⟩
      rw [only, List.mem_singleton] at among
      subst among
      exact eq_of_live also live
    · rintro rfl
      exact same
  · rintro ⟨node, live, sole⟩
    have members : ∀ place, place ∈ graph.liveOfKind kind ↔ place ∈ [position] := by
      intro place
      rw [List.mem_singleton, listed]
      constructor
      · rintro ⟨other, also, kinds⟩
        rw [(sole.only other place also).mp kinds] at also
        exact position_of_live also live
      · rintro rfl
        exact ⟨node, live, (sole.only node place live).mpr rfl⟩
    have once : (graph.liveOfKind kind).Nodup :=
      graph.nodup_live.sublist (List.filter_sublist.map _)
    have only : graph.liveOfKind kind = [position] :=
      List.perm_singleton.mp ((List.perm_ext_iff_of_nodup once (List.nodup_singleton _)).mpr members)
    simp [uniqueOfKind?, only]

end Graph

/-! The pass over the connections. -/

namespace Survey

variable {graph : Graph}

theorem kindAt?_of_live {node : Node} {position : Nat} (live : (node, position) ∈ graph.live) :
    (ofGraph graph).graph.kindAt? position = some node.kind := Graph.kindAt?_of_live live

theorem reached_eq_some_iff {reached : List Nat} :
    (ofGraph graph).reached = some reached ↔
      ∃ decision start, (decision, start) ∈ graph.live ∧ graph.Sole .decision decision ∧
        reached = Reach.forward graph.links graph.nodes.length start := by
  simp only [ofGraph, Option.map_eq_some_iff, Graph.uniqueOfKind?_eq_some_iff]
  constructor
  · rintro ⟨start, ⟨decision, live, sole⟩, rfl⟩
    exact ⟨decision, start, live, sole, rfl⟩
  · rintro ⟨decision, start, live, sole, rfl⟩
    exact ⟨start, ⟨decision, live, sole⟩, rfl⟩

theorem reaching_eq_some_iff {reaching : List Nat} :
    (ofGraph graph).reaching = some reaching ↔
      ∃ goal stop, (goal, stop) ∈ graph.live ∧ graph.Sole .goal goal ∧
        reaching = Reach.backward graph.links graph.nodes.length stop := by
  simp only [ofGraph, Option.map_eq_some_iff, Graph.uniqueOfKind?_eq_some_iff]
  constructor
  · rintro ⟨stop, ⟨goal, live, sole⟩, rfl⟩
    exact ⟨goal, stop, live, sole, rfl⟩
  · rintro ⟨goal, stop, live, sole, rfl⟩
    exact ⟨stop, ⟨goal, live, sole⟩, rfl⟩

theorem isDriver_ofGraph_iff {node : Node} {position : Nat}
    (live : (node, position) ∈ graph.live) :
    (ofGraph graph).isDriver position = true ↔ graph.Drives node position := by
  have loose : (∀ goal, graph.Sole .goal goal → graph.Reaches node.id goal.id) ↔
      ∀ reaching, (ofGraph graph).reaching = some reaching → position ∈ reaching := by
    constructor
    · intro drives reaching found
      obtain ⟨goal, stop, stops, sole, rfl⟩ := reaching_eq_some_iff.mp found
      exact (Graph.mem_backward_iff_reaches live stops).mpr (drives goal sole)
    · intro drives goal sole
      obtain ⟨stop, stops⟩ := sole.live
      exact (Graph.mem_backward_iff_reaches live stops).mp
        (drives _ (reaching_eq_some_iff.mpr ⟨goal, stop, stops, sole, rfl⟩))
  rw [Graph.Drives, loose]
  change _ ↔ ((ofGraph graph).category? position = some .observable ∨
    (ofGraph graph).category? position = some .external) ∧ _
  unfold isDriver
  cases (ofGraph graph).reaching with
  | none =>
      cases (ofGraph graph).category? position with
      | none => simp
      | some category => cases category <;> simp
  | some reaching =>
      cases (ofGraph graph).category? position with
      | none => simp
      | some category => cases category <;> simp

theorem mem_unreachedNodes_iff {finding : Finding} :
    finding ∈ (ofGraph graph).unreachedNodes ↔
      ∃ decision node position, graph.Sole .decision decision ∧ (node, position) ∈ graph.live ∧
        ¬ graph.Reaches decision.id node.id ∧ ¬ graph.Drives node position ∧
        finding = .unreached position node.id node.kind := by
  have fine {decision node : Node} {start position : Nat} (starts : (decision, start) ∈ graph.live)
      (live : (node, position) ∈ graph.live) :
      ¬ (decide (position ∈ Reach.forward graph.links graph.nodes.length start) ||
        (ofGraph graph).isDriver position) = true ↔
      ¬ graph.Reaches decision.id node.id ∧ ¬ graph.Drives node position := by
    rw [Bool.or_eq_true, decide_eq_true_eq, Graph.mem_forward_iff_reaches starts live,
      isDriver_ofGraph_iff live, not_or]
  constructor
  · intro found
    unfold unreachedNodes at found
    split at found
    · cases found
    · next reached search =>
      obtain ⟨decision, start, starts, sole, rfl⟩ := reached_eq_some_iff.mp search
      obtain ⟨⟨node, position⟩, live, found⟩ := List.mem_filterMap.mp found
      simp only at found
      split at found
      · cases found
      · next apart =>
        cases found
        obtain ⟨unreached, idle⟩ := (fine starts live).mp apart
        exact ⟨decision, node, position, sole, live, unreached, idle, rfl⟩
  · rintro ⟨decision, node, position, sole, live, unreached, idle, rfl⟩
    obtain ⟨start, starts⟩ := sole.live
    simp only [unreachedNodes, reached_eq_some_iff.mpr ⟨decision, start, starts, sole, rfl⟩]
    refine List.mem_filterMap.mpr ⟨(node, position), live, ?_⟩
    exact if_neg ((fine starts live).mpr ⟨unreached, idle⟩)

theorem mem_strandedNodes_iff {finding : Finding} :
    finding ∈ (ofGraph graph).strandedNodes ↔
      ∃ goal node position, graph.Sole .goal goal ∧ (node, position) ∈ graph.live ∧
        node.kind ≠ .decision ∧ ¬ graph.Reaches node.id goal.id ∧
        finding = .stranded position node.id node.kind := by
  have fine {goal node : Node} {stop position : Nat} (stops : (goal, stop) ∈ graph.live)
      (live : (node, position) ∈ graph.live) :
      ¬ (decide (position ∈ Reach.backward graph.links graph.nodes.length stop) ||
        decide (node.kind = .decision)) = true ↔
      ¬ graph.Reaches node.id goal.id ∧ node.kind ≠ .decision := by
    rw [Bool.or_eq_true, decide_eq_true_eq, decide_eq_true_eq,
      Graph.mem_backward_iff_reaches live stops, not_or]
  constructor
  · intro found
    unfold strandedNodes at found
    split at found
    · cases found
    · next reaching search =>
      obtain ⟨goal, stop, stops, sole, rfl⟩ := reaching_eq_some_iff.mp search
      obtain ⟨⟨node, position⟩, live, found⟩ := List.mem_filterMap.mp found
      simp only at found
      split at found
      · cases found
      · next apart =>
        cases found
        obtain ⟨stranded, other⟩ := (fine stops live).mp apart
        exact ⟨goal, node, position, sole, live, other, stranded, rfl⟩
  · rintro ⟨goal, node, position, sole, live, other, stranded, rfl⟩
    obtain ⟨stop, stops⟩ := sole.live
    simp only [strandedNodes, reaching_eq_some_iff.mpr ⟨goal, stop, stops, sole, rfl⟩]
    refine List.mem_filterMap.mpr ⟨(node, position), live, ?_⟩
    exact if_neg ((fine stops live).mpr ⟨stranded, other⟩)

theorem mem_unreachedNodes_of_code {limits : Limits} {finding : Finding}
    (found : finding ∈ (ofGraph graph).findings limits)
    (code : finding.code = .unreachableFromDecision) :
    finding ∈ (ofGraph graph).unreachedNodes := by
  have passed := mem_passesOf found
  rw [code] at passed
  rcases List.mem_append.mp passed with unreached | stranded
  · exact unreached
  · obtain ⟨_, _, _, _, _, _, _, rfl⟩ := mem_strandedNodes_iff.mp stranded
    cases code

theorem mem_strandedNodes_of_code {limits : Limits} {finding : Finding}
    (found : finding ∈ (ofGraph graph).findings limits) (code : finding.code = .noPathToGoal) :
    finding ∈ (ofGraph graph).strandedNodes := by
  have passed := mem_passesOf found
  rw [code] at passed
  rcases List.mem_append.mp passed with unreached | stranded
  · obtain ⟨_, _, _, _, _, _, _, rfl⟩ := mem_unreachedNodes_iff.mp unreached
    cases code
  · exact stranded

theorem mem_findings_of_mem_connection (limits : Limits) {finding : Finding}
    (found : finding ∈ (ofGraph graph).connection) :
    finding ∈ (ofGraph graph).findings limits :=
  mem_findings.mpr (.inr (.inr (.inl found)))

end Survey

/-- The report has an issue with the code at the node. -/
def Report.namesNode (report : Report) (code : IssueCode) (position : Nat) : Prop :=
  ∃ issue ∈ report.withCode code, issue.path = (Place.node position).text

namespace Graph

variable {graph : Graph}

theorem unreachable_iff {limits : Limits} {position : Nat} :
    (graph.check limits).namesNode .unreachableFromDecision position ↔
      ∃ decision node, graph.Sole .decision decision ∧ (node, position) ∈ graph.live ∧
        ¬ graph.Reaches decision.id node.id ∧ ¬ graph.Drives node position := by
  constructor
  · rintro ⟨issue, reported, path⟩
    obtain ⟨finding, found, code, rfl⟩ := mem_withCode_iff.mp reported
    obtain ⟨decision, node, place, sole, live, unreached, idle, rfl⟩ :=
      Survey.mem_unreachedNodes_iff.mp (Survey.mem_unreachedNodes_of_code found code)
    cases Place.text_node_injective path
    exact ⟨decision, node, sole, live, unreached, idle⟩
  · rintro ⟨decision, node, sole, live, unreached, idle⟩
    have found := Survey.mem_unreachedNodes_iff.mpr
      ⟨decision, node, position, sole, live, unreached, idle, rfl⟩
    have found := Survey.mem_findings_of_mem_connection limits (List.mem_append_left _ found)
    exact ⟨_, mem_withCode_iff.mpr ⟨_, found, rfl, rfl⟩, rfl⟩

theorem stranded_iff {limits : Limits} {position : Nat} :
    (graph.check limits).namesNode .noPathToGoal position ↔
      ∃ goal node, graph.Sole .goal goal ∧ (node, position) ∈ graph.live ∧
        node.kind ≠ .decision ∧ ¬ graph.Reaches node.id goal.id := by
  constructor
  · rintro ⟨issue, reported, path⟩
    obtain ⟨finding, found, code, rfl⟩ := mem_withCode_iff.mp reported
    obtain ⟨goal, node, place, sole, live, other, stranded, rfl⟩ :=
      Survey.mem_strandedNodes_iff.mp (Survey.mem_strandedNodes_of_code found code)
    cases Place.text_node_injective path
    exact ⟨goal, node, sole, live, other, stranded⟩
  · rintro ⟨goal, node, sole, live, other, stranded⟩
    have found := Survey.mem_strandedNodes_iff.mpr
      ⟨goal, node, position, sole, live, other, stranded, rfl⟩
    have found := Survey.mem_findings_of_mem_connection limits (List.mem_append_right _ found)
    exact ⟨_, mem_withCode_iff.mpr ⟨_, found, rfl, rfl⟩, rfl⟩

/-- A report names just the nodes that are badly connected, and both searches that tell them end. -/
theorem badly_connected_iff (graph : Graph) (limits : Limits) :
    (∀ position,
      ((graph.check limits).namesNode .unreachableFromDecision position ↔
        ∃ decision node, graph.Sole .decision decision ∧ (node, position) ∈ graph.live ∧
          ¬ graph.Reaches decision.id node.id ∧ ¬ graph.Drives node position) ∧
      ((graph.check limits).namesNode .noPathToGoal position ↔
        ∃ goal node, graph.Sole .goal goal ∧ (node, position) ∈ graph.live ∧
          node.kind ≠ .decision ∧ ¬ graph.Reaches node.id goal.id)) ∧
    ∀ start : Fin graph.nodes.length,
      Reach.Ends (fun position => (Link.leaving graph.links position).map Link.target)
        graph.nodes.length start (Reach.forward graph.links graph.nodes.length start) ∧
      Reach.Ends (fun position => (Link.entering graph.links position).map Link.source)
        graph.nodes.length start (Reach.backward graph.links graph.nodes.length start) :=
  ⟨fun _ => ⟨unreachable_iff, stranded_iff⟩,
    fun start => ⟨Reach.ends_within start.isLt, Reach.ends_within start.isLt⟩⟩

end Graph

end DecisionGraph

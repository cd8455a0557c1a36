import DecisionGraph.Proofs.Layers
import DecisionGraph.Proofs.Relisting
import DecisionGraph.Proofs.Verdict
import DecisionGraph.Proofs.WideGraph

/-!
Routes from the decision to the goal. In a valid graph every node but the factors that no option sets
stands on a route, and every option has its own.
-/

namespace DecisionGraph

open Relation

theorem Limits.bind_eq_ok {α β : Type} {first : Except ConfigFailure α}
    {next : α → Except ConfigFailure β} {result : β} :
    first >>= next = .ok result ↔ ∃ value, first = .ok value ∧ next value = .ok result := by
  cases first <;> simp [bind, Except.bind]

/-- Limits that ask for no options are not accepted. -/
theorem Limits.minOptions_pos {asked limits : Limits} (accepted : asked.checked = .ok limits) :
    0 < limits.minOptions := by
  unfold checked at accepted
  cases passed : asked.check with
  | error failure =>
      rw [passed] at accepted
      cases accepted
  | ok _ =>
      rw [passed] at accepted
      cases accepted
      refine Nat.pos_of_ne_zero fun none => ?_
      simp only [check, positive, none, bind_eq_ok] at passed
      obtain ⟨_, _, _, _, _, refused, _⟩ := passed
      cases refused

namespace Graph

/-- A way from the decision to the goal, by ids, through every layer. -/
structure Route where
  decision : String
  option : String
  lever : String
  influences : List String
  effect : String
  goal : String

def Route.ids (route : Route) : List String :=
  route.decision :: route.option :: route.lever :: (route.influences ++ [route.effect, route.goal])

/-- The route follows edges, and every id on it has the role of its layer. -/
structure Route.Runs (route : Route) (graph : Graph) : Prop where
  steps : route.ids.IsChain graph.Resolved
  decision : graph.Plays route.decision .decision
  option : graph.Plays route.option .option
  lever : graph.Plays route.lever (.factor .controllable)
  influences : ∀ id ∈ route.influences, graph.IsInfluence id
  effect : graph.IsEffect route.effect
  goal : graph.Plays route.goal .goal

variable {graph : Graph}

theorem not_plays_goal_of_effect {id : String} (effect : graph.IsEffect id) :
    ¬ graph.Plays id .goal := by
  intro goal
  rcases effect with plays | plays
  · cases plays.eq goal
  · cases plays.eq goal

section Walks

variable (placed : (Survey.ofGraph graph).misplacedEdges = []) {id goal : String}
  {rest : List String}

include placed in
/-- A walk from a factor to the goal goes through factors that no option sets and one effect. -/
theorem ending_of_factor {category : Category} (plays : graph.Plays id (.factor category))
    (walk : (id :: rest).IsChain graph.Resolved) (last : (id :: rest).getLast? = some goal)
    (ends : graph.Plays goal .goal) :
    ∃ influences effect, rest = influences ++ [effect, goal] ∧
      (∀ id ∈ influences, graph.IsInfluence id) ∧ graph.IsEffect effect := by
  induction rest generalizing id category with
  | nil =>
      cases last
      cases plays.eq ends
  | cons next rest ih =>
      rw [List.getLast?_cons_cons] at last
      rcases influence_or_effect_of_factor placed plays walk.rel with influence | effect
      · obtain ⟨_, also⟩ := influence.factor
        obtain ⟨influences, effect, rfl, free, known⟩ := ih also walk.tail last
        exact ⟨next :: influences, effect, rfl, List.forall_mem_cons.mpr ⟨influence, free⟩, known⟩
      · obtain ⟨verdict, rfl, _⟩ := layers_of_effect placed effect walk.tail
        cases verdict with
        | none =>
            cases last
            exact absurd ends (not_plays_goal_of_effect effect)
        | some verdict =>
            cases last
            exact ⟨[], next, rfl, nofun, effect⟩

include placed in
theorem route_of_walk (plays : graph.Plays id .decision)
    (walk : (id :: rest).IsChain graph.Resolved) (last : (id :: rest).getLast? = some goal)
    (ends : graph.Plays goal .goal) :
    ∃ route : Route, route.Runs graph ∧ route.ids = id :: rest := by
  cases rest with
  | nil =>
      cases last
      cases plays.eq ends
  | cons option rest =>
      have optionPlays := option_of_decision placed plays walk.rel
      cases rest with
      | nil =>
          cases last
          cases optionPlays.eq ends
      | cons lever rest =>
          have leverPlays := lever_of_option placed optionPlays walk.tail.rel
          rw [List.getLast?_cons_cons, List.getLast?_cons_cons] at last
          obtain ⟨influences, effect, rfl, free, known⟩ :=
            ending_of_factor placed leverPlays walk.tail.tail last ends
          exact ⟨⟨id, option, lever, influences, effect, goal⟩,
            ⟨walk, plays, optionPlays, leverPlays, free, known, ends⟩, rfl⟩

include placed in
/-- What the decision reaches and the goal is reached from stands on a route. -/
theorem route_through {decision : String} (plays : graph.Plays decision .decision)
    (ends : graph.Plays goal .goal) (reached : graph.Reaches decision id)
    (reaching : graph.Reaches id goal) :
    ∃ route : Route, route.Runs graph ∧ route.decision = decision ∧ route.goal = goal ∧
      id ∈ route.ids := by
  obtain ⟨before, first, meets⟩ := List.exists_isChain_cons_of_relationReflTransGen reached
  obtain ⟨after, second, stops⟩ := List.exists_isChain_cons_of_relationReflTransGen reaching
  have split := List.dropLast_append_getLast (List.cons_ne_nil decision before)
  rw [meets] at split
  generalize (decision :: before).dropLast = upto at split
  have walk : (upto ++ id :: after).IsChain graph.Resolved :=
    List.isChain_split.mpr ⟨split ▸ first, second⟩
  have last : (upto ++ id :: after).getLast? = some goal := by
    rw [List.getLast?_append, List.getLast?_eq_some_getLast (List.cons_ne_nil id after), stops]
    rfl
  obtain ⟨rest, same⟩ : ∃ rest, upto ++ id :: after = decision :: rest := by
    cases upto with
    | nil =>
        cases split
        exact ⟨after, rfl⟩
    | cons first upto =>
        cases split
        exact ⟨upto ++ id :: after, rfl⟩
  rw [same] at walk last
  obtain ⟨route, runs, ids⟩ := route_of_walk placed plays walk last ends
  refine ⟨route, runs, (List.cons.inj ids).1, ?_, ?_⟩
  · have ending : route.ids = (route.decision :: route.option :: route.lever ::
        (route.influences ++ [route.effect])) ++ [route.goal] := by simp [Route.ids]
    rw [← ids, ending, List.getLast?_concat] at last
    exact Option.some.inj last
  · rw [ids, ← same]
    exact List.mem_append_right _ List.mem_cons_self

end Walks

/-! Roles and kinds of live nodes. -/

section Live

variable {node : Node} {position : Nat} (live : (node, position) ∈ graph.live)

include live in
theorem plays_decision (kind : node.kind = .decision) : graph.Plays node.id .decision :=
  ⟨position, (mem_live_iff.mp live).2, by rw [Survey.role?, Survey.kindAt?_of_live live, kind]; rfl⟩

include live in
theorem plays_option (kind : node.kind = .option) : graph.Plays node.id .option :=
  ⟨position, (mem_live_iff.mp live).2, by rw [Survey.role?, Survey.kindAt?_of_live live, kind]; rfl⟩

include live in
theorem plays_goal (kind : node.kind = .goal) : graph.Plays node.id .goal :=
  ⟨position, (mem_live_iff.mp live).2, by rw [Survey.role?, Survey.kindAt?_of_live live, kind]; rfl⟩

include live in
theorem isInfluence_of_drives (drives : graph.Drives node position) :
    graph.IsInfluence node.id := by
  have kind (category : Category) (inferred : graph.category? position = some category) :
      graph.Plays node.id (.factor category) := by
    have factor : node.isFactor = true :=
      (category?_isSome_iff (mem_live_iff.mp live).1).mp (by simp [inferred])
    have kind : node.kind = .factor := of_decide_eq_true factor
    refine ⟨position, (mem_live_iff.mp live).2, ?_⟩
    have same : (Survey.ofGraph graph).category? position = some category := inferred
    rw [Survey.role?, Survey.kindAt?_of_live live, kind]
    simp [same]
  exact drives.1.imp (kind .observable) (kind .external)

end Live

theorem Sole.kind_eq {kind : NodeKind} {node : Node} (sole : graph.Sole kind node) :
    node.kind = kind := by
  obtain ⟨position, live⟩ := sole.live
  exact (sole.only node position live).mpr rfl

theorem exists_sole (distinct : (graph.nodes.map Node.id).Nodup) {kind : NodeKind}
    (once : graph.countKind kind = 1) : ∃ node, graph.Sole kind node := by
  obtain ⟨_, position, unique, _⟩ := uniqueOfKind?_of_count distinct once
  obtain ⟨node, _, sole⟩ := uniqueOfKind?_eq_some_iff.mp unique
  exact ⟨node, sole⟩

theorem misplacedEdges_eq_nil {limits : Limits}
    (silent : (graph.check limits).hasCode .invalidEdgeType = false) :
    (Survey.ofGraph graph).misplacedEdges = [] := by
  refine List.eq_nil_iff_forall_not_mem.mpr fun finding found => ?_
  have code : finding.code = .invalidEdgeType := by
    obtain ⟨link, _, found⟩ := List.mem_filterMap.mp found
    split at found
    · split at found <;> cases found
      rfl
    · cases found
  have reported : finding ∈ (Survey.ofGraph graph).findings limits := by
    refine Survey.mem_findings.mpr (.inr (.inl ?_))
    simp [Survey.wiring, found]
  have listed := mem_issues_check.mpr ⟨finding, reported, rfl⟩
  have other := List.any_eq_false.mp silent _ listed
  exact other (decide_eq_true code)

/-! Valid graphs. -/

/-- What a valid graph says about walks: edges are in place, the decision reaches every node but
drivers, and every node but the decision reaches the goal. -/
structure Joined (graph : Graph) (decision goal : Node) : Prop where
  distinct : (graph.nodes.map Node.id).Nodup
  placed : (Survey.ofGraph graph).misplacedEdges = []
  first : graph.Sole .decision decision
  last : graph.Sole .goal goal
  reached : ∀ node position, (node, position) ∈ graph.live →
    graph.Reaches decision.id node.id ∨ graph.IsInfluence node.id
  reaching : ∀ node position, (node, position) ∈ graph.live → node.kind ≠ .decision →
    graph.Reaches node.id goal.id

theorem exists_joined {limits : Limits} (valid : (graph.check limits).valid = true) :
    ∃ decision goal, graph.Joined decision goal := by
  obtain ⟨census, wiring, connection, _⟩ := valid_check_iff_passes.mp valid
  obtain ⟨counts, repeated, _⟩ := Survey.census_eq_nil_iff.mp census
  obtain ⟨oneGoal, oneDecision, _⟩ := Survey.counts_eq_nil_iff.mp counts
  have distinct : (graph.nodes.map Node.id).Nodup := Survey.repeatedIds_eq_nil_iff.mp repeated
  obtain ⟨decision, first⟩ : ∃ decision, graph.Sole .decision decision :=
    exists_sole distinct oneDecision
  obtain ⟨goal, last⟩ : ∃ goal, graph.Sole .goal goal := exists_sole distinct oneGoal
  obtain ⟨_, _, placed, _⟩ := Survey.wiring_eq_nil_iff.mp wiring
  obtain ⟨unreached, stranded⟩ := List.append_eq_nil_iff.mp connection
  refine ⟨decision, goal, distinct, placed, first, last, fun node position live => ?_,
    fun node position live other => ?_⟩
  · by_contra apart
    obtain ⟨far, notFree⟩ := not_or.mp apart
    have idle : ¬ graph.Drives node position := fun drives =>
      notFree (isInfluence_of_drives live drives)
    have found := Survey.mem_unreachedNodes_iff.mpr
      ⟨decision, node, position, first, live, far, idle, rfl⟩
    rw [unreached] at found
    cases found
  · by_contra far
    have found := Survey.mem_strandedNodes_iff.mpr
      ⟨goal, node, position, last, live, other, far, rfl⟩
    rw [stranded] at found
    cases found

section Joined

variable {decision goal : Node} (joined : graph.Joined decision goal)

include joined in
theorem Joined.live {node : Node} (member : node ∈ graph.nodes) :
    ∃ position, (node, position) ∈ graph.live := by
  obtain ⟨position, listed⟩ := List.mem_iff_getElem?.mp member
  exact ⟨position, (mem_live_of_distinct joined.distinct).mpr listed⟩

include joined in
theorem Joined.plays_decision : graph.Plays decision.id .decision := by
  obtain ⟨position, live⟩ := joined.first.live
  exact Graph.plays_decision live joined.first.kind_eq

include joined in
theorem Joined.plays_goal : graph.Plays goal.id .goal := by
  obtain ⟨position, live⟩ := joined.last.live
  exact Graph.plays_goal live joined.last.kind_eq

include joined in
theorem Joined.route_through {node : Node} (member : node ∈ graph.nodes)
    (other : node.kind ≠ .decision) (set : ¬ graph.IsInfluence node.id) :
    ∃ route : Route, route.Runs graph ∧ route.decision = decision.id ∧ route.goal = goal.id ∧
      node.id ∈ route.ids := by
  obtain ⟨position, live⟩ := joined.live member
  exact Graph.route_through joined.placed joined.plays_decision joined.plays_goal
    ((joined.reached node position live).resolve_right set)
    (joined.reaching node position live other)

include joined in
/-- Every option stands on a route of its own. -/
theorem Joined.route_of_option {option : Node} (member : option ∈ graph.nodes)
    (kind : option.kind = .option) :
    ∃ route : Route, route.Runs graph ∧ route.decision = decision.id ∧ route.goal = goal.id ∧
      route.option = option.id := by
  obtain ⟨position, live⟩ := joined.live member
  have plays := plays_option live kind
  have set : ¬ graph.IsInfluence option.id := by
    rintro (factor | factor)
    · cases plays.eq factor
    · cases plays.eq factor
  obtain ⟨route, runs, starts, stops, among⟩ := joined.route_through member (by simp [kind]) set
  refine ⟨route, runs, starts, stops, ?_⟩
  simp only [Route.ids, List.mem_cons, List.mem_append, List.not_mem_nil, or_false] at among
  rcases among with same | same | same | inside | same | same
  · cases plays.eq (same ▸ runs.decision)
  · exact same.symm
  · cases plays.eq (same ▸ runs.lever)
  · exact absurd (runs.influences _ inside) set
  · rcases same ▸ runs.effect with effect | effect
    · cases plays.eq effect
    · cases plays.eq effect
  · cases plays.eq (same ▸ runs.goal)

include joined in
theorem Joined.ends_of_option {option : Node} (member : option ∈ graph.nodes)
    (kind : option.kind = .option) :
    (∃ decision, graph.Plays decision .decision ∧ graph.Resolved decision option.id) ∧
      ∃ lever, graph.Plays lever (.factor .controllable) ∧ graph.Resolved option.id lever := by
  obtain ⟨route, runs, _, _, same⟩ := joined.route_of_option member kind
  have steps := runs.steps
  rw [Route.ids, same] at steps
  exact ⟨⟨route.decision, runs.decision, steps.rel⟩, route.lever, runs.lever, steps.tail.rel⟩

include joined in
/-- Every node but the factors that no option sets stands on a route, if there is an option. -/
theorem Joined.route_of_node (asked : 0 < graph.countKind .option) {node : Node}
    (member : node ∈ graph.nodes) (set : ¬ graph.IsInfluence node.id) :
    ∃ route : Route, route.Runs graph ∧ node.id ∈ route.ids := by
  by_cases kind : node.kind = .decision
  · obtain ⟨option, chosen⟩ := List.exists_mem_of_length_pos asked
    obtain ⟨among, isOption⟩ := List.mem_filter.mp chosen
    obtain ⟨route, runs, starts, _, _⟩ :=
      joined.route_of_option among (of_decide_eq_true isOption)
    obtain ⟨position, live⟩ := joined.live member
    have same : node = decision := (joined.first.only node position live).mp kind
    exact ⟨route, runs, by simp [Route.ids, same, starts]⟩
  · obtain ⟨route, runs, _, _, among⟩ := joined.route_through member kind set
    exact ⟨route, runs, among⟩

include joined in
theorem Joined.routes (options : List Node)
    (among : ∀ option ∈ options, option ∈ graph.nodes ∧ option.kind = .option) :
    ∃ routes : List Route, routes.map Route.option = options.map Node.id ∧
      ∀ route ∈ routes, route.Runs graph := by
  induction options with
  | nil => exact ⟨[], rfl, nofun⟩
  | cons option options ih =>
      obtain ⟨⟨member, kind⟩, others⟩ := List.forall_mem_cons.mp among
      obtain ⟨route, runs, _, _, same⟩ := joined.route_of_option member kind
      obtain ⟨routes, ids, run⟩ := ih others
      exact ⟨route :: routes, by simp [same, ids], List.forall_mem_cons.mpr ⟨runs, run⟩⟩

include joined in
theorem Joined.routes_through_options {count : Nat} (enough : count ≤ graph.countKind .option) :
    ∃ routes : List Route, count ≤ routes.length ∧ (routes.map Route.option).Nodup ∧
      ∀ route ∈ routes, route.Runs graph := by
  let options := graph.nodes.filter fun node => node.kind = .option
  obtain ⟨routes, ids, run⟩ := joined.routes options fun option chosen => by
    simpa [options] using chosen
  refine ⟨routes, ?_, ?_, run⟩
  · have lengths : routes.length = options.length := by
      simpa using congrArg List.length ids
    exact lengths ▸ enough
  · rw [ids]
    exact joined.distinct.sublist (List.filter_sublist.map Node.id)

end Joined

/-- Without misplaced edges every walk goes through the layers in their order and cycles stay among
the factors that no option sets. In a valid graph every option follows the decision and sets a
factor, every node but such factors stands on a route, and there are as many routes through different
options as options are asked for. -/
theorem layered_and_routed (graph : Graph) (asked limits : Limits) :
    ((graph.check limits).hasCode .invalidEdgeType = false →
      (∀ ids, graph.IsWalk ids → graph.Layered ids) ∧
      ∀ issue ∈ (graph.check limits).withCode .cycleDetected, ∃ position first rest,
        issue.context = .object [("cycle", .ofStrings (first :: rest ++ [first])),
          ("edge_index", .ofNat position)] ∧
        ∀ id ∈ first :: rest ++ [first], graph.IsInfluence id) ∧
    (asked.checked = .ok limits → (graph.check limits).valid = true →
      (∀ option ∈ graph.nodes, option.kind = .option →
        (∃ decision, graph.Plays decision .decision ∧ graph.Resolved decision option.id) ∧
        ∃ lever, graph.Plays lever (.factor .controllable) ∧ graph.Resolved option.id lever) ∧
      (∀ node ∈ graph.nodes, ¬ graph.IsInfluence node.id →
        ∃ route : Route, route.Runs graph ∧ node.id ∈ route.ids) ∧
      ∃ routes : List Route, limits.minOptions ≤ routes.length ∧
        (routes.map Route.option).Nodup ∧ ∀ route ∈ routes, route.Runs graph) := by
  refine ⟨fun silent => ?_, fun accepted valid => ?_⟩
  · have placed := misplacedEdges_eq_nil silent
    refine ⟨fun _ => layered_of_isWalk placed, fun issue reported => ?_⟩
    rw [withCode_cycleDetected] at reported
    obtain ⟨cycle, found, rfl⟩ := List.mem_map.mp reported
    have closed := Cycle.closed_of_mem_find found
    obtain ⟨link, _, _, head, _⟩ := closed.closing
    obtain ⟨rest, walk⟩ := List.head?_eq_some_iff.mp head
    refine ⟨cycle.closingEdge, graph.idAt link.target, rest.map graph.idAt, ?_, ?_⟩
    · rw [Finding.context_issue_cycle, idsAlong_ofGraph walk]
    · have free := isInfluence_of_closed placed (closedBy_of_closed closed walk).walk
      intro id member
      rcases List.mem_append.mp member with inside | last
      · exact free id inside
      · rw [List.mem_singleton.mp last]
        exact free _ List.mem_cons_self
  · obtain ⟨decision, goal, joined⟩ := exists_joined valid
    have asksFor : 0 < limits.minOptions := Limits.minOptions_pos accepted
    have enough : limits.minOptions ≤ graph.countKind .option :=
      (wellFormed_of_valid valid).options.1
    exact ⟨fun option member kind => joined.ends_of_option member kind,
      fun node member set => joined.route_of_node (asksFor.trans_le enough) member set,
      joined.routes_through_options enough⟩

open Sample in
theorem layered_and_routed_wide :
    ((wide 3 2).check .standard).hasCode .invalidEdgeType = false ∧
      Limits.standard.checked = .ok .standard ∧ ((wide 3 2).check .standard).valid = true ∧
      (∀ ids, (wide 3 2).IsWalk ids → (wide 3 2).Layered ids) ∧
      ∃ routes : List Route, 2 ≤ routes.length ∧ (routes.map Route.option).Nodup ∧
        ∀ route ∈ routes, route.Runs (wide 3 2) := by
  have accepted : Limits.standard.checked = .ok .standard := rfl
  have valid : ((wide 3 2).check .standard).valid = true :=
    valid_of_wellFormed (wellFormed_wide (by decide) (by decide) (by decide) (by decide)
      (by decide) (by decide))
  have silent := valid_check_iff_codes.mp valid .invalidEdgeType rfl
  obtain ⟨layered, routed⟩ := layered_and_routed (wide 3 2) .standard .standard
  obtain ⟨walks, _⟩ := layered silent
  obtain ⟨_, _, routes⟩ := routed accepted valid
  exact ⟨silent, accepted, valid, walks, routes⟩

end Graph

end DecisionGraph

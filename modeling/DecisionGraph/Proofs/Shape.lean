import DecisionGraph.Proofs.Distinct

/-!
The passes over the shape of a graph - counts, connections, cycles, walks - find nothing just when
the shape is in order.
-/

namespace DecisionGraph

open Relation

namespace Survey

variable {survey : Survey} {limits : Limits}

/-! Counting. -/

theorem census_eq_nil_iff :
    survey.census limits = [] ↔
      survey.counts limits = [] ∧ survey.repeatedIds = [] ∧ survey.undeclaredEnds = [] := by
  simp only [census, List.append_eq_nil_iff, and_assoc]

theorem counts_eq_nil_iff :
    survey.counts limits = [] ↔
      survey.graph.countKind .goal = 1 ∧ survey.graph.countKind .decision = 1 ∧
        (limits.minOptions ≤ survey.graph.countKind .option ∧
          survey.graph.countKind .option ≤ limits.maxOptions) ∧
        (∃ node ∈ survey.graph.nodes, node.kind = .outcome ∨ node.kind = .risk) ∧
        survey.graph.nodes.length ≤ limits.nodes ∧ survey.graph.edges.length ≤ limits.edges := by
  have bridge (kind : NodeKind) : kind.isBridge = true ↔ kind = .outcome ∨ kind = .risk := by
    cases kind <;> simp [NodeKind.isBridge]
  simp only [counts, List.append_eq_nil_iff, Finding.unless_eq_nil_iff, decide_eq_true_eq,
    Bool.and_eq_true, List.any_eq_true, bridge, and_assoc]

theorem repeatedIds_eq_nil_iff :
    survey.repeatedIds = [] ↔ (survey.graph.nodes.map Node.id).Nodup := by
  simp only [repeatedIds, List.filterMap_eq_nil_iff, Prod.forall, List.mem_zipIdx_iff_getElem?,
    ite_eq_right_iff, reduceCtorEq, imp_false, Bool.not_eq_true]
  constructor
  · intro found
    refine List.pairwise_iff_getElem.mpr fun first second firstBound secondBound before same => ?_
    simp only [List.length_map, List.getElem_map] at firstBound secondBound same
    have home (position : Nat) (bound : position < survey.graph.nodes.length) :
        survey.graph.position? survey.graph.nodes[position].id = some position := by
      simpa [Graph.isShadowed, bound] using found survey.graph.nodes[position] position
        (List.getElem?_eq_getElem bound)
    have places := home first firstBound
    rw [same, home second secondBound, Option.some.injEq] at places
    exact Nat.ne_of_lt before places.symm
  · intro distinct node position listed
    simp [Graph.isShadowed, listed, Graph.position?_of_getElem? distinct listed]

theorem undeclaredEnds_eq_nil_iff :
    survey.undeclaredEnds = [] ↔ ∀ edge ∈ survey.graph.edges,
      (∃ node ∈ survey.graph.nodes, node.id = edge.source) ∧
        ∃ node ∈ survey.graph.nodes, node.id = edge.target := by
  have sides (edge : Edge) (position : Nat) : ([Side.source, Side.target].filterMap fun side =>
      if (survey.graph.position? (side.idOf edge)).isNone then
        some (Finding.undeclaredEnd position edge side)
      else none) = [] ↔
      (∃ node ∈ survey.graph.nodes, node.id = edge.source) ∧
        ∃ node ∈ survey.graph.nodes, node.id = edge.target := by
    simp [List.filterMap_eq_nil_iff, Side.idOf, ← Graph.position?_isSome_iff,
      Option.isSome_iff_ne_none]
  simp only [undeclaredEnds, List.flatMap_eq_nil_iff, Prod.forall, sides,
    List.mem_zipIdx_iff_getElem?, forall_getElem?_iff]

section Links

variable (links : survey.links = survey.graph.links)
  (categories : survey.categories = survey.graph.categories) (sound : survey.graph.Sound)

/-! Connections. -/

theorem wiring_eq_nil_iff :
    survey.wiring = [] ↔ survey.leftGoals = [] ∧ survey.enteredDecisions = [] ∧
      survey.misplacedEdges = [] ∧ survey.cycles = [] := by
  simp only [wiring, List.append_eq_nil_iff, and_assoc]

include links sound in
theorem leftGoals_eq_nil_iff :
    survey.leftGoals = [] ↔
      ∀ goal ∈ survey.graph.nodes, goal.kind = .goal → ∀ id, ¬ survey.graph.Joins goal.id id := by
  simp only [leftGoals, List.filterMap_eq_nil_iff, links]
  constructor
  · intro silent goal member kind
    obtain ⟨position, listed⟩ := List.mem_iff_getElem?.mp member
    have here := silent position ((Graph.mem_liveOfKind sound.distinct).mpr ⟨goal, listed, kind⟩)
    split at here
    · next none => exact (Graph.leaving_eq_nil_iff sound listed).mp none
    · cases here
  · intro none position live
    obtain ⟨goal, listed, kind⟩ := (Graph.mem_liveOfKind sound.distinct).mp live
    rw [(Graph.leaving_eq_nil_iff sound listed).mpr (none goal (List.mem_of_getElem? listed) kind)]

include links sound in
theorem enteredDecisions_eq_nil_iff :
    survey.enteredDecisions = [] ↔
      ∀ decision ∈ survey.graph.nodes, decision.kind = .decision →
        ∀ id, ¬ survey.graph.Joins id decision.id := by
  simp only [enteredDecisions, List.filterMap_eq_nil_iff, links]
  constructor
  · intro silent decision member kind
    obtain ⟨position, listed⟩ := List.mem_iff_getElem?.mp member
    have here := silent position
      ((Graph.mem_liveOfKind sound.distinct).mpr ⟨decision, listed, kind⟩)
    split at here
    · next none => exact (Graph.entering_eq_nil_iff sound listed).mp none
    · cases here
  · intro none position live
    obtain ⟨decision, listed, kind⟩ := (Graph.mem_liveOfKind sound.distinct).mp live
    rw [(Graph.entering_eq_nil_iff sound listed).mpr
      (none decision (List.mem_of_getElem? listed) kind)]

theorem category?_eq : (categories : survey.categories = survey.graph.categories) →
    survey.category? = survey.graph.category? := by
  intro categories
  funext position
  rw [category?, categories, Graph.category?]

theorem connects_iff {graph : Graph} {first second : Node} :
    graph.Connects first second ↔
      (first.kind = .decision ∧ second.kind = .option) ∨
        (first.kind = .option ∧ graph.Infers second .controllable) ∨
        (first.kind = .factor ∧
          (graph.Infers second .observable ∨ graph.Infers second .external)) ∨
        (first.kind = .factor ∧ (second.kind = .outcome ∨ second.kind = .risk)) ∨
        ((first.kind = .outcome ∨ first.kind = .risk) ∧ second.kind = .goal) := by
  constructor
  · intro connects
    cases connects <;> simp [*]
  · rintro (⟨chooser, chosen⟩ | ⟨chosen, set⟩ | ⟨cause, effect⟩ | ⟨cause, effect⟩ | ⟨effect, goal⟩)
    · exact .choice chooser chosen
    · exact .setting chosen set
    · exact .influence cause effect
    · exact .result cause effect
    · exact .verdict effect goal

include categories sound in
/-- The roles of two nodes allow an edge just when an edge may connect the nodes. -/
theorem allows_iff_connects {start stop : Nat} {first second : Node}
    (starts : survey.graph.nodes[start]? = some first)
    (stops : survey.graph.nodes[stop]? = some second) :
    ∃ source target, survey.role? start = some source ∧ survey.role? stop = some target ∧
      (source.allows target = true ↔ survey.graph.Connects first second) := by
  have inferred (category : Category) : survey.graph.category? stop = some category ↔
      survey.graph.Infers second category := Graph.category?_eq_some_iff sound stops
  simp only [role?, Graph.kindAt?, starts, stops, category?_eq categories, Option.map_some,
    connects_iff, ← inferred]
  refine ⟨_, _, rfl, rfl, ?_⟩
  cases known : survey.graph.category? stop with
  | none =>
      have other : second.kind ≠ .factor := fun kind => by
        have := (Graph.category?_isSome_iff stops).mpr (by simp [Node.isFactor, kind])
        simp [known] at this
      cases first.kind <;> cases kind : second.kind <;>
        first | exact absurd kind other | simp [Role.allows]
  | some category =>
      have kind : second.kind = .factor := ((inferred category).mp known).1
      cases first.kind <;> cases category <;> simp [kind, Role.allows]

include links categories sound in
theorem misplacedEdges_eq_nil_iff :
    survey.misplacedEdges = [] ↔
      ∀ source ∈ survey.graph.nodes, ∀ target ∈ survey.graph.nodes,
        survey.graph.Joins source.id target.id → survey.graph.Connects source target := by
  simp only [misplacedEdges, List.filterMap_eq_nil_iff, links]
  constructor
  · intro silent first firstMember second secondMember joins
    obtain ⟨start, starts⟩ := List.mem_iff_getElem?.mp firstMember
    obtain ⟨stop, stops⟩ := List.mem_iff_getElem?.mp secondMember
    obtain ⟨link, listed, rfl, rfl⟩ := (Graph.leads_iff sound starts stops).mpr joins
    obtain ⟨source, target, sourceRole, targetRole, connects⟩ :=
      allows_iff_connects categories sound starts stops
    have here := silent link listed
    simp only [sourceRole, targetRole, ite_eq_left_iff, reduceCtorEq, imp_false,
      Classical.not_not] at here
    exact connects.mp here
  · intro connected link listed
    obtain ⟨edge, _, sourceAt, targetAt⟩ := Graph.mem_links_iff.mp listed
    obtain ⟨first, starts, _⟩ := Graph.getElem?_of_position? sourceAt
    obtain ⟨second, stops, _⟩ := Graph.getElem?_of_position? targetAt
    obtain ⟨source, target, sourceRole, targetRole, connects⟩ :=
      allows_iff_connects categories sound starts stops
    have joins := (Graph.leads_iff sound starts stops).mp ⟨link, listed, rfl, rfl⟩
    have allowed := connects.mpr (connected first (List.mem_of_getElem? starts) second
      (List.mem_of_getElem? stops) joins)
    simp only [sourceRole, targetRole, if_pos allowed]

include sound in
theorem cycles_eq_nil_iff :
    survey.cycles = [] ↔ ∀ id, ¬ TransGen survey.graph.Joins id id := by
  rw [cycles, List.map_eq_nil_iff, Cycle.find_eq_nil_iff, Graph.acyclic_iff sound]

/-! Walks from the decision and to the goal. -/

theorem isDriver_iff {position : Nat} {reaching : List Nat}
    (toGoal : survey.reaching = some reaching) :
    survey.isDriver position = true ↔
      (survey.category? position = some .observable ∨
        survey.category? position = some .external) ∧ position ∈ reaching := by
  unfold isDriver
  rw [toGoal]
  cases survey.category? position with
  | none => simp
  | some category => cases category <;> simp

include sound in
theorem forall_live_iff {holds : Node → Nat → Prop} :
    (∀ node position, (node, position) ∈ survey.graph.live → holds node position) ↔
      ∀ node position, survey.graph.nodes[position]? = some node → holds node position :=
  forall_congr' fun _ => forall_congr' fun _ =>
    imp_congr_left (Graph.mem_live_of_distinct sound.distinct)

include sound in
theorem strandedNodes_eq_nil_iff {goal : Node} {last : Nat}
    (reaching : survey.reaching =
      some (Reach.backward survey.graph.links survey.graph.nodes.length last))
    (ends : survey.graph.nodes[last]? = some goal) :
    survey.strandedNodes = [] ↔ ∀ node ∈ survey.graph.nodes, node.kind ≠ .decision →
      ReflTransGen survey.graph.Joins node.id goal.id := by
  simp only [strandedNodes, reaching, List.filterMap_eq_nil_iff, Prod.forall, forall_live_iff sound,
    ite_eq_left_iff, reduceCtorEq, imp_false, Classical.not_not, Bool.or_eq_true, decide_eq_true_eq]
  constructor
  · intro silent node member other
    obtain ⟨position, listed⟩ := List.mem_iff_getElem?.mp member
    rcases silent node position listed with walk | decision
    · exact (Graph.mem_backward_iff sound listed ends).mp walk
    · exact absurd decision other
  · intro walks node position listed
    by_cases decision : node.kind = .decision
    · exact Or.inr decision
    · exact Or.inl ((Graph.mem_backward_iff sound listed ends).mpr
        (walks node (List.mem_of_getElem? listed) decision))

include categories sound in
theorem unreachedNodes_eq_nil_iff {decision goal : Node} {first last : Nat}
    (reached :
      survey.reached = some (Reach.forward survey.graph.links survey.graph.nodes.length first))
    (reaching : survey.reaching =
      some (Reach.backward survey.graph.links survey.graph.nodes.length last))
    (starts : survey.graph.nodes[first]? = some decision)
    (ends : survey.graph.nodes[last]? = some goal) :
    survey.unreachedNodes = [] ↔ ∀ node ∈ survey.graph.nodes,
      ReflTransGen survey.graph.Joins decision.id node.id ∨
        (survey.graph.Infers node .observable ∨ survey.graph.Infers node .external) ∧
          ReflTransGen survey.graph.Joins node.id goal.id := by
  simp only [unreachedNodes, reached, List.filterMap_eq_nil_iff, Prod.forall, forall_live_iff sound,
    ite_eq_left_iff, reduceCtorEq, imp_false, Classical.not_not, Bool.or_eq_true, decide_eq_true_eq,
    isDriver_iff reaching, category?_eq categories]
  have here {node : Node} {position : Nat} (listed : survey.graph.nodes[position]? = some node) :
      (position ∈ Reach.forward survey.graph.links survey.graph.nodes.length first ∨
        (survey.graph.category? position = some .observable ∨
          survey.graph.category? position = some .external) ∧
          position ∈ Reach.backward survey.graph.links survey.graph.nodes.length last) ↔
      (ReflTransGen survey.graph.Joins decision.id node.id ∨
        (survey.graph.Infers node .observable ∨ survey.graph.Infers node .external) ∧
          ReflTransGen survey.graph.Joins node.id goal.id) := by
    rw [Graph.mem_forward_iff sound starts listed, Graph.mem_backward_iff sound listed ends,
      Graph.category?_eq_some_iff sound listed, Graph.category?_eq_some_iff sound listed]
  constructor
  · intro silent node member
    obtain ⟨position, listed⟩ := List.mem_iff_getElem?.mp member
    exact (here listed).mp (silent node position listed)
  · intro walks node position listed
    exact (here listed).mpr (walks node (List.mem_of_getElem? listed))

include categories sound in
theorem connection_eq_nil_iff {decision goal : Node} {first last : Nat}
    (reached :
      survey.reached = some (Reach.forward survey.graph.links survey.graph.nodes.length first))
    (reaching : survey.reaching =
      some (Reach.backward survey.graph.links survey.graph.nodes.length last))
    (starts : survey.graph.nodes[first]? = some decision)
    (ends : survey.graph.nodes[last]? = some goal) :
    survey.connection = [] ↔
      (∀ node ∈ survey.graph.nodes,
        ReflTransGen survey.graph.Joins decision.id node.id ∨
          survey.graph.Infers node .observable ∨ survey.graph.Infers node .external) ∧
      ∀ node ∈ survey.graph.nodes, node.kind ≠ .decision →
        ReflTransGen survey.graph.Joins node.id goal.id := by
  rw [connection, List.append_eq_nil_iff, strandedNodes_eq_nil_iff sound reaching ends,
    unreachedNodes_eq_nil_iff categories sound reached reaching starts ends]
  refine and_congr_left fun toGoal => forall_congr' fun node => imp_congr_right fun member => ?_
  refine or_congr_right (and_iff_left_of_imp fun driver => ?_)
  -- A factor is no decision, so it has its walk to the goal in any case.
  refine toGoal node member ?_
  rcases driver with ⟨factor, _⟩ | ⟨factor, _⟩
  · simp [factor]
  · simp [factor]

end Links

end Survey

end DecisionGraph

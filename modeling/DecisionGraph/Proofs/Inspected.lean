import DecisionGraph.Proofs.Inspection
import DecisionGraph.Proofs.OptionGroups

/-!
The checks with tested accesses find what the checks find: no access misses.
-/

namespace DecisionGraph

open Access

namespace Graph

variable {graph : Graph}

/-- A mark for every position, whether it is among those that were found. -/
def marks (graph : Graph) (found : List Nat) : List Bool :=
  (List.range graph.nodes.length).map fun position => decide (position ∈ found)

def inspection (graph : Graph) : Inspection where
  table := graph.table
  categories := graph.categories
  reached := (Survey.ofGraph graph).reached.map graph.marks
  reaching := (Survey.ofGraph graph).reaching.map graph.marks

theorem fetch_marks {position : Nat} (inside : position < graph.nodes.length) (found : List Nat) :
    fetch (graph.marks found) position = .ok (decide (position ∈ found)) := fetch_map_range inside

theorem sweep_leaving {start : Nat} (inside : start < graph.nodes.length) :
    Table.sweep graph.table.leaving graph.nodes.length start =
      .ok (graph.marks (Reach.forward graph.links graph.nodes.length start)) := by
  rw [Table.sweep_eq_ok inside (fun position => table_leaving)
    fun position hop listed => (hop_leaving_lt listed).2]
  simp only [Hop.map_node_leaving]
  rfl

theorem sweep_entering {goal : Nat} (inside : goal < graph.nodes.length) :
    Table.sweep graph.table.entering graph.nodes.length goal =
      .ok (graph.marks (Reach.backward graph.links graph.nodes.length goal)) := by
  rw [Table.sweep_eq_ok inside (fun position => table_entering)
    fun position hop listed => (hop_entering_lt listed).2]
  simp only [Hop.map_node_entering]
  rfl

theorem inspection_table (graph : Graph) : graph.inspection.table = graph.table := rfl

/-- Everything that the checks share is worked out without an overrun. -/
theorem inspection_eq (graph : Graph) : Inspection.ofGraph graph = .ok graph.inspection := by
  have reached : (graph.uniqueOfKind? .decision).mapM
      (Table.sweep graph.table.leaving graph.nodes.length) = .ok graph.inspection.reached := by
    change _ = Except.ok (((graph.uniqueOfKind? .decision).map _).map _)
    cases decision : graph.uniqueOfKind? .decision with
    | none => rfl
    | some start =>
        rw [Option.mapM_some, sweep_leaving (lt_of_unique decision)]
        rfl
  have reaching : (graph.uniqueOfKind? .goal).mapM
      (Table.sweep graph.table.entering graph.nodes.length) = .ok graph.inspection.reaching := by
    change _ = Except.ok (((graph.uniqueOfKind? .goal).map _).map _)
    cases goal : graph.uniqueOfKind? .goal with
    | none => rfl
    | some stop =>
        rw [Option.mapM_some, sweep_entering (lt_of_unique goal)]
        rfl
  simp only [Inspection.ofGraph, Table.build_eq, table_categories, table_uniqueOfKind?, ok_bind,
    reached, reaching]
  rfl

/-! The census and the wiring. -/

theorem inspection_census (graph : Graph) (limits : Limits) :
    graph.inspection.census limits = (Survey.ofGraph graph).census limits := by
  have repeated : graph.inspection.repeatedIds = (Survey.ofGraph graph).repeatedIds := by
    refine List.filterMap_congr fun entry listed => ?_
    have numbered : graph.nodes[entry.2]? = some entry.1 := List.mem_zipIdx_iff_getElem?.mp listed
    simp only [inspection_table, table_isShadowed numbered,
      table_position?]
    rfl
  have undeclared : graph.inspection.undeclaredEnds = (Survey.ofGraph graph).undeclaredEnds := by
    simp only [Inspection.undeclaredEnds, inspection_table,
      table_position?]
    rfl
  rw [Inspection.census, repeated, undeclared]
  rfl

theorem naming_eq {position : Nat} {hops : List Hop} (inside : position < graph.nodes.length)
    (within : ∀ hop ∈ hops, hop.node < graph.nodes.length)
    (finding : String → List String → Finding) :
    graph.inspection.naming finding position hops =
      .ok (Finding.naming (finding (graph.idAt position))
        (hops.map fun hop => graph.idAt hop.node)).toList := by
  have ids : hops.mapM (fun hop => graph.table.idAt hop.node) =
      .ok (hops.map fun hop => graph.idAt hop.node) :=
    mapM_eq_ok fun hop listed => table_idAt (within hop listed)
  rw [Inspection.naming, inspection_table, ids, ok_bind,
    table_idAt inside]
  rfl

theorem inspection_leftGoals (graph : Graph) :
    graph.inspection.leftGoals = .ok (Survey.ofGraph graph).leftGoals := by
  rw [Inspection.leftGoals, inspection_table, table_ofKind,
    ok_bind, Survey.leftGoals_eq]
  refine collect_toList fun position listed => ?_
  have inside := lt_of_ofKind listed
  rw [table_leaving inside, ok_bind, naming_eq inside fun hop listed => (hop_leaving_lt listed).2.2,
    Survey.leftGoal?_eq, Hop.leaving, List.map_map]
  rfl

theorem inspection_enteredDecisions (graph : Graph) :
    graph.inspection.enteredDecisions = .ok (Survey.ofGraph graph).enteredDecisions := by
  rw [Inspection.enteredDecisions, inspection_table, table_ofKind,
    ok_bind, Survey.enteredDecisions_eq]
  refine collect_toList fun position listed => ?_
  have inside := lt_of_ofKind listed
  rw [table_entering inside, ok_bind, naming_eq inside fun hop listed => (hop_entering_lt listed).2.2,
    Survey.enteredDecision?_eq, Hop.entering, List.map_map]
  rfl

theorem exists_role {position : Nat} (inside : position < graph.nodes.length) :
    ∃ role, (Survey.ofGraph graph).role? position = some role ∧
      graph.inspection.role position = .ok role := by
  obtain ⟨kind, found⟩ := exists_kind inside
  have known : (Survey.ofGraph graph).graph.kindAt? position = some kind := found
  rw [Inspection.role, inspection_table, table_kindAt found,
    Survey.role?, known]
  cases kind <;> exact ⟨_, rfl, rfl⟩

theorem inspection_misplacedEdges (graph : Graph) :
    collect graph.inspection.misplacedEdge graph.inspection.table.links =
      .ok (Survey.ofGraph graph).misplacedEdges := by
  rw [show graph.inspection.table.links = graph.links from table_links graph,
    Survey.misplacedEdges_eq]
  refine collect_toList fun link listed => ?_
  obtain ⟨source, role, left⟩ := exists_role (source_lt listed)
  obtain ⟨target, other, right⟩ := exists_role (target_lt listed)
  rw [Inspection.misplacedEdge, left, ok_bind, right, ok_bind, Survey.misplacedEdge?, role, other,
    inspection_table, table_idAt (source_lt listed),
    table_idAt (target_lt listed)]
  cases allowed : source.allows target with
  | true => simp only [allowed, if_true, pure_eq_ok, Option.toList_none]
  | false =>
      simp only [allowed, Bool.false_eq_true, if_false, ok_bind]
      rfl

theorem inspection_wiring (graph : Graph) :
    graph.inspection.wiring = .ok (Survey.ofGraph graph).wiring := by
  rw [Inspection.wiring, inspection_leftGoals, ok_bind, inspection_enteredDecisions, ok_bind,
    inspection_misplacedEdges, ok_bind, show graph.inspection.table.cycles = graph.table.cycles from
      rfl, table_cycles]
  rfl

/-! The connection with the decision and the goal, and the data. -/

/-- What no option points at is no controllable factor, and the other way round. -/
theorem hasOptionParent_of_category? {position : Nat} {category : Category}
    (found : graph.category? position = some category) :
    graph.hasOptionParent graph.links position = decide (category = .controllable) := by
  obtain ⟨node, listed⟩ : ∃ node, graph.nodes[position]? = some node := by
    refine exists_node (Nat.lt_of_not_le fun outside => ?_)
    rw [category?, List.getElem?_eq_none ((length_categories graph).symm ▸ outside)] at found
    cases found
  rw [category?_of_node _ listed, categoryOf] at found
  split at found
  · split at found
    · next parent =>
      cases found
      simp [parent]
    · next orphan =>
      split at found <;> cases found <;> simpa using orphan
  · cases found

theorem isExogenous_eq {position : Nat} (inside : position < graph.nodes.length) :
    graph.inspection.isExogenous position =
      .ok (match graph.category? position with
        | some .observable | some .external => true
        | _ => false) := by
  rw [Inspection.isExogenous,
    show graph.inspection.category? position = graph.category? position from rfl,
    inspection_table, table_hasOptionParent inside]
  cases found : graph.category? position with
  | none => rfl
  | some category =>
      rw [hasOptionParent_of_category? found]
      cases category <;> rfl

theorem drives_eq {position : Nat} (inside : position < graph.nodes.length) :
    graph.inspection.drives position =
      .ok (match (Survey.ofGraph graph).reaching with
        | some reaching => decide (position ∈ reaching)
        | none => true) := by
  have reaching : graph.inspection.reaching = (Survey.ofGraph graph).reaching.map graph.marks := rfl
  rw [Inspection.drives, reaching]
  cases (Survey.ofGraph graph).reaching with
  | none => rfl
  | some reaching => exact fetch_marks inside reaching

theorem isDriver_eq {position : Nat} (inside : position < graph.nodes.length) :
    graph.inspection.isDriver position = .ok ((Survey.ofGraph graph).isDriver position) := by
  have category : (Survey.ofGraph graph).category? position = graph.category? position := rfl
  rw [Inspection.isDriver, isExogenous_eq inside, ok_bind, drives_eq inside, Survey.isDriver,
    category]
  rcases graph.category? position with _ | _ | _ | _ <;> rfl

theorem inspection_unreachedNodes (graph : Graph) :
    graph.inspection.unreachedNodes = .ok (Survey.ofGraph graph).unreachedNodes := by
  have reached : graph.inspection.reached = (Survey.ofGraph graph).reached.map graph.marks := rfl
  rw [Survey.unreachedNodes_eq, Inspection.unreachedNodes, reached, inspection_table, table_live]
  cases (Survey.ofGraph graph).reached with
  | none => rfl
  | some reached =>
      refine collect_toList fun entry live => ?_
      have inside := lt_of_live live
      rw [Inspection.unreached, fetch_marks inside, ok_bind, isDriver_eq inside, Survey.unreached?]
      by_cases found : entry.2 ∈ reached
      · simp [found]
      · cases (Survey.ofGraph graph).isDriver entry.2 <;> simp [found]

theorem inspection_strandedNodes (graph : Graph) :
    graph.inspection.strandedNodes = .ok (Survey.ofGraph graph).strandedNodes := by
  have reaching : graph.inspection.reaching = (Survey.ofGraph graph).reaching.map graph.marks := rfl
  rw [Survey.strandedNodes_eq, Inspection.strandedNodes, reaching, inspection_table, table_live]
  cases (Survey.ofGraph graph).reaching with
  | none => rfl
  | some reaching =>
      refine collect_toList fun entry live => ?_
      rw [Inspection.stranded, fetch_marks (lt_of_live live), ok_bind, Survey.stranded?]
      by_cases found : entry.2 ∈ reaching
      · simp [found]
      · by_cases decision : entry.1.kind = .decision <;> simp [found, decision]

theorem inspection_connection (graph : Graph) :
    graph.inspection.connection = .ok (Survey.ofGraph graph).connection := by
  rw [Inspection.connection, inspection_unreachedNodes, ok_bind, inspection_strandedNodes]
  rfl

theorem inspection_data (graph : Graph) :
    graph.inspection.data = .ok (Survey.ofGraph graph).data := by
  rw [Inspection.data, inspection_table, table_live]
  rfl

/-! Options. -/

theorem inspection_nodesOfKind (graph : Graph) (kind : NodeKind) :
    graph.inspection.nodesOfKind kind =
      .ok (graph.live.filter fun entry => entry.1.kind = kind) := by
  rw [Inspection.nodesOfKind, inspection_table, table_ofKind,
    ok_bind, liveOfKind, List.mapM_map]
  have each (entry : Node × Nat)
      (listed : entry ∈ graph.live.filter fun entry => entry.1.kind = kind) :
      (do return (← graph.table.nodeAt entry.2, entry.2) : Access (Node × Nat)) =
        .ok (id entry) := by
    rw [table_nodeAt (mem_live_iff.mp (List.mem_filter.mp listed).1).1]
    rfl
  exact (mapM_eq_ok each).trans (by rw [List.map_id])

theorem target?_eq (id : String) :
    graph.inspection.target? id =
      .ok ((graph.position? id).bind fun position =>
        (graph.kindAt? position).map fun kind => (position, kind)) := by
  rw [Inspection.target?, inspection_table, table_position?]
  cases found : graph.position? id with
  | none => rfl
  | some position =>
      obtain ⟨kind, known⟩ := exists_kind (lt_of_position? found)
      simp only [table_kindAt known, Option.bind_some, known]
      rfl

theorem straySetting_eq (graph : Graph) (option : Node) (position : Nat) (factor : String) :
    graph.inspection.straySetting option position factor =
      .ok (let found := (graph.position? factor).bind graph.kindAt?
        if found = some .factor then none
        else some (.straySetting position option.id factor found)).toList := by
  have found : ((graph.position? factor).bind fun place =>
      (graph.kindAt? place).map fun kind => (place, kind)).map (·.2) =
        (graph.position? factor).bind graph.kindAt? := by
    cases graph.position? factor with
    | none => rfl
    | some place => cases known : graph.kindAt? place <;> simp [known]
  rw [Inspection.straySetting, target?_eq, ok_bind, found]
  by_cases stray : (graph.position? factor).bind graph.kindAt? = some .factor <;> simp [stray]

theorem factorNamed_eq (graph : Graph) (id : String) :
    graph.inspection.factorNamed id =
      .ok ((graph.position? id).filter fun position =>
        graph.kindAt? position = some .factor).toList := by
  rw [Inspection.factorNamed, target?_eq, ok_bind]
  cases found : graph.position? id with
  | none => rfl
  | some position =>
      obtain ⟨kind, known⟩ := exists_kind (lt_of_position? found)
      rw [Option.bind_some, known, Option.filter_some, known]
      cases kind <;> rfl

theorem factorAt_eq {position : Nat} (inside : position < graph.nodes.length) :
    graph.inspection.factorAt position =
      .ok (if graph.kindAt? position = some .factor then [position] else []) := by
  obtain ⟨kind, known⟩ := exists_kind inside
  rw [Inspection.factorAt, inspection_table, table_kindAt known,
    ok_bind, known]
  by_cases factor : kind = .factor <;> simp [factor]

/-- Sorted positions are the positions in the order of the nodes. -/
theorem sort_factors {option : Node} {position : Nat} {factors : List Nat}
    (same : ∀ factor, factor ∈ factors ↔
      factor ∈ (Survey.ofGraph graph).factorsOf option position) :
    factors.toFinset.sort = (Survey.ofGraph graph).factorsOf option position := by
  have increasing : ((Survey.ofGraph graph).factorsOf option position).Pairwise (· < ·) :=
    (graph.pairwise_liveOfKind .factor).sublist List.filter_sublist
  -- Both lists hold the same positions, and the one in the order of the nodes is sorted already.
  have members : factors.toFinset =
      ((Survey.ofGraph graph).factorsOf option position).toFinset := by
    ext factor
    rw [List.mem_toFinset, List.mem_toFinset, same]
  rw [members]
  exact (List.toFinset_sort _ (increasing.imp Nat.ne_of_lt)).mpr (increasing.imp Nat.le_of_lt)

theorem mem_factorsOf_iff {option : Node} {position factor : Nat} :
    factor ∈ (Survey.ofGraph graph).factorsOf option position ↔
      graph.kindAt? factor = some .factor ∧
        ((∃ setting ∈ option.settings, graph.position? setting.1 = some factor) ∨
          ∃ hop ∈ Hop.leaving graph.links position, hop.node = factor) := by
  have linked : (∃ hop ∈ Hop.leaving graph.links position, hop.node = factor) ↔
      ∃ link ∈ Link.leaving graph.links position, link.target = factor := by
    simp [Hop.leaving]
  change factor ∈ (graph.liveOfKind .factor).filter (fun factor =>
    graph.idAt factor ∈ option.settings.map (·.1) ||
      (Link.leaving graph.links position).any fun link => link.target = factor) ↔ _
  rw [List.mem_filter, mem_liveOfKind_iff, Bool.or_eq_true, decide_eq_true_eq, List.any_eq_true,
    linked, List.mem_map]
  simp only [decide_eq_true_eq]
  constructor
  · rintro ⟨⟨node, live, kind⟩, named⟩
    obtain ⟨listed, found⟩ := mem_live_iff.mp live
    refine ⟨kindAt?_eq_some_iff.mpr ⟨node, listed, kind⟩, named.imp_left ?_⟩
    rintro ⟨setting, set, same⟩
    exact ⟨setting, set, same ▸ idAt_of_live live ▸ found⟩
  · rintro ⟨kind, named⟩
    obtain ⟨node, listed, isFactor⟩ := kindAt?_eq_some_iff.mp kind
    rcases named with ⟨setting, set, found⟩ | ⟨link, leaves, same⟩
    · obtain ⟨other, live, same⟩ := live_of_position? found
      cases (mem_live_iff.mp live).1.symm.trans listed
      exact ⟨⟨_, live, isFactor⟩, .inl ⟨setting, set, by rw [idAt_of_live live, same]⟩⟩
    · obtain ⟨other, live⟩ := isLive_target (List.mem_filter.mp leaves).1
      rw [same] at live
      cases (mem_live_iff.mp live).1.symm.trans listed
      exact ⟨⟨_, live, isFactor⟩, .inr ⟨link, leaves, same⟩⟩

theorem inspection_factorsOf (option : Node) {position : Nat}
    (inside : position < graph.nodes.length) :
    graph.inspection.factorsOf option position =
      .ok ((Survey.ofGraph graph).factorsOf option position) := by
  have set := collect_eq_ok fun setting (_ : setting ∈ option.settings) =>
    factorNamed_eq graph setting.1
  have linked := collect_eq_ok fun hop (listed : hop ∈ Hop.leaving graph.links position) =>
    factorAt_eq (hop_leaving_lt listed).2.2
  rw [Inspection.factorsOf, set, ok_bind, inspection_table,
    table_leaving inside, ok_bind, linked, ok_bind, pure_eq_ok, sort_factors]
  intro factor
  rw [mem_factorsOf_iff, List.mem_append, List.mem_flatMap, List.mem_flatMap, and_or_left]
  refine or_congr ?_ ?_
  · simp only [Option.mem_toList, Option.filter_eq_some_iff, decide_eq_true_eq]
    constructor
    · rintro ⟨setting, listed, found, kind⟩
      exact ⟨kind, setting, listed, found⟩
    · rintro ⟨kind, setting, listed, found⟩
      exact ⟨setting, listed, found, kind⟩
  · constructor
    · rintro ⟨hop, listed, member⟩
      split at member
      · next kind =>
        cases List.mem_singleton.mp member
        exact ⟨kind, hop, listed, rfl⟩
      · cases member
    · rintro ⟨kind, hop, listed, rfl⟩
      exact ⟨hop, listed, by simp [kind]⟩

theorem inspection_missingEffect (option : Node) {position : Nat}
    (inside : position < graph.nodes.length) :
    graph.inspection.missingEffect option position =
      .ok ((Survey.ofGraph graph).missingEffect option position) := by
  have within (factor : Nat) (listed : factor ∈ (Survey.ofGraph graph).factorsOf option position) :
      factor < graph.nodes.length := (Survey.isLive_of_mem_factorsOf listed).lt
  have ids := mapM_eq_ok fun factor listed => table_idAt (within factor listed)
  have reaching : graph.inspection.reaching = (Survey.ofGraph graph).reaching.map graph.marks := rfl
  rw [Inspection.missingEffect, inspection_factorsOf option inside, ok_bind, reaching,
    Survey.missingEffect]
  cases (Survey.ofGraph graph).reaching with
  | none => rfl
  | some reaching =>
      have reached := anyM_eq_ok fun factor listed => fetch_marks (within factor listed) reaching
      simp only [Option.map_some, reached, ok_bind, inspection_table, ids]
      cases ((Survey.ofGraph graph).factorsOf option position).any
        fun factor => factor ∈ reaching <;> rfl

theorem inspection_effectsAt {entry : Node × Nat} (live : entry ∈ graph.live) :
    graph.inspection.effectsAt entry = .ok ((Survey.ofGraph graph).effectsAt entry) := by
  have stray := collect_toList fun setting (_ : setting ∈ entry.1.settings) =>
    straySetting_eq graph entry.1 entry.2 setting.1
  rw [Inspection.effectsAt, stray, ok_bind, inspection_missingEffect entry.1 (lt_of_live live)]
  rfl

theorem inspection_identical {group : List (Node × Nat)} (live : ∀ entry ∈ group, entry ∈ graph.live) :
    graph.inspection.identical group = .ok (Survey.identical? group).toList := by
  have ids : group.mapM (fun member => graph.inspection.table.idAt member.2) =
      .ok (group.map (·.1.id)) := mapM_eq_ok fun entry listed => by
    have here := live entry listed
    rw [inspection_table, table_idAt (lt_of_live here),
      idAt_of_live here]
  rw [Inspection.identical, ids]
  rcases group with _ | ⟨⟨first, position⟩, _ | ⟨second, others⟩⟩
  · rfl
  · rfl
  · rw [if_pos (by simp)]
    rfl

theorem inspection_choice (graph : Graph) :
    graph.inspection.choice = .ok (Survey.ofGraph graph).choice := by
  have options : graph.live.filter (fun entry => entry.1.kind = .option) =
      (Survey.ofGraph graph).options := rfl
  have live (entry : Node × Nat) (listed : entry ∈ (Survey.ofGraph graph).options) :
      entry ∈ graph.live := (List.mem_filter.mp listed).1
  have effects := collect_eq_ok fun entry listed => inspection_effectsAt (live entry listed)
  have groups : (Survey.gathered (Survey.ofGraph graph).options).map OptionGroup.members =
      (Survey.ofGraph graph).equalOptions := rfl
  have same : collect graph.inspection.identical (Survey.ofGraph graph).equalOptions =
      .ok ((Survey.ofGraph graph).equalOptions.filterMap Survey.identical?) := by
    refine collect_toList fun group listed => inspection_identical fun entry member => ?_
    rw [Survey.equalOptions_eq] at listed
    obtain ⟨leader, _, rfl⟩ := List.mem_map.mp listed
    exact live entry (List.mem_filter.mp member).1
  rw [Inspection.choice, inspection_nodesOfKind, ok_bind, options, effects, ok_bind, groups, same,
    ← Survey.identicalChoices_eq]
  rfl

/-! Goals in disguise, and the numbers of edges. -/

theorem goalNumber?_eq {entry : Node × Nat} (factor : entry.1.kind = .factor) :
    graph.inspection.goalNumber? entry = (Survey.ofGraph graph).goalNumber? entry := by
  rw [Inspection.goalNumber?, Survey.goalNumber?,
    show graph.inspection.category? entry.2 = (Survey.ofGraph graph).category? entry.2 from rfl]
  by_cases trusted : (Survey.ofGraph graph).category? entry.2 = some .controllable <;>
    by_cases claimed : entry.1.declaredCategory? = some .controllable <;>
      simp [Node.isFactor, factor, trusted, claimed]

theorem inspection_goalNumbers (graph : Graph) :
    graph.inspection.goalNumbers = .ok (Survey.ofGraph graph).goalNumbers := by
  rw [Inspection.goalNumbers, inspection_nodesOfKind, ok_bind, Survey.goalNumbers_eq]
  have all : (Survey.ofGraph graph).graph.live.filterMap (Survey.ofGraph graph).goalNumber? =
      (graph.live.filter fun entry => entry.1.kind = .factor).filterMap
        (Survey.ofGraph graph).goalNumber? := by
    rw [List.filterMap_filter]
    refine List.filterMap_congr fun entry _ => ?_
    by_cases factor : entry.1.kind = .factor
    · simp [factor]
    · simp [Survey.goalNumber?, Node.isFactor, factor]
  rw [all]
  refine congrArg Except.ok (List.filterMap_congr fun entry listed => ?_)
  exact goalNumber?_eq (of_decide_eq_true (List.mem_filter.mp listed).2)

theorem linkedEdges_filterMap {α : Type} (find : Link × Edge → Option α) :
    (Survey.ofGraph graph).linkedEdges.filterMap find =
      graph.links.filterMap fun link => (graph.edges[link.edge]?).bind fun edge => find (link, edge) := by
  change (graph.links.filterMap fun link => (graph.edges[link.edge]?).map (link, ·)).filterMap find = _
  rw [List.filterMap_filterMap]
  refine List.filterMap_congr fun link _ => ?_
  cases graph.edges[link.edge]? <;> rfl

theorem linkedEdges_flatMap {α : Type} (find : Link × Edge → List α) :
    (Survey.ofGraph graph).linkedEdges.flatMap find =
      graph.links.flatMap fun link => (graph.edges[link.edge]?).elim [] fun edge => find (link, edge) := by
  change (graph.links.filterMap fun link => (graph.edges[link.edge]?).map (link, ·)).flatMap find = _
  rw [List.filterMap_eq_flatMap_toList, List.flatMap_assoc]
  refine List.flatMap_congr fun link _ => ?_
  cases graph.edges[link.edge]? <;> simp

/-- What stands at the ends of a link, and its edge. -/
theorem exists_ends {link : Link} (listed : link ∈ graph.links) :
    ∃ source target edge, graph.kindAt? link.source = some source ∧
      graph.kindAt? link.target = some target ∧ graph.edges[link.edge]? = some edge := by
  obtain ⟨source, left⟩ := exists_kind (source_lt listed)
  obtain ⟨target, right⟩ := exists_kind (target_lt listed)
  obtain ⟨edge, found, _⟩ := mem_links_iff.mp listed
  exact ⟨source, target, edge, left, right, found⟩

theorem inspection_looseScaffold (graph : Graph) :
    collect graph.inspection.looseScaffold graph.inspection.table.links =
      .ok (Survey.ofGraph graph).looseScaffold := by
  rw [show graph.inspection.table.links = graph.links from table_links graph,
    Survey.looseScaffold_eq, linkedEdges_filterMap]
  refine collect_toList fun link listed => ?_
  obtain ⟨source, target, edge, left, right, found⟩ := exists_ends listed
  have start : (Survey.ofGraph graph).graph.kindAt? link.source = some source := left
  have stop : (Survey.ofGraph graph).graph.kindAt? link.target = some target := right
  rw [Inspection.looseScaffold, inspection_table, table_kindAt left, ok_bind, table_kindAt right,
    ok_bind, found, Option.bind_some, Survey.looseScaffold?, start, stop]
  cases source <;> cases target <;> simp [table_edgeAt found, Finding.unless] <;>
    cases edge.isScaffold <;> rfl

theorem inspection_polarityAdvice {link : Link} (listed : link ∈ graph.links) (edge : Edge) :
    graph.inspection.polarityAdvice link edge =
      .ok ((Survey.ofGraph graph).polarityAdvice link edge) := by
  obtain ⟨source, target, _, left, right, _⟩ := exists_ends listed
  have start : (Survey.ofGraph graph).graph.kindAt? link.source = some source := left
  have stop : (Survey.ofGraph graph).graph.kindAt? link.target = some target := right
  rw [Inspection.polarityAdvice, inspection_table,
    table_kindAt right, ok_bind, table_kindAt left, ok_bind, Survey.polarityAdvice, start, stop]
  cases source <;> cases target <;> rfl

theorem inspection_isScaffold {link : Link} (listed : link ∈ graph.links) :
    graph.inspection.isScaffold link = .ok ((Survey.ofGraph graph).isScaffold link) := by
  obtain ⟨source, target, _, left, right, _⟩ := exists_ends listed
  have start : (Survey.ofGraph graph).graph.kindAt? link.source = some source := left
  have stop : (Survey.ofGraph graph).graph.kindAt? link.target = some target := right
  rw [Inspection.isScaffold, inspection_table,
    table_kindAt left, ok_bind, table_kindAt right, ok_bind, Survey.isScaffold, start, stop]
  cases source <;> cases target <;> rfl

theorem inspection_deviationAdvice {link : Link} (listed : link ∈ graph.links) (edge : Edge) :
    graph.inspection.deviationAdvice link edge =
      .ok ((Survey.ofGraph graph).deviationAdvice link edge) := by
  rw [Inspection.deviationAdvice, inspection_isScaffold listed, ok_bind, Survey.deviationAdvice]
  cases (Survey.ofGraph graph).isScaffold link with
  | true => rfl
  | false => cases edge.deviation.filter Float.isFinite <;> rfl

theorem inspection_linkAdvice {link : Link} (listed : link ∈ graph.links) :
    graph.inspection.linkAdvice link =
      .ok ((graph.edges[link.edge]?).elim [] fun edge =>
        (Survey.ofGraph graph).polarityAdvice link edge ++
          (Survey.ofGraph graph).deviationAdvice link edge) := by
  obtain ⟨_, _, edge, _, _, found⟩ := exists_ends listed
  rw [Inspection.linkAdvice, inspection_table,
    table_edgeAt found, ok_bind, inspection_polarityAdvice listed, ok_bind,
    inspection_deviationAdvice listed, found]
  rfl

theorem driverAdvice_eq (entry : Node × Nat) :
    graph.inspection.driverAdvice entry =
      (Survey.ofGraph graph).driverAdvice entry.1 entry.2 := by
  rw [Inspection.driverAdvice, Survey.driverAdvice,
    show graph.inspection.category? entry.2 = (Survey.ofGraph graph).category? entry.2 from rfl]
  generalize (Survey.ofGraph graph).category? entry.2 = category
  generalize entry.1.factorData?.bind FactorData.drivers = drivers
  rcases category with _ | _ | _ | _ <;> rcases drivers with _ | _ | _ <;> rfl

theorem inspection_advice (graph : Graph) :
    graph.inspection.advice = .ok (Survey.ofGraph graph).advice := by
  have links := collect_eq_ok fun link (listed : link ∈ graph.links) =>
    inspection_linkAdvice listed
  rw [Inspection.advice, show graph.inspection.table.links = graph.links from table_links graph,
    links, ok_bind, ← linkedEdges_flatMap fun linked =>
      (Survey.ofGraph graph).polarityAdvice linked.1 linked.2 ++
        (Survey.ofGraph graph).deviationAdvice linked.1 linked.2,
    inspection_table, table_live, ok_bind, pure_eq_ok,
    List.flatMap_congr fun entry _ => driverAdvice_eq entry]
  rfl

theorem inspection_findings (graph : Graph) (limits : Limits) :
    graph.inspection.findings limits = .ok ((Survey.ofGraph graph).findings limits) := by
  simp only [Inspection.findings, inspection_wiring, inspection_connection, inspection_data,
    inspection_choice, inspection_goalNumbers, inspection_looseScaffold, inspection_advice,
    inspection_census, ok_bind]
  rfl

/-- No check runs over the end of a list. -/
theorem inspection_check (graph : Graph) (limits : Limits) :
    Inspection.check graph limits = .ok (graph.check limits) := by
  rw [Inspection.check, inspection_eq, ok_bind, inspection_findings]
  rfl

end Graph

end DecisionGraph

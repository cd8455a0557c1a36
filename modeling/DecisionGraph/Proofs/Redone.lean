import DecisionGraph.Proofs.Replay

/-!
The log of a repair, done again: each rule logs what it does to each node and each edge, so that the
entries lead from the graph as it was to the graph that is repaired.
-/

namespace DecisionGraph

open Repair

theorem Repair.replays_correctTerm {σ α : Type} [Vocabulary α] {redoes : Mutation → σ → σ → Prop}
    (fallback : α) (target : Target) (field : String) (state : Option (Term α) → σ)
    (redone : ∀ text, redoes
      (.ofCode .enumValidation .enumValueCorrected target field (.string text)
        (Vocabulary.json fallback))
      (state (some (.foreign text))) (state (some (.word fallback))))
    (term : Option (Term α)) :
    Replays redoes (correctTerm fallback target field term).log (state term)
      (state (correctTerm fallback target field term).value) := by
  rcases term with _ | value | text
  · exact .done _
  · exact .done _
  · exact .one (redone text)

/-! The rules at one node. -/

namespace Node

variable (rule : RepairRule) (code : IssueCode) (id label : String) (category : Option Category)

theorem replays_fillType (data : Option FactorData) :
    Replays Redoes (fillType rule code id (data.getD .empty)).log
      ⟨id, label, .factor category data⟩
      ⟨id, label, .factor category (some (fillType rule code id (data.getD .empty)).value)⟩ := by
  cases data with
  | none => exact .one (redoes_data _ _ _ _ _ (by decide) (FactorData.member_factorType _) rfl)
  | some data =>
      obtain ⟨value, baseline, extraction, type, drivers⟩ := data
      cases type with
      | none => exact .one (redoes_data _ _ _ _ _ (by decide) (FactorData.member_factorType _) rfl)
      | some type => exact .done _

theorem replays_fillDrivers (data : FactorData) :
    Replays Redoes (fillDrivers rule code id data).log ⟨id, label, .factor category (some data)⟩
      ⟨id, label, .factor category (some (fillDrivers rule code id data).value)⟩ := by
  obtain ⟨value, baseline, extraction, type, drivers⟩ := data
  cases drivers with
  | none => exact .one (redoes_data _ _ _ _ _ (by decide) (FactorData.member_drivers _) rfl)
  | some drivers => exact .done _

theorem replays_fill (data : Option FactorData) :
    Replays Redoes (fill rule code id data).log ⟨id, label, .factor category data⟩
      ⟨id, label, .factor category (fill rule code id data).value⟩ :=
  (replays_fillType rule code id label category data).append
    (replays_fillDrivers rule code id label category _)

theorem replays_stripType (data : FactorData) :
    Replays Redoes (stripType id data).log ⟨id, label, .factor category (some data)⟩
      ⟨id, label, .factor category (some (stripType id data).value)⟩ := by
  obtain ⟨value, baseline, extraction, type, drivers⟩ := data
  cases type with
  | none => exact .done _
  | some type => exact .one (redoes_data _ _ _ _ _ (by decide) (FactorData.member_factorType _) rfl)

theorem replays_stripDrivers (data : FactorData) :
    Replays Redoes (stripDrivers id data).log ⟨id, label, .factor category (some data)⟩
      ⟨id, label, .factor category (some (stripDrivers id data).value)⟩ := by
  obtain ⟨value, baseline, extraction, type, drivers⟩ := data
  cases drivers with
  | none => exact .done _
  | some drivers => exact .one (redoes_data _ _ _ _ _ (by decide) (FactorData.member_drivers _) rfl)

theorem replays_strip (data : Option FactorData) :
    Replays Redoes (strip id data).log ⟨id, label, .factor category data⟩
      ⟨id, label, .factor category (strip id data).value⟩ := by
  cases data with
  | none => exact .done _
  | some data =>
      exact (replays_stripType id label category data).append
        (replays_stripDrivers id label category _)

theorem replays_adapt (inferred : Category) (data : Option FactorData) :
    Replays Redoes (adapt id inferred data).log ⟨id, label, .factor category data⟩
      ⟨id, label, .factor category (adapt id inferred data).value⟩ := by
  cases inferred with
  | controllable => exact replays_fill _ _ id label category data
  | observable => exact replays_strip id label category data
  | external => exact .done _

theorem replays_overrideCategory (inferred : Option Category) (node : Node) :
    Replays Redoes (overrideCategory inferred node).log node
      (overrideCategory inferred node).value := by
  obtain ⟨id, label, body⟩ := node
  cases inferred with
  | none => exact .done _
  | some inferred =>
      cases body with
      | factor declared data =>
          by_cases same : declared = some inferred
          · simp only [overrideCategory, if_pos same]
            exact .done _
          · simp only [overrideCategory, if_neg same]
            exact .step (redoes_category _ _ id label declared inferred data)
              (replays_adapt id label _ inferred data)
      | _ => exact .done _

theorem replays_correctNode (node : Node) :
    Replays Redoes (correctNode node).log node (correctNode node).value := by
  obtain ⟨id, label, body⟩ := node
  cases body with
  | factor category data =>
      cases data with
      | none => exact .done _
      | some data =>
          have type := replays_correctTerm fallbackType (.node id) "data.factor_type"
            (fun factorType =>
              Node.mk id label (.factor category (some { data with factorType })))
            (fun _ => redoes_data _ _ _ _ _ (by decide) (FactorData.member_factorType _) rfl)
            data.factorType
          have extraction (data : FactorData) := replays_correctTerm fallbackExtraction (.node id)
            "data.extractionType"
            (fun extraction =>
              Node.mk id label (.factor category (some { data with extraction })))
            (fun _ => redoes_data _ _ _ _ _ (by decide) (FactorData.member_extraction _) rfl)
            data.extraction
          exact type.append (extraction { data with factorType :=
            (correctTerm fallbackType (.node id) "data.factor_type" data.factorType).value })
  | _ => exact .done _

theorem replays_completeData (inferred : Option Category) (node : Node) :
    Replays Redoes (completeData inferred node).log node (completeData inferred node).value := by
  obtain ⟨id, label, body⟩ := node
  cases inferred with
  | none => exact .done _
  | some inferred =>
      cases body with
      | factor declared data =>
          cases inferred with
          | controllable => exact replays_fill _ _ id label declared data
          | _ => exact .done _
      | _ => cases inferred <;> exact .done _

theorem id_of_redoes {entry : Mutation} {node next : Node} (redone : Redoes entry node next) :
    next.id = node.id := by
  have written := redone.after
  unfold write? at written
  split at written
  · obtain ⟨category, _, rfl⟩ := Option.map_eq_some_iff.mp written
    rfl
  · obtain ⟨data, _, rfl⟩ := Option.map_eq_some_iff.mp written
    rfl
  · cases written

end Node

/-! The rules at one edge. -/

namespace Edge

theorem replays_correctEdge (edge : Edge) (position : Nat) :
    Replays (Redoes position) (correctEdge edge position).log edge
      (correctEdge edge position).value :=
  replays_correctTerm fallbackDirection (edgeTarget edge position) "effect_direction"
    (fun direction => { edge with direction })
    (fun text => redoes_direction _ _ { edge with direction := some (.foreign text) } position _)
    edge.direction

theorem replays_correctSign (edge : Edge) (position : Nat) :
    Replays (Redoes position) (correctSign edge position).log edge
      (correctSign edge position).value := by
  obtain ⟨source, target, mean, deviation, beliefExists, belief, direction⟩ := edge
  rcases direction with _ | declared | text
  · exact .done _
  · cases sign : Direction.ofMean? mean with
    | none =>
        simp only [correctSign, sign]
        exact .done _
    | some implied =>
        by_cases same : declared = implied
        · simp only [correctSign, sign, if_pos same]
          exact .done _
        · simp only [correctSign, sign, if_neg same]
          exact .one (redoes_direction _ _ _ _ _)
  · exact .done _

end Edge

/-! From one node or edge to the graph. -/

theorem map_set_of_getElem? {α β : Type} (part : α → β) {items : List α} {position : Nat}
    {item next : α} (listed : items[position]? = some item) (same : part next = part item) :
    (items.set position next).map part = items.map part := by
  obtain ⟨bound, rfl⟩ := List.getElem?_eq_some_iff.mp listed
  rw [List.map_set, same, ← List.getElem_map part (h := by simpa using bound),
    List.set_getElem_self]

namespace Graph

variable {graph : Graph} {entry : Mutation} {log : List Mutation} {position : Nat}

theorem redoes_of_node (distinct : (graph.nodes.map Node.id).Nodup) {node next : Node}
    (listed : graph.nodes[position]? = some node) (redone : node.Redoes entry next) :
    graph.Redoes entry { graph with nodes := graph.nodes.set position next } := by
  have found := position?_of_getElem? distinct listed
  have set : graph.setNode? position next =
      some { graph with nodes := graph.nodes.set position next } :=
    if_pos (List.getElem?_eq_some_iff.mp listed).1
  refine ⟨?_, ?_⟩
  · simp [wire?, redone.target, found, listed, redone.before]
  · simp [write?, redone.target, found, listed, redone.after, set]

theorem redoes_of_edge {edge next : Edge} (listed : graph.edges[position]? = some edge)
    (redone : edge.Redoes position entry next) :
    graph.Redoes entry { graph with edges := graph.edges.set position next } := by
  have set : graph.setEdge? position next =
      some { graph with edges := graph.edges.set position next } :=
    if_pos (List.getElem?_eq_some_iff.mp listed).1
  refine ⟨?_, ?_⟩
  · simp [wire?, redone.target, listed, redone.before]
  · simp [write?, redone.target, listed, redone.after, set]

theorem replays_of_node (distinct : (graph.nodes.map Node.id).Nodup) {node next : Node}
    (listed : graph.nodes[position]? = some node) (replays : Replays Node.Redoes log node next) :
    Replays Redoes log graph { graph with nodes := graph.nodes.set position next } := by
  induction replays generalizing graph with
  | done node =>
      obtain ⟨bound, rfl⟩ := List.getElem?_eq_some_iff.mp listed
      rw [List.set_getElem_self]
      exact .done graph
  | @step entry rest before between after redone _ ih =>
      -- The id stays, so that the later entries find the node at the same position.
      have ids : (graph.nodes.set position between).map Node.id = graph.nodes.map Node.id :=
        map_set_of_getElem? Node.id listed (Node.id_of_redoes redone)
      have later := @ih { graph with nodes := graph.nodes.set position between }
        (ids ▸ distinct) (by simp [(List.getElem?_eq_some_iff.mp listed).1])
      simp only [List.set_set] at later
      exact .step (redoes_of_node distinct listed redone) later

theorem replays_of_edge {edge next : Edge} (listed : graph.edges[position]? = some edge)
    (replays : Replays (Edge.Redoes position) log edge next) :
    Replays Redoes log graph { graph with edges := graph.edges.set position next } := by
  induction replays generalizing graph with
  | done edge =>
      obtain ⟨bound, rfl⟩ := List.getElem?_eq_some_iff.mp listed
      rw [List.set_getElem_self]
      exact .done graph
  | @step entry rest before between after redone _ ih =>
      have later := @ih { graph with edges := graph.edges.set position between }
        (by simp [(List.getElem?_eq_some_iff.mp listed).1])
      simp only [List.set_set] at later
      exact .step (redoes_of_edge listed redone) later

theorem ids_each {α : Type} {initial : α → Node} {change : α → Logged Node} {items : List α}
    (run : ∀ item, Replays Node.Redoes (change item).log (initial item) (change item).value)
    (nodes : graph.nodes = items.map initial) :
    (Logged.each change items).value.map Node.id = graph.nodes.map Node.id := by
  rw [nodes, Logged.value_each, List.map_map, List.map_map]
  exact List.map_congr_left fun item _ =>
    (run item).keeps Node.id fun _ _ _ => Node.id_of_redoes

/-- A rule that goes from node to node. -/
theorem replays_each {α : Type} {initial : α → Node} {change : α → Logged Node} {items : List α}
    (run : ∀ item, Replays Node.Redoes (change item).log (initial item) (change item).value)
    (nodes : graph.nodes = items.map initial) (distinct : (graph.nodes.map Node.id).Nodup) :
    Replays Redoes (Logged.each change items).log graph
      { graph with nodes := (Logged.each change items).value } := by
  have each := @Replays.each Graph Redoes α Node initial change
    (fun nodes => { graph with nodes }) (fun nodes => (nodes.map Node.id).Nodup) items []
  simp only [List.nil_append, ← nodes] at each
  refine each (fun _ item _ before rest _ distinct => ?_) distinct
  have id : (change item).value.id = (initial item).id :=
    (run item).keeps Node.id fun _ _ _ => Node.id_of_redoes
  have listed : ({ graph with nodes := before ++ initial item :: rest } : Graph).nodes[
      before.length]? = some (initial item) := by simp
  have replays := replays_of_node distinct listed (run item)
  refine ⟨by simpa [id] using distinct, ?_⟩
  simpa using replays

/-- A rule that goes from edge to edge. -/
theorem replays_eachEdge {change : Edge → Nat → Logged Edge}
    (run : ∀ edge position, Replays (Edge.Redoes position) (change edge position).log edge
      (change edge position).value) :
    Replays Redoes (eachEdge change graph).log graph (eachEdge change graph).value := by
  have each := @Replays.each Graph Redoes (Edge × Nat) Edge Prod.fst
    (fun entry => change entry.1 entry.2)
    (fun edges => { graph with edges }) (fun _ => True) graph.edges.zipIdx []
  simp only [List.nil_append, List.zipIdx_map_fst] at each
  refine each (fun index item listed before rest length _ => ⟨trivial, ?_⟩) trivial
  obtain ⟨edge, position⟩ := item
  have here : before.length = position := by
    simp only [List.getElem?_zipIdx, Option.map_eq_some_iff, Prod.mk.injEq] at listed
    obtain ⟨_, _, _, rfl⟩ := listed
    simpa using length
  have found : ({ graph with edges := before ++ edge :: rest } : Graph).edges[position]? =
      some edge := by simp [← here]
  have replays := replays_of_edge found (run edge position)
  simpa [← here] using replays

theorem ids_eachNode {change : Option Category → Node → Logged Node}
    {categories : List (Option Category)} (fits : graph.nodes.length ≤ categories.length)
    (run : ∀ inferred node, Replays Node.Redoes (change inferred node).log node
      (change inferred node).value) :
    (eachNode change categories graph).value.nodes.map Node.id = graph.nodes.map Node.id :=
  ids_each (fun (node, inferred) => run inferred node) (List.map_fst_zip fits).symm

theorem replays_eachNode {change : Option Category → Node → Logged Node}
    {categories : List (Option Category)} (fits : graph.nodes.length ≤ categories.length)
    (run : ∀ inferred node, Replays Node.Redoes (change inferred node).log node
      (change inferred node).value)
    (distinct : (graph.nodes.map Node.id).Nodup) :
    Replays Redoes (eachNode change categories graph).log graph
      (eachNode change categories graph).value :=
  replays_each (fun (node, inferred) => run inferred node) (List.map_fst_zip fits).symm distinct

theorem ids_correctWords : (correctWords graph).value.nodes.map Node.id = graph.nodes.map Node.id :=
  ids_each Node.replays_correctNode (List.map_id graph.nodes).symm

theorem replays_correctWords (distinct : (graph.nodes.map Node.id).Nodup) :
    Replays Redoes (correctWords graph).log graph (correctWords graph).value :=
  (replays_each Node.replays_correctNode (List.map_id graph.nodes).symm distinct).append
    (replays_eachEdge Edge.replays_correctEdge)

theorem replays_completeAll {categories : List (Option Category)} (wanted : Bool)
    (fits : graph.nodes.length ≤ categories.length) (distinct : (graph.nodes.map Node.id).Nodup) :
    Replays Redoes (completeAll wanted categories graph).log graph
      (completeAll wanted categories graph).value := by
  cases wanted with
  | false => exact .done graph
  | true => exact replays_eachNode fits Node.replays_completeData distinct

end Graph

/-- Whether an entry is about a node or an edge. -/
def Mutation.isOfGraph (entry : Mutation) : Bool :=
  match entry.target with
  | .node _ | .edge _ _ _ => true
  | .constraint _ => false

/-- An entry that aims a constraint somewhere else or drops it. -/
def Mutation.Aims (constraint : Constraint) (entry : Mutation) : Prop :=
  ∃ code after, after ≠ .string constraint.node ∧
    entry = .ofCode .constraintTargetRemap code (.constraint constraint.id) "node_id"
      (.string constraint.node) after

namespace Graph

variable {graph : Graph}

theorem isOfGraph_of_redoes {entry : Mutation} {next : Graph} (redone : graph.Redoes entry next) :
    entry.isOfGraph = true := by
  have written := redone.after
  unfold Mutation.isOfGraph
  cases target : entry.target with
  | constraint id =>
      rw [target] at written
      cases written
  | _ => rfl

theorem filter_of_replays {log : List Mutation} {next : Graph}
    (replays : Replays Redoes log graph next) : log.filter Mutation.isOfGraph = log := by
  induction replays with
  | done graph => rfl
  | step redone _ ih => rw [List.filter_cons_of_pos (isOfGraph_of_redoes redone), ih]

theorem mem_log_aimConstraint {labels : SortedMap String} {constraint : Constraint}
    {entry : Mutation} (listed : entry ∈ (aimConstraint graph labels constraint).log) :
    entry.Aims constraint := by
  unfold aimConstraint at listed
  cases aimed : aim graph labels constraint.node with
  | none =>
      simp only [aimed, List.mem_singleton] at listed
      exact ⟨.constraintDropped, .null, nofun, listed⟩
  | some node =>
      by_cases same : node = constraint.node
      · simp [aimed, same, Logged.unchanged] at listed
      · simp only [aimed, if_neg same, List.mem_singleton] at listed
        exact ⟨.constraintRemapped, .string node, fun equal => same (Json.string.inj equal), listed⟩

theorem mem_log_aimAll {options : Repair.Options} {entry : Mutation}
    (listed : entry ∈ (aimAll options graph).log) : ∃ constraint, entry.Aims constraint := by
  unfold aimAll at listed
  cases given : options.constraints with
  | none => simp [given, Logged.unchanged] at listed
  | some constraints =>
      simp only [given] at listed
      obtain ⟨constraint, _, entered⟩ := List.mem_flatMap.mp listed
      exact ⟨constraint, mem_log_aimConstraint entered⟩

theorem filter_aimAll (options : Repair.Options) :
    (aimAll options graph).log.filter Mutation.isOfGraph = [] := by
  refine List.filter_eq_nil_iff.mpr fun entry listed => ?_
  obtain ⟨constraint, code, after, _, rfl⟩ := mem_log_aimAll listed
  exact Bool.false_ne_true

/-- The entries about nodes and edges lead from the graph to what is repaired. -/
theorem replays_repair (distinct : (graph.nodes.map Node.id).Nodup) (options : Repair.Options) :
    Replays Redoes ((graph.repair options).2.mutations.filter Mutation.isOfGraph) graph
      (graph.repair options).1 := by
  have fits : graph.nodes.length ≤ graph.categories.length := graph.length_categories.ge
  have ids := ids_eachNode fits Node.replays_overrideCategory
  have overridden := replays_eachNode fits Node.replays_overrideCategory distinct
  generalize first : eachNode overrideCategory graph.categories graph = overriding
    at ids overridden
  have corrected := replays_correctWords (ids ▸ distinct)
  have words := ids_correctWords.trans ids
  generalize second : correctWords overriding.value = correcting at words corrected
  have signed : Replays Redoes (correctSigns correcting.value).log correcting.value
      (correctSigns correcting.value).value := replays_eachEdge Edge.replays_correctSign
  have signs : (correctSigns correcting.value).value.nodes.map Node.id = graph.nodes.map Node.id :=
    words
  have length : (correctSigns correcting.value).value.nodes.length = graph.nodes.length := by
    simpa using congrArg List.length signs
  have completed := replays_completeAll options.fill (length.trans_le fits) (signs ▸ distinct)
  -- The entries about constraints stand in the middle of the log and drop out of it here.
  simp only [repair, overrideCategories, first, second, List.filter_append, filter_aimAll,
    filter_of_replays overridden, filter_of_replays corrected, filter_of_replays signed,
    filter_of_replays completed, List.append_nil]
  exact ((overridden.append corrected).append signed).append completed

end Graph

end DecisionGraph

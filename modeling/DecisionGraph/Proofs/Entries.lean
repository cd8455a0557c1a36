import DecisionGraph.Proofs.Redone

/-!
What the log of a repair tells of one node or one edge: just what the rules log when they pass over
it one after the other.
-/

namespace DecisionGraph

open Repair

namespace Target

def nodeId? : Target → Option String
  | node id => some id
  | _ => none

def edgePosition? : Target → Option Nat
  | edge position _ _ => some position
  | _ => none

theorem nodeId?_eq_some_iff {target : Target} {id : String} :
    target.nodeId? = some id ↔ target = .node id := by
  cases target <;> simp [nodeId?]

end Target

/-! Items that log only of themselves. -/

namespace Logged

variable {α β κ : Type} [DecidableEq κ] (about : Mutation → Option κ) (key : α → κ)
  (change : α → Logged β)

theorem filter_log_each {items : List α}
    (own : ∀ item ∈ items, ∀ entry ∈ (change item).log, about entry = some (key item))
    (once : (items.map key).Nodup) {item : α} (member : item ∈ items) :
    (each change items).log.filter (fun entry => about entry = some (key item)) =
      (change item).log := by
  have logs : (each change items).log = items.flatMap fun item => (change item).log := rfl
  rw [logs, List.filter_flatMap, flatMap_eq_of_key once member fun other listed apart => ?_]
  · exact List.filter_eq_self.mpr fun entry logged => by simp [own item member entry logged]
  · refine List.filter_eq_nil_iff.mpr fun entry logged => ?_
    rw [own other listed entry logged, decide_eq_true_eq, Option.some.injEq]
    exact apart

end Logged

/-! What is logged of a node names it, and so for an edge. -/

theorem Node.target_of_replays {log : List Mutation} {node next : Node} {entry : Mutation}
    (replays : Replays Redoes log node next) (listed : entry ∈ log) :
    entry.target = .node node.id := by
  induction replays with
  | done node => cases listed
  | step redone _ ih =>
      rcases List.mem_cons.mp listed with rfl | later
      · exact redone.target
      · rw [ih later, id_of_redoes redone]

theorem Edge.position_of_replays {position : Nat} {log : List Mutation} {edge next : Edge}
    {entry : Mutation} (replays : Replays (Redoes position) log edge next) (listed : entry ∈ log) :
    entry.target.edgePosition? = some position := by
  induction replays with
  | done edge => cases listed
  | step redone _ ih =>
      rcases List.mem_cons.mp listed with rfl | later
      · rw [redone.target]
        rfl
      · exact ih later

namespace Repair

/-- The rules on nodes, one after the other, at one node. -/
def nodeRules (wanted : Bool) (inferred : Option Category) (node : Node) : Logged Node :=
  (overrideCategory inferred node).andThen fun node =>
    (correctNode node).andThen fun node =>
      if wanted then completeData inferred node else .unchanged node

/-- The rules on edges, one after the other, at one edge. -/
def edgeRules (edge : Edge) (position : Nat) : Logged Edge :=
  (correctEdge edge position).andThen fun edge => correctSign edge position

end Repair

namespace Graph

variable {graph : Graph} {position : Nat}

theorem getElem?_categories {node : Node} (listed : graph.nodes[position]? = some node) :
    graph.categories[position]? = some (graph.category? position) := by
  have bound : position < graph.categories.length := by
    rw [length_categories]
    exact (List.getElem?_eq_some_iff.mp listed).1
  simp [category?, List.getElem?_eq_getElem bound]

section EachNode

variable {change : Option Category → Node → Logged Node} {categories : List (Option Category)}
  {node : Node} {inferred : Option Category}

theorem getElem?_nodes_eachNode (change : Option Category → Node → Logged Node)
    (listed : graph.nodes[position]? = some node)
    (known : categories[position]? = some inferred) :
    (eachNode change categories graph).value.nodes[position]? =
      some (change inferred node).value := by
  have zipped : (graph.nodes.zip categories)[position]? = some (node, inferred) :=
    List.getElem?_zip_eq_some.mpr ⟨listed, known⟩
  change ((graph.nodes.zip categories).map _)[position]? = _
  simp [zipped]

theorem filter_node_eachNode (distinct : (graph.nodes.map Node.id).Nodup)
    (fits : graph.nodes.length ≤ categories.length)
    (run : ∀ inferred node, Replays Node.Redoes (change inferred node).log node
      (change inferred node).value)
    (listed : graph.nodes[position]? = some node) (known : categories[position]? = some inferred) :
    (eachNode change categories graph).log.filter (fun entry =>
      entry.target.nodeId? = some node.id) = (change inferred node).log := by
  have zipped : (node, inferred) ∈ graph.nodes.zip categories :=
    List.mem_of_getElem? (List.getElem?_zip_eq_some.mpr ⟨listed, known⟩)
  have ids : (graph.nodes.zip categories).map (fun entry => entry.1.id) =
      graph.nodes.map Node.id := by
    conv => rhs; rw [← List.map_fst_zip fits, List.map_map]
    rfl
  refine Logged.filter_log_each (fun entry => entry.target.nodeId?)
    (fun entry : Node × Option Category => entry.1.id)
    (fun entry => change entry.2 entry.1) (fun entry _ logged entered => ?_) (ids ▸ distinct) zipped
  rw [Node.target_of_replays (run _ _) entered]
  rfl

theorem filter_edge_eachNode
    (run : ∀ inferred node, Replays Node.Redoes (change inferred node).log node
      (change inferred node).value) :
    (eachNode change categories graph).log.filter (fun entry =>
      entry.target.edgePosition? = some position) = [] := by
  refine List.filter_eq_nil_iff.mpr fun entry listed => ?_
  obtain ⟨⟨node, inferred⟩, -, entered⟩ := List.mem_flatMap.mp listed
  rw [Node.target_of_replays (run _ _) entered]
  exact Bool.false_ne_true

end EachNode

section EachEdge

variable {change : Edge → Nat → Logged Edge}
  (run : ∀ edge position, Replays (Edge.Redoes position) (change edge position).log edge
    (change edge position).value)

theorem getElem?_edges_eachEdge {edge : Edge} (listed : graph.edges[position]? = some edge) :
    (eachEdge change graph).value.edges[position]? = some (change edge position).value := by
  change (graph.edges.zipIdx.map _)[position]? = _
  simp [listed]

include run in
theorem filter_edge_eachEdge {edge : Edge} (listed : graph.edges[position]? = some edge) :
    (eachEdge change graph).log.filter (fun entry =>
      entry.target.edgePosition? = some position) = (change edge position).log := by
  have entry : (edge, position) ∈ graph.edges.zipIdx := List.mem_zipIdx_iff_getElem?.mpr listed
  exact Logged.filter_log_each (fun entry => entry.target.edgePosition?) Prod.snd
    (fun entry => change entry.1 entry.2)
    (fun entry _ logged entered => Edge.position_of_replays (run _ _) entered)
    (nodup_zipIdx graph.edges) entry

include run in
theorem filter_node_eachEdge {id : String} :
    (eachEdge change graph).log.filter (fun entry => entry.target.nodeId? = some id) = [] := by
  refine List.filter_eq_nil_iff.mpr fun entry listed => ?_
  obtain ⟨⟨edge, position⟩, -, entered⟩ := List.mem_flatMap.mp listed
  have known := Edge.position_of_replays (run _ _) entered
  cases target : entry.target with
  | edge position source target => simp [Target.nodeId?]
  | _ => simp [target, Target.edgePosition?] at known

end EachEdge

/-! The rules on words pass over nodes and edges. -/

theorem getElem?_nodes_correctWords {node : Node} (listed : graph.nodes[position]? = some node) :
    (correctWords graph).value.nodes[position]? = some (correctNode node).value := by
  change (graph.nodes.map _)[position]? = _
  simp [listed]

theorem filter_node_correctWords (distinct : (graph.nodes.map Node.id).Nodup) {node : Node}
    (listed : graph.nodes[position]? = some node) :
    (correctWords graph).log.filter (fun entry => entry.target.nodeId? = some node.id) =
      (correctNode node).log := by
  have nodes := Logged.filter_log_each (fun entry => entry.target.nodeId?) Node.id correctNode
    (fun node _ entry entered => by
      rw [Node.target_of_replays (Node.replays_correctNode node) entered]
      rfl) distinct (List.mem_of_getElem? listed)
  rw [correctWords, Logged.log_andThen, List.filter_append, nodes,
    filter_node_eachEdge Edge.replays_correctEdge, List.append_nil]

theorem getElem?_edges_correctWords {edge : Edge} (listed : graph.edges[position]? = some edge) :
    (correctWords graph).value.edges[position]? = some (correctEdge edge position).value :=
  getElem?_edges_eachEdge listed

theorem filter_edge_correctWords {edge : Edge} (listed : graph.edges[position]? = some edge) :
    (correctWords graph).log.filter (fun entry =>
      entry.target.edgePosition? = some position) = (correctEdge edge position).log := by
  have nodes : (Logged.each correctNode graph.nodes).log.filter (fun entry =>
      entry.target.edgePosition? = some position) = [] := by
    refine List.filter_eq_nil_iff.mpr fun entry listed => ?_
    obtain ⟨node, -, entered⟩ := List.mem_flatMap.mp listed
    rw [Node.target_of_replays (Node.replays_correctNode node) entered]
    exact Bool.false_ne_true
  rw [correctWords, Logged.log_andThen, List.filter_append, nodes, List.nil_append]
  exact filter_edge_eachEdge Edge.replays_correctEdge listed

theorem filter_node_aimAll {options : Repair.Options} {id : String} :
    (aimAll options graph).log.filter (fun entry => entry.target.nodeId? = some id) = [] := by
  refine List.filter_eq_nil_iff.mpr fun entry listed => ?_
  obtain ⟨constraint, code, after, -, rfl⟩ := mem_log_aimAll listed
  exact Bool.false_ne_true

theorem filter_edge_aimAll {options : Repair.Options} :
    (aimAll options graph).log.filter (fun entry =>
      entry.target.edgePosition? = some position) = [] := by
  refine List.filter_eq_nil_iff.mpr fun entry listed => ?_
  obtain ⟨constraint, code, after, -, rfl⟩ := mem_log_aimAll listed
  exact Bool.false_ne_true

theorem filter_node_completeAll (distinct : (graph.nodes.map Node.id).Nodup)
    {categories : List (Option Category)} (fits : graph.nodes.length ≤ categories.length)
    (wanted : Bool) {node : Node} {inferred : Option Category}
    (listed : graph.nodes[position]? = some node) (known : categories[position]? = some inferred) :
    (completeAll wanted categories graph).log.filter (fun entry =>
        entry.target.nodeId? = some node.id) =
      (if wanted then completeData inferred node else .unchanged node).log := by
  cases wanted with
  | false => rfl
  | true => exact filter_node_eachNode distinct fits Node.replays_completeData listed known

/-- The entries about a node are those that the rules make of it. -/
theorem filter_node_repair (distinct : (graph.nodes.map Node.id).Nodup)
    (options : Repair.Options) {node : Node} (listed : graph.nodes[position]? = some node) :
    (graph.repair options).2.mutations.filter (fun entry =>
        entry.target.nodeId? = some node.id) =
      (nodeRules options.fill (graph.category? position) node).log := by
  have fits : graph.nodes.length ≤ graph.categories.length := graph.length_categories.ge
  have known := getElem?_categories listed
  -- No rule moves a node or changes an id, so each one meets what the rules before made of it.
  have overridden := filter_node_eachNode distinct fits Node.replays_overrideCategory listed known
  have once := getElem?_nodes_eachNode overrideCategory listed known
  have ids := ids_eachNode fits Node.replays_overrideCategory
  have onceId := (Node.replays_overrideCategory (graph.category? position) node).keeps Node.id
    fun _ _ _ => Node.id_of_redoes
  generalize first : eachNode overrideCategory graph.categories graph = overriding
    at overridden once ids
  have corrected := filter_node_correctWords (ids ▸ distinct) once
  have twice := getElem?_nodes_correctWords once
  have twiceIds := ids_correctWords.trans ids
  have twiceId := (Node.replays_correctNode _).keeps Node.id (fun _ _ _ => Node.id_of_redoes)
    |>.trans onceId
  generalize second : correctWords overriding.value = correcting at corrected twice twiceIds
  have signed : (correctSigns correcting.value).log.filter
      (fun entry => entry.target.nodeId? = some node.id) = [] :=
    filter_node_eachEdge Edge.replays_correctSign
  have thrice : (correctSigns correcting.value).value.nodes[position]? = _ := twice
  have thriceIds : (correctSigns correcting.value).value.nodes.map Node.id =
    graph.nodes.map Node.id := twiceIds
  have length : (correctSigns correcting.value).value.nodes.length = graph.nodes.length := by
    simpa using congrArg List.length thriceIds
  have completed := filter_node_completeAll (thriceIds ▸ distinct) (length.trans_le fits)
    options.fill thrice known
  rw [onceId] at corrected
  rw [twiceId] at completed
  simp only [repair, overrideCategories, first, second, List.filter_append, overridden, corrected,
    filter_node_aimAll, signed, completed, List.nil_append, nodeRules, Logged.log_andThen,
    List.append_assoc]

/-- The entries about an edge are those that the rules make of it. -/
theorem filter_edge_repair (options : Repair.Options) {edge : Edge}
    (listed : graph.edges[position]? = some edge) :
    (graph.repair options).2.mutations.filter (fun entry =>
        entry.target.edgePosition? = some position) =
      (edgeRules edge position).log := by
  have overridden : (overrideCategories graph.categories graph).log.filter
      (fun entry => entry.target.edgePosition? = some position) = [] :=
    filter_edge_eachNode Node.replays_overrideCategory
  have once : (overrideCategories graph.categories graph).value.edges[position]? = _ := listed
  generalize first : overrideCategories graph.categories graph = overriding at overridden once
  have corrected := filter_edge_correctWords once
  have twice := getElem?_edges_correctWords once
  generalize second : correctWords overriding.value = correcting at corrected twice
  have signed : (correctSigns correcting.value).log.filter _ = _ :=
    filter_edge_eachEdge Edge.replays_correctSign twice
  have completed : (completeAll options.fill graph.categories
      (correctSigns correcting.value).value).log.filter
      (fun entry => entry.target.edgePosition? = some position) = [] := by
    cases options.fill with
    | false => rfl
    | true => exact filter_edge_eachNode Node.replays_completeData
  simp only [repair, first, second, List.filter_append, overridden, corrected, filter_edge_aimAll,
    signed, completed, List.nil_append, List.append_nil, edgeRules, Logged.log_andThen]

end Graph

end DecisionGraph

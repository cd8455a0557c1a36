import DecisionGraph.Graph.Category
import DecisionGraph.Proofs.Table

/-!
What is read off a table, with every access tested. On the table of a graph a reading at a position
of the graph gives what the graph has there.
-/

namespace DecisionGraph

open Access

namespace Table

variable (table : Table)

def nodeAt (position : Nat) : Access Node := fetch table.graph.nodes position

def edgeAt (position : Nat) : Access Edge := fetch table.graph.edges position

def kindAt (position : Nat) : Access NodeKind := return (← table.nodeAt position).kind

def idAt (position : Nat) : Access String := return (← table.nodeAt position).id

def position? (id : String) : Option Nat := table.places.lookup id

/-- The node that an id finds. -/
def named? (id : String) : Access (Option Node) :=
  match table.position? id with
  | some position => some <$> table.nodeAt position
  | none => return none

/-- Behind the end nothing is shadowed. -/
def isShadowed (position : Nat) : Bool := table.shadowed[position]?.getD false

def live : Access (List (Node × Nat)) :=
  collect (fun entry => do
    if ← fetch table.shadowed entry.2 then return []
    else return [entry]) table.graph.nodes.zipIdx

def ofKind (kind : NodeKind) : Access (List Nat) := do
  let live ← table.live
  return (live.filter fun entry => entry.1.kind = kind).map (·.2)

def uniqueOfKind? (kind : NodeKind) : Access (Option Nat) := do
  match ← table.ofKind kind with
  | [only] => return some only
  | _ => return none

def leaving (position : Nat) : Access (List Hop) := fetch table.outgoing position

def entering (position : Nat) : Access (List Hop) := fetch table.incoming position

def links : List Link :=
  table.endpoints.zipIdx.filterMap fun entry =>
    entry.1.map fun ends => ⟨entry.2, ends.1, ends.2⟩

def hasOptionParent (position : Nat) : Access Bool := do
  (← table.entering position).anyM fun hop => return (← table.kindAt hop.node) = .option

def categoryOf (position : Nat) : Access (Option Category) := do
  match (← table.nodeAt position).body with
  | .factor _ data =>
    if ← table.hasOptionParent position then return some .controllable
    else if (data.bind FactorData.finiteValue?).isSome then return some .observable
    else return some .external
  | _ => return none

def categories : Access (List (Option Category)) :=
  (List.range table.graph.nodes.length).mapM table.categoryOf

end Table

namespace Graph

variable {graph : Graph}

theorem exists_node {position : Nat} (inside : position < graph.nodes.length) :
    ∃ node, graph.nodes[position]? = some node := ⟨_, List.getElem?_eq_getElem inside⟩

theorem exists_kind {position : Nat} (inside : position < graph.nodes.length) :
    ∃ kind, graph.kindAt? position = some kind := by
  obtain ⟨node, listed⟩ := exists_node inside
  exact ⟨node.kind, by rw [kindAt?, listed, Option.map_some]⟩

theorem lt_of_ofKind {kind : NodeKind} {position : Nat} (listed : position ∈ graph.liveOfKind kind) :
    position < graph.nodes.length := by
  obtain ⟨entry, among, rfl⟩ := List.mem_map.mp listed
  exact lt_of_live (List.mem_filter.mp among).1

theorem lt_of_unique {kind : NodeKind} {position : Nat}
    (only : graph.uniqueOfKind? kind = some position) : position < graph.nodes.length := by
  unfold uniqueOfKind? at only
  split at only
  · next single =>
    have listed : position ∈ graph.liveOfKind kind := by
      rw [single, Option.some.inj only]
      exact List.mem_singleton_self position
    exact lt_of_ofKind listed
  · cases only

theorem table_nodeAt {position : Nat} {node : Node} (listed : graph.nodes[position]? = some node) :
    graph.table.nodeAt position = .ok node := fetch_of_getElem? listed

theorem table_edgeAt {position : Nat} {edge : Edge} (listed : graph.edges[position]? = some edge) :
    graph.table.edgeAt position = .ok edge := fetch_of_getElem? listed

theorem table_kindAt {position : Nat} {kind : NodeKind}
    (found : graph.kindAt? position = some kind) : graph.table.kindAt position = .ok kind := by
  obtain ⟨node, listed, rfl⟩ := Option.map_eq_some_iff.mp found
  rw [Table.kindAt, table_nodeAt listed]
  rfl

theorem table_idAt {position : Nat} (inside : position < graph.nodes.length) :
    graph.table.idAt position = .ok (graph.idAt position) := by
  obtain ⟨node, listed⟩ := exists_node inside
  rw [Table.idAt, table_nodeAt listed, idAt, listed]
  rfl

theorem table_position? (id : String) : graph.table.position? id = graph.position? id :=
  graph.lookup_places id

theorem table_named? (id : String) :
    graph.table.named? id = .ok ((graph.position? id).bind fun position => graph.nodes[position]?) := by
  rw [Table.named?, table_position?]
  cases found : graph.position? id with
  | none => rfl
  | some position =>
      obtain ⟨node, listed, _⟩ := getElem?_of_position? found
      simp only [table_nodeAt listed, map_ok, Option.bind_some, listed]

theorem table_isShadowed {position : Nat} {node : Node}
    (listed : graph.nodes[position]? = some node) :
    graph.table.isShadowed position = graph.isShadowed position := by
  simp [Table.isShadowed, isShadowed, table, declares, List.getElem?_zipIdx, listed]

theorem table_live (graph : Graph) : graph.table.live = .ok graph.live := by
  refine collect_filter fun entry listed => ?_
  have numbered := List.mem_zipIdx_iff_getElem?.mp listed
  have flag : graph.table.shadowed[entry.2]? = some (!graph.declares entry) := by
    simp [table, List.getElem?_zipIdx, show graph.nodes[entry.2]? = some entry.1 from numbered]
  rw [fetch_of_getElem? flag, ok_bind]
  unfold declares
  split <;> simp_all

theorem table_ofKind (graph : Graph) (kind : NodeKind) :
    graph.table.ofKind kind = .ok (graph.liveOfKind kind) := by
  rw [Table.ofKind, table_live, ok_bind]
  rfl

theorem table_uniqueOfKind? (graph : Graph) (kind : NodeKind) :
    graph.table.uniqueOfKind? kind = .ok (graph.uniqueOfKind? kind) := by
  rw [Table.uniqueOfKind?, table_ofKind, ok_bind, uniqueOfKind?]
  rcases graph.liveOfKind kind with _ | ⟨first, _ | ⟨second, others⟩⟩ <;> rfl

theorem table_leaving {position : Nat} (inside : position < graph.nodes.length) :
    graph.table.leaving position = .ok (Hop.leaving graph.links position) := fetch_map_range inside

theorem table_entering {position : Nat} (inside : position < graph.nodes.length) :
    graph.table.entering position = .ok (Hop.entering graph.links position) := fetch_map_range inside

theorem table_links (graph : Graph) : graph.table.links = graph.links := by
  rw [Table.links, links, show graph.table.endpoints = graph.edges.map graph.endsOf? from rfl,
    List.zipIdx_map, List.filterMap_map]
  rfl

theorem table_hasOptionParent {position : Nat} (inside : position < graph.nodes.length) :
    graph.table.hasOptionParent position =
      .ok (graph.hasOptionParent graph.links position) := by
  have each (hop : Hop) (listed : hop ∈ Hop.entering graph.links position) :
      (do return (← graph.table.kindAt hop.node) = .option : Access Bool) =
        .ok (graph.kindAt? hop.node = some .option : Bool) := by
    obtain ⟨kind, found⟩ := exists_kind (hop_entering_lt listed).2.2
    rw [table_kindAt found, found]
    simp
  rw [Table.hasOptionParent, table_entering inside, ok_bind, anyM_eq_ok each, Hop.entering,
    List.any_map]
  rfl

theorem table_categoryOf {position : Nat} {node : Node}
    (listed : graph.nodes[position]? = some node) :
    graph.table.categoryOf position = .ok (graph.categoryOf graph.links node position) := by
  have inside := (List.getElem?_eq_some_iff.mp listed).1
  rw [Table.categoryOf, table_nodeAt listed, ok_bind, categoryOf]
  cases node.body with
  | factor category data =>
      simp only [table_hasOptionParent inside, ok_bind]
      cases graph.hasOptionParent graph.links position with
      | true => rfl
      | false => cases (data.bind FactorData.finiteValue?).isSome <;> rfl
  | _ => rfl

theorem table_categories (graph : Graph) : graph.table.categories = .ok graph.categories := by
  have each (position : Nat) (listed : position ∈ List.range graph.nodes.length) :
      graph.table.categoryOf position = .ok (graph.categories[position]?.join) := by
    obtain ⟨node, found⟩ := exists_node (List.mem_range.mp listed)
    rw [table_categoryOf found]
    simp [categories, List.getElem?_zipIdx, found]
  rw [Table.categories, show graph.table.graph = graph from rfl, mapM_eq_ok each]
  congr 1
  refine List.ext_getElem? fun position => ?_
  rw [List.getElem?_map]
  by_cases inside : position < graph.nodes.length
  · obtain ⟨node, found⟩ := exists_node inside
    simp [categories, List.getElem?_zipIdx, inside]
  · simp [categories, List.getElem?_zipIdx, inside]

end Graph

end DecisionGraph

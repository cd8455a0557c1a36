import DecisionGraph.Graph

/-!
Edits of a graph: nodes and edges are added, replaced and removed, and single numbers are set, also
to values that no text can hold.
-/

namespace DecisionGraph

namespace Edge

/-- Sets one of the numbers of an edge; the mean cannot be taken away. -/
def setNumber? (edge : Edge) (field : String) (value : Option Float) : Option Edge :=
  match field, value with
  | "strength_mean", some value => some { edge with mean := value }
  | "strength_std", value => some { edge with deviation := value }
  | "belief_exists", value => some { edge with beliefExists := value }
  | "belief", value => some { edge with belief := value }
  | _, _ => none

end Edge

namespace Node

/-- Sets a number in the data of a factor, or what an option sets a factor to. Absent data are
empty at first. -/
def setNumber? (node : Node) (field : String) (value : Option Float) : Option Node :=
  match node.body, field, value with
  | .factor category data, "value", value =>
    some { node with body := .factor category (some { data.getD .empty with value }) }
  | .factor category data, "baseline", value =>
    some { node with
      body := .factor category (some { data.getD .empty with baseline := value }) }
  | .option settings, factor, some value =>
    some { node with body := .option (some ((settings.getD .empty).insert factor (.ofFloat value))) }
  | _, _, _ => none

end Node

namespace Graph

variable (graph : Graph)

def pushNode (node : Node) : Graph := { graph with nodes := graph.nodes ++ [node] }

def pushEdge (edge : Edge) : Graph := { graph with edges := graph.edges ++ [edge] }

def setNode? (position : Nat) (node : Node) : Option Graph :=
  if position < graph.nodes.length then some { graph with nodes := graph.nodes.set position node }
  else none

def setEdge? (position : Nat) (edge : Edge) : Option Graph :=
  if position < graph.edges.length then some { graph with edges := graph.edges.set position edge }
  else none

def removeNode? (position : Nat) : Option (Node × Graph) :=
  (graph.nodes[position]?).map fun node =>
    (node, { graph with nodes := graph.nodes.eraseIdx position })

def removeEdge? (position : Nat) : Option (Edge × Graph) :=
  (graph.edges[position]?).map fun edge =>
    (edge, { graph with edges := graph.edges.eraseIdx position })

inductive Patch
  | edge (position : Nat) (field : String) (value : Option Float)
  | node (position : Nat) (field : String) (value : Option Float)

def patch? : Patch → Option Graph
  | .edge position field value =>
    (graph.edges[position]?).bind fun edge =>
      (edge.setNumber? field value).bind (graph.setEdge? position)
  | .node position field value =>
    (graph.nodes[position]?).bind fun node =>
      (node.setNumber? field value).bind (graph.setNode? position)

end Graph

end DecisionGraph

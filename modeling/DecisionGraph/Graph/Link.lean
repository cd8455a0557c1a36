import DecisionGraph.Graph

/-!
How the lists of a graph hang together. Nodes and edges are named by their position. An id belongs
to the first node that declares it, and an edge links two positions when both its ids are declared.
-/

namespace DecisionGraph

/-- An edge whose ends are declared, by positions. -/
structure Link where
  edge : Nat
  source : Nat
  target : Nat
  deriving DecidableEq, Repr

namespace Graph

variable (graph : Graph)

def position? (id : String) : Option Nat := graph.nodes.findIdx? fun node => node.id = id

def kindAt? (position : Nat) : Option NodeKind := (graph.nodes[position]?).map Node.kind

def idAt (position : Nat) : String := ((graph.nodes[position]?).map Node.id).getD ""

def isShadowed (position : Nat) : Bool :=
  match graph.nodes[position]? with
  | some node => graph.position? node.id ≠ some position
  | none => false

/-- Nodes that their id finds, with their positions, as listed. -/
def live : List (Node × Nat) :=
  graph.nodes.zipIdx.filter fun entry => graph.position? entry.1.id = some entry.2

def liveOfKind (kind : NodeKind) : List Nat :=
  (graph.live.filter fun entry => entry.1.kind = kind).map (·.2)

/-- The one live node of a kind; none when there are several. -/
def uniqueOfKind? (kind : NodeKind) : Option Nat :=
  match graph.liveOfKind kind with
  | [only] => some only
  | _ => none

def endsOf? (edge : Edge) : Option (Nat × Nat) :=
  match graph.position? edge.source, graph.position? edge.target with
  | some source, some target => some (source, target)
  | _, _ => none

def endpoints? (position : Nat) : Option (Nat × Nat) :=
  (graph.edges[position]?).bind graph.endsOf?

def links : List Link :=
  graph.edges.zipIdx.filterMap fun entry =>
    (graph.endsOf? entry.1).map fun ends => ⟨entry.2, ends.1, ends.2⟩

end Graph

namespace Link

def leaving (links : List Link) (position : Nat) : List Link :=
  links.filter fun link => link.source = position

def entering (links : List Link) (position : Nat) : List Link :=
  links.filter fun link => link.target = position

end Link

end DecisionGraph

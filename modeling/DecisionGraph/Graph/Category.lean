import DecisionGraph.Graph.Link

/-!
The category that the structure of a graph gives a factor, whatever the factor claims: a factor that
an option points at is controllable, another one with a finite value is observable, the rest are
external.
-/

namespace DecisionGraph.Graph

variable (graph : Graph)

def hasOptionParent (links : List Link) (position : Nat) : Bool :=
  (Link.entering links position).any fun link => graph.kindAt? link.source = some .option

/-- The category of the node at a position, if it is a factor. -/
def categoryOf (links : List Link) (node : Node) (position : Nat) : Option Category :=
  match node.body with
  | .factor _ data =>
    if graph.hasOptionParent links position then some .controllable
    else if (data.bind FactorData.finiteValue?).isSome then some .observable
    else some .external
  | _ => none

/-- The categories of all nodes, none for nodes that are no factors. -/
def categories : List (Option Category) :=
  let links := graph.links
  graph.nodes.zipIdx.map fun entry => graph.categoryOf links entry.1 entry.2

end DecisionGraph.Graph

import DecisionGraph.Finding
import DecisionGraph.Graph.Category
import DecisionGraph.Graph.Cycle
import DecisionGraph.Graph.Reach

/-!
What the checks of a graph share: its links, the categories of its factors, and who reaches whom.
-/

namespace DecisionGraph

structure Survey where
  graph : Graph
  links : List Link
  /-- The category of each node, none for nodes that are no factors. -/
  categories : List (Option Category)
  /-- Positions that the decision reaches, when there is just one decision. -/
  reached : Option (List Nat)
  /-- Positions that reach the goal, when there is just one goal. -/
  reaching : Option (List Nat)

namespace Survey

def ofGraph (graph : Graph) : Survey where
  graph := graph
  links := graph.links
  categories := graph.categories
  reached := (graph.uniqueOfKind? .decision).map (Reach.forward graph.links graph.nodes.length)
  reaching := (graph.uniqueOfKind? .goal).map (Reach.backward graph.links graph.nodes.length)

variable (survey : Survey)

def category? (position : Nat) : Option Category := survey.categories[position]?.join

/-- What the node at a position is for the rules on connections. -/
def role? (position : Nat) : Option Role :=
  (survey.graph.kindAt? position).map fun
    | .decision => .decision
    | .option => .option
    | .factor => .factor ((survey.category? position).getD .external)
    | .outcome => .outcome
    | .risk => .risk
    | .goal => .goal

/-- Links from the decision to options and from options to factors are scaffolding. -/
def isScaffold (link : Link) : Bool :=
  match survey.graph.kindAt? link.source, survey.graph.kindAt? link.target with
  | some .decision, some .option | some .option, some .factor => true
  | _, _ => false

def linkedEdges : List (Link × Edge) :=
  survey.links.filterMap fun link => (survey.graph.edges[link.edge]?).map (link, ·)

end Survey

/-- What is found unless a condition holds. -/
def Finding.unless (isFine : Bool) (finding : Finding) : List Finding :=
  if isFine then [] else [finding]

end DecisionGraph

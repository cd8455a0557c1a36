import DecisionGraph.Survey

/-!
Every number of a graph is finite, also in nodes and edges that nothing links.
-/

namespace DecisionGraph

def Finding.ofNumber (place : Place) (owner : String) : Option Float → List Finding
  | some value => Finding.unless value.isFinite (.notFinite place owner value)
  | none => []

namespace Survey

variable (survey : Survey)

def nodeNumbers (node : Node) (position : Nat) : List Finding :=
  match node.body with
  | .factor _ (some data) =>
    Finding.ofNumber (.nodeField position "data.value") node.id data.value
      ++ Finding.ofNumber (.nodeField position "data.baseline") node.id data.baseline
  | .option (some settings) =>
    settings.entries.flatMap fun (factor, value) =>
      Finding.ofNumber (.nodeField position s!"data.interventions.{factor}") node.id
        (some value.toFloat)
  | _ => []

def edgeNumbers (edge : Edge) (position : Nat) : List Finding :=
  let owner := s!"{edge.source}->{edge.target}"
  Finding.ofNumber (.edgeField position "strength_mean") owner (some edge.mean)
    ++ Finding.ofNumber (.edgeField position "strength_std") owner edge.deviation
    ++ Finding.ofNumber (.edgeField position "belief_exists") owner edge.beliefExists
    ++ Finding.ofNumber (.edgeField position "belief") owner edge.belief

def unfiniteNumbers : List Finding :=
  (survey.graph.nodes.zipIdx.flatMap fun (node, position) => nodeNumbers node position)
    ++ survey.graph.edges.zipIdx.flatMap fun (edge, position) => edgeNumbers edge position

end Survey

end DecisionGraph

import DecisionGraph.Survey

/-!
Edges of the scaffolding carry fixed numbers.
-/

namespace DecisionGraph.Survey

variable (survey : Survey)

def looseScaffold : List Finding :=
  survey.linkedEdges.filterMap fun (link, edge) =>
    if edge.isScaffold then none
    else
      match survey.graph.kindAt? link.source, survey.graph.kindAt? link.target with
      | some .option, some .factor => some (.looseOptionScaffold link.edge edge)
      | some .decision, some .option => some (.looseDecisionScaffold link.edge edge)
      | _, _ => none

end DecisionGraph.Survey

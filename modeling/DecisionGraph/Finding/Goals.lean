import DecisionGraph.Survey
import DecisionGraph.Text.GoalNumber

/-!
Factors that are goals in disguise. A controllable factor is trusted, also when it only claims to be
one.
-/

namespace DecisionGraph.Survey

variable (survey : Survey)

def goalNumbers : List Finding :=
  survey.graph.live.filterMap fun (node, position) =>
    if node.isFactor
        && survey.category? position ≠ some .controllable
        && node.declaredCategory? ≠ some .controllable
        && GoalNumber.isGoalNumber node.label then
      some (.goalNumber position node.id node.label)
    else none

end DecisionGraph.Survey

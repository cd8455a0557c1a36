import DecisionGraph.Limits
import DecisionGraph.Survey

/-!
Counting: how many nodes of each kind there are, and whether every id is declared once.
-/

namespace DecisionGraph.Survey

variable (survey : Survey)

def counts (limits : Limits) : List Finding :=
  let graph := survey.graph
  let goals := graph.countKind .goal
  let decisions := graph.countKind .decision
  let options := graph.countKind .option
  Finding.unless (goals = 1) (.goalCount goals)
    ++ Finding.unless (decisions = 1) (.decisionCount decisions)
    ++ Finding.unless (limits.minOptions ≤ options && options ≤ limits.maxOptions)
      (.optionCount options limits.minOptions limits.maxOptions)
    ++ Finding.unless (graph.nodes.any fun node => node.kind.isBridge) .noBridge
    ++ Finding.unless (graph.nodes.length ≤ limits.nodes)
      (.tooManyNodes graph.nodes.length limits.nodes)
    ++ Finding.unless (graph.edges.length ≤ limits.edges)
      (.tooManyEdges graph.edges.length limits.edges)

def repeatedIds : List Finding :=
  survey.graph.nodes.zipIdx.filterMap fun (node, position) =>
    if survey.graph.isShadowed position then
      some (.repeatedId position node.id (survey.graph.position? node.id))
    else none

def undeclaredEnds : List Finding :=
  survey.graph.edges.zipIdx.flatMap fun (edge, position) =>
    [Side.source, Side.target].filterMap fun side =>
      if (survey.graph.position? (side.idOf edge)).isNone then
        some (.undeclaredEnd position edge side)
      else none

def census (limits : Limits) : List Finding :=
  survey.counts limits ++ survey.repeatedIds ++ survey.undeclaredEnds

end DecisionGraph.Survey

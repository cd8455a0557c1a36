import DecisionGraph.Finding.Advice
import DecisionGraph.Finding.Census
import DecisionGraph.Finding.Choice
import DecisionGraph.Finding.Connection
import DecisionGraph.Finding.Data
import DecisionGraph.Finding.Finite
import DecisionGraph.Finding.Goals
import DecisionGraph.Finding.Scaffold
import DecisionGraph.Finding.Wiring
import DecisionGraph.Report

/-!
The checks of a graph. All of them run, whatever the others find, so that a report is complete.
-/

namespace DecisionGraph

def Survey.findings (survey : Survey) (limits : Limits) : List Finding :=
  survey.census limits
    ++ survey.wiring
    ++ survey.connection
    ++ survey.data
    ++ (survey.choice ++ survey.goalNumbers ++ survey.looseScaffold)
    ++ survey.unfiniteNumbers
    ++ survey.advice

namespace Graph

def check (graph : Graph) (limits : Limits) : Report :=
  .ofIssues (((Survey.ofGraph graph).findings limits).map Finding.issue)

/-- A stated direction that the sign of the mean contradicts. A foreign word agrees with no
sign. -/
def signFinding? (edge : Edge) (position : Nat) : Option Finding :=
  match edge.direction, Direction.ofMean? edge.mean with
  | some declared, some implied =>
    if declared = .word implied then none
    else some (.signMismatch position edge declared implied)
  | _, _ => none

def signFindings (graph : Graph) : List Finding :=
  graph.edges.zipIdx.filterMap fun (edge, position) => signFinding? edge position

/-- The last check: every stated direction agrees with the sign of its mean. -/
def gate (graph : Graph) : GateReport := .ofErrors (graph.signFindings.map Finding.issue)

end Graph

end DecisionGraph

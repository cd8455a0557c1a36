import DecisionGraph.Survey

/-!
Connections: which kinds of nodes an edge may link, and that links form no cycle.
-/

namespace DecisionGraph

/-- Whether an edge may lead from the one role to the other: from the decision over options,
controllable factors, other factors, and outcomes or risks to the goal. -/
def Role.allows : Role → Role → Bool
  | .decision, .option => true
  | .option, .factor .controllable => true
  | .factor _, .factor .observable => true
  | .factor _, .factor .external => true
  | .factor _, .outcome => true
  | .factor _, .risk => true
  | .outcome, .goal => true
  | .risk, .goal => true
  | _, _ => false

namespace Survey

variable (survey : Survey)

def leftGoals : List Finding :=
  (survey.graph.liveOfKind .goal).filterMap fun position =>
    match Link.leaving survey.links position with
    | [] => none
    | links => some (.goalLeft position (survey.graph.idAt position)
        (links.map fun link => survey.graph.idAt link.target))

def enteredDecisions : List Finding :=
  (survey.graph.liveOfKind .decision).filterMap fun position =>
    match Link.entering survey.links position with
    | [] => none
    | links => some (.decisionEntered position (survey.graph.idAt position)
        (links.map fun link => survey.graph.idAt link.source))

def misplacedEdges : List Finding :=
  survey.links.filterMap fun link =>
    match survey.role? link.source, survey.role? link.target with
    | some source, some target =>
      if source.allows target then none
      else some (.misplacedEdge link.edge (survey.graph.idAt link.source) source
        (survey.graph.idAt link.target) target)
    | _, _ => none

def idsAlong (cycle : Cycle) : List String :=
  (cycle.positions ++ cycle.positions.take 1).map survey.graph.idAt

def cycles : List Finding :=
  (Cycle.find survey.graph).map fun cycle => .cycle cycle.closingEdge (survey.idsAlong cycle)

def wiring : List Finding :=
  survey.leftGoals ++ survey.enteredDecisions ++ survey.misplacedEdges ++ survey.cycles

end Survey

end DecisionGraph

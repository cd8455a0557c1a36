import DecisionGraph.Survey

/-!
Advice on numbers and data that are allowed but unlikely.
-/

namespace DecisionGraph.Survey

variable (survey : Survey)

def beliefField (edge : Edge) : String :=
  if edge.beliefExists.isSome then "belief_exists" else "belief"

def beliefAdvice (edge : Edge) (position : Nat) : List Finding :=
  match edge.effectiveBelief?.filter Float.isFinite with
  | none => []
  | some belief =>
    if !(0 ≤ belief && belief ≤ 1) then [.improbable position (beliefField edge) edge belief]
    else if belief < lowConfidence then [.lowBelief position (beliefField edge) edge belief]
    else []

def rangeAdvice (edge : Edge) (position : Nat) : List Finding :=
  Finding.unless (!(edge.mean.isFinite && 1 < edge.mean.abs)) (.strongEffect position edge)
    ++ beliefAdvice edge position

/-- Outcomes are to raise the goal and risks to lower it. -/
def polarityAdvice (link : Link) (edge : Edge) : List Finding :=
  match survey.graph.kindAt? link.source, survey.graph.kindAt? link.target with
  | some .outcome, some .goal =>
    Finding.unless (!(edge.mean < 0)) (.loweringOutcome link.edge edge)
  | some .risk, some .goal => Finding.unless (!(0 < edge.mean)) (.raisingRisk link.edge edge)
  | _, _ => []

/-- An effect with the deviation of scaffolding looks copied. -/
def deviationAdvice (link : Link) (edge : Edge) : List Finding :=
  if survey.isScaffold link then []
  else
    match edge.deviation.filter Float.isFinite with
    | some deviation =>
      Finding.unless (!(deviation < lowDeviation)) (.narrowEffect link.edge edge deviation)
    | none => []

def driverAdvice (node : Node) (position : Nat) : List Finding :=
  match survey.category? position, node.factorData?.bind FactorData.drivers with
  | some .controllable, some [] => [.noDrivers position node.id]
  | _, _ => []

def advice : List Finding :=
  (survey.graph.edges.zipIdx.flatMap fun (edge, position) => rangeAdvice edge position)
    ++ (survey.linkedEdges.flatMap fun (link, edge) =>
      survey.polarityAdvice link edge ++ survey.deviationAdvice link edge)
    ++ survey.graph.live.flatMap fun (node, position) => survey.driverAdvice node position

end DecisionGraph.Survey

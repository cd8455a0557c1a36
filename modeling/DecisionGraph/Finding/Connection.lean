import DecisionGraph.Survey

/-!
Reachability: what hangs off the decision, and what leads to the goal.
-/

namespace DecisionGraph.Survey

variable (survey : Survey)

/-- Factors that no option sets drive the goal on their own, so nothing has to lead to them. -/
def isDriver (position : Nat) : Bool :=
  match survey.category? position with
  | some .observable | some .external =>
    match survey.reaching with
    | some reaching => position ∈ reaching
    | none => true
  | _ => false

def unreachedNodes : List Finding :=
  match survey.reached with
  | none => []
  | some reached =>
    survey.graph.live.filterMap fun (node, position) =>
      if position ∈ reached || survey.isDriver position then none
      else some (.unreached position node.id node.kind)

def strandedNodes : List Finding :=
  match survey.reaching with
  | none => []
  | some reaching =>
    survey.graph.live.filterMap fun (node, position) =>
      if position ∈ reaching || node.kind = .decision then none
      else some (.stranded position node.id node.kind)

def connection : List Finding := survey.unreachedNodes ++ survey.strandedNodes

end DecisionGraph.Survey

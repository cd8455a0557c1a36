import DecisionGraph.Graph.Edit
import DecisionGraph.Readiness

/-!
Sessions: a graph is edited, repaired and checked step by step. Options live from step to step, so
constraints that one repair has aimed are what the next one sees.
-/

namespace DecisionGraph

structure Session where
  graph : Graph
  options : Repair.Options
  limits : Limits

namespace Session

inductive Step
  | repair
  /-- Repairs a copy and leaves the session as it is. -/
  | repairCopy
  | check
  | gate
  | prepare (repairFirst : Bool)
  | pushNode (node : Node)
  | pushEdge (edge : Edge)
  | setNode (position : Nat) (node : Node)
  | setEdge (position : Nat) (edge : Edge)
  | removeNode (position : Nat)
  | removeEdge (position : Nat)
  | patch (patch : Graph.Patch)
  | setOptions (options : Repair.Options)
  | setLimits (limits : Limits)
  | showGraph
  | showConstraints

inductive Answer
  | done
  | repaired (outcome : Repair.Outcome)
  /-- With the repaired copy. -/
  | copied (outcome : Repair.Outcome) (copy : Graph)
  | report (report : Report)
  | gate (report : GateReport)
  | readiness (readiness : Readiness)
  /-- The id of a node that was removed, or the target of an edge that was. -/
  | removed (id : String)
  | graph (graph : Graph)
  | constraints (constraints : Option (List Constraint))

/-- Why a step cannot be taken. -/
inductive Refusal
  /-- There is no node or edge at the position. -/
  | noSuchPosition
  | config (failure : ConfigFailure)

def edited (session : Session) (answer : Answer) :
    Option Graph → Except Refusal (Answer × Session)
  | some graph => .ok (answer, { session with graph })
  | none => .error .noSuchPosition

/-- Takes a step. A refused step leaves the session as it is. -/
def take (session : Session) : Step → Except Refusal (Answer × Session)
  | .repair =>
    let (graph, outcome) := session.graph.repair session.options
    .ok (.repaired outcome, { session with graph, options := session.options.after outcome })
  | .repairCopy =>
    let (copy, outcome) := session.graph.repair session.options
    .ok (.copied outcome copy, session)
  | .check => .ok (.report (session.graph.check session.limits), session)
  | .gate => .ok (.gate session.graph.gate, session)
  | .prepare false =>
    .ok (.readiness (session.graph.prepare none session.limits).2, session)
  | .prepare true =>
    let (graph, readiness) := session.graph.prepare (some session.options) session.limits
    .ok (.readiness readiness,
      { session with
        graph := graph
        options := { session.options with constraints := readiness.constraints } })
  | .pushNode node => session.edited .done (some (session.graph.pushNode node))
  | .pushEdge edge => session.edited .done (some (session.graph.pushEdge edge))
  | .setNode position node => session.edited .done (session.graph.setNode? position node)
  | .setEdge position edge => session.edited .done (session.graph.setEdge? position edge)
  | .removeNode position =>
    match session.graph.removeNode? position with
    | some (node, graph) => .ok (.removed node.id, { session with graph })
    | none => .error .noSuchPosition
  | .removeEdge position =>
    match session.graph.removeEdge? position with
    | some (edge, graph) => .ok (.removed edge.target, { session with graph })
    | none => .error .noSuchPosition
  | .patch patch => session.edited .done (session.graph.patch? patch)
  | .setOptions options => .ok (.done, { session with options })
  | .setLimits limits =>
    match limits.checked with
    | .ok limits => .ok (.done, { session with limits })
    | .error failure => .error (.config failure)
  | .showGraph => .ok (.graph session.graph, session)
  | .showConstraints => .ok (.constraints session.options.constraints, session)

end Session

end DecisionGraph

import DecisionGraph.Check
import DecisionGraph.Repair

/-!
Whether a graph is ready for a simulation: it is repaired, checked and passed through the last gate.
-/

namespace DecisionGraph

/-- Everything that one pass over a graph gives. -/
structure Readiness where
  /-- Empty when the graph was not repaired. -/
  mutations : List Mutation
  constraints : Option (List Constraint)
  report : Report
  gate : GateReport
  /-- Of the graph that was checked. -/
  fingerprint : String

namespace Readiness

def isReady (readiness : Readiness) : Bool := readiness.report.valid && readiness.gate.valid

/-- The errors of both checks. -/
def blocking (readiness : Readiness) : List Issue :=
  readiness.report.errors ++ readiness.gate.errors

/-- What a person is told: changes, errors, warnings. -/
def lines (readiness : Readiness) : List String :=
  readiness.mutations.map Mutation.text
    ++ readiness.blocking.map Issue.text
    ++ readiness.report.warnings.map Issue.text

def json (readiness : Readiness) : Json := .record [
  Json.always "mutations" (.array (readiness.mutations.map Mutation.json)),
  Json.whenSome "goal_constraints" (fun constraints => .array (constraints.map Constraint.json))
    readiness.constraints,
  Json.always "report" readiness.report.json,
  Json.always "post" readiness.gate.json,
  Json.always "fingerprint" (.string readiness.fingerprint)]

def fieldNames : List String := ["mutations", "goal_constraints", "report", "post", "fingerprint"]

def decode : Decoder Readiness := fun source _ =>
  source.record fieldNames fun slots =>
    Readiness.mk
      <$> slots.required "mutations" (Decode.list Mutation.decode)
      <*> slots.optional "goal_constraints" (Decode.list Constraint.decode)
      <*> slots.required "report" Report.decode
      <*> slots.required "post" GateReport.decode
      <*> slots.required "fingerprint" Decode.text

/-- Checks a graph as it is, after the changes of a repair. -/
def ofGraph (graph : Graph) (limits : Limits) (repaired : Repair.Outcome) : Readiness :=
  ⟨repaired.mutations, repaired.constraints, graph.check limits, graph.gate, graph.fingerprint⟩

end Readiness

/-- Prepares a graph. Without options it is not repaired. -/
def Graph.prepare (graph : Graph) (options : Option Repair.Options) (limits : Limits) :
    Graph × Readiness :=
  match options with
  | none => (graph, .ofGraph graph limits ⟨[], none⟩)
  | some options =>
    let (repaired, outcome) := graph.repair options
    (repaired, .ofGraph repaired limits outcome)

end DecisionGraph

import DecisionGraph.Graph.Category
import DecisionGraph.Repair.Aim
import DecisionGraph.Repair.Category
import DecisionGraph.Repair.Sign
import DecisionGraph.Repair.Word

/-!
Repair: what the structure of a graph decides is written into the graph, rule by rule, with a log of
every change. A graph that was repaired needs no further repair.
-/

namespace DecisionGraph

namespace Repair

/-- How to repair, and the constraints that come with the graph. -/
structure Options where
  /-- Whether missing data of controllable factors are filled in. -/
  fill : Bool
  constraints : Option (List Constraint)
  /-- Labels of nodes by id, used in place of those in the graph to aim constraints. -/
  labels : SortedMap String

def Options.standard : Options := ⟨true, none, .empty⟩

structure Outcome where
  mutations : List Mutation
  /-- The constraints that are left, if there were any to begin with. -/
  constraints : Option (List Constraint)

namespace Outcome

def isNoop (outcome : Outcome) : Bool := outcome.mutations.isEmpty

def byRule (outcome : Outcome) (rule : RepairRule) : List Mutation :=
  outcome.mutations.filter fun mutation => mutation.rule = rule

def byCode (outcome : Outcome) (code : IssueCode) : List Mutation :=
  outcome.mutations.filter fun mutation => mutation.code = code

def json (outcome : Outcome) : Json := .record [
  Json.always "mutations" (.array (outcome.mutations.map Mutation.json)),
  Json.whenSome "goal_constraints" (fun constraints => .array (constraints.map Constraint.json))
    outcome.constraints]

def decode : Decoder Outcome := fun source _ =>
  source.record ["mutations", "goal_constraints"] fun slots =>
    Outcome.mk
      <$> slots.required "mutations" (Decode.list Mutation.decode)
      <*> slots.optional "goal_constraints" (Decode.list Constraint.decode)

end Outcome

/-- The options for the next repair: constraints stay as the last one left them. -/
def Options.after (options : Options) (outcome : Outcome) : Options :=
  { options with constraints := outcome.constraints }

def eachNode (change : Option Category → Node → Logged Node) (categories : List (Option Category))
    (graph : Graph) : Logged Graph :=
  (Logged.each (fun (node, category) => change category node) (graph.nodes.zip categories)).map
    fun nodes => { graph with nodes }

def eachEdge (change : Edge → Nat → Logged Edge) (graph : Graph) : Logged Graph :=
  (Logged.each (fun (edge, position) => change edge position) graph.edges.zipIdx).map
    fun edges => { graph with edges }

def overrideCategories (categories : List (Option Category)) : Graph → Logged Graph :=
  eachNode overrideCategory categories

def correctWords (graph : Graph) : Logged Graph :=
  (Logged.each correctNode graph.nodes).andThen fun nodes =>
    eachEdge correctEdge { graph with nodes }

def correctSigns (graph : Graph) : Logged Graph := eachEdge correctSign graph

def completeAll (wanted : Bool) (categories : List (Option Category)) (graph : Graph) :
    Logged Graph :=
  if wanted then eachNode completeData categories graph else .unchanged graph

def aimAll (options : Options) (graph : Graph) : Logged (Option (List Constraint)) :=
  match options.constraints with
  | none => .unchanged none
  | some constraints => (aimConstraints graph options.labels constraints).map some

end Repair

open Repair in
/-- Repairs a graph. Categories are inferred once, before any change. -/
def Graph.repair (graph : Graph) (options : Repair.Options) : Graph × Repair.Outcome :=
  let categories := graph.categories
  let overridden := overrideCategories categories graph
  let corrected := correctWords overridden.value
  let aimed := aimAll options corrected.value
  let signed := correctSigns corrected.value
  let completed := completeAll options.fill categories signed.value
  (completed.value,
    ⟨overridden.log ++ corrected.log ++ aimed.log ++ signed.log ++ completed.log, aimed.value⟩)

end DecisionGraph

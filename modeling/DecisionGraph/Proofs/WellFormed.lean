import DecisionGraph.Limits
import DecisionGraph.Proofs.Fit
import DecisionGraph.Text.GoalNumber
import Mathlib.Data.List.Forall2
import Mathlib.Logic.Relation

/-!
Well-formed decision graphs, said without passes, positions and searches: only with the nodes, the
edges and the walks along them.
-/

namespace DecisionGraph

open Relation

/-- The factor has a number one can work with. -/
def Node.IsMeasured (node : Node) : Prop :=
  ∃ data value, node.factorData? = some data ∧ data.value = some value ∧ value.isFinite = true

theorem Node.isFactor_of_declared {node : Node} {category : Category}
    (claim : node.declaredCategory? = some category) : node.isFactor = true := by
  unfold declaredCategory? at claim
  unfold isFactor kind
  cases body : node.body <;> simp_all [NodeBody.kind]

def Node.numbers (node : Node) : List Float :=
  match node.body with
  | .factor _ (some data) => data.value.toList ++ data.baseline.toList
  | .option (some settings) => settings.entries.map (·.2.toFloat)
  | _ => []

def Edge.numbers (edge : Edge) : List Float :=
  edge.mean :: (edge.deviation.toList ++ edge.beliefExists.toList ++ edge.belief.toList)

/-- The same factor is set to the same value, where zero has no sign. -/
def SameSetting (first second : String × Double) : Prop :=
  first.1 = second.1 ∧ (first.2.bits = second.2.bits ∨
    ((first.2.toFloat == 0) = true ∧ (second.2.toFloat == 0) = true))

namespace Graph

variable (graph : Graph)

def Joins (source target : String) : Prop :=
  ∃ edge ∈ graph.edges, edge.source = source ∧ edge.target = target

def Steered (id : String) : Prop :=
  ∃ option ∈ graph.nodes, option.kind = .option ∧ graph.Joins option.id id

/-- The node is a factor of the category, as edges and data have it. -/
def Infers (node : Node) (category : Category) : Prop :=
  node.kind = .factor ∧
    match category with
    | .controllable => graph.Steered node.id
    | .observable => ¬ graph.Steered node.id ∧ node.IsMeasured
    | .external => ¬ graph.Steered node.id ∧ ¬ node.IsMeasured

/-- The connections that an edge may make. -/
inductive Connects (source target : Node) : Prop
  | choice (chooser : source.kind = .decision) (chosen : target.kind = .option)
  | setting (chosen : source.kind = .option) (set : graph.Infers target .controllable)
  | influence (cause : source.kind = .factor)
      (effect : graph.Infers target .observable ∨ graph.Infers target .external)
  | result (cause : source.kind = .factor) (effect : target.kind = .outcome ∨ target.kind = .risk)
  | verdict (effect : source.kind = .outcome ∨ source.kind = .risk) (goal : target.kind = .goal)

structure WellFormed (limits : Limits) : Prop where
  oneGoal : graph.countKind .goal = 1
  oneDecision : graph.countKind .decision = 1
  options : limits.minOptions ≤ graph.countKind .option ∧
    graph.countKind .option ≤ limits.maxOptions
  bridge : ∃ node ∈ graph.nodes, node.kind = .outcome ∨ node.kind = .risk
  nodes : graph.nodes.length ≤ limits.nodes
  edges : graph.edges.length ≤ limits.edges
  distinct : (graph.nodes.map Node.id).Nodup
  declared : ∀ edge ∈ graph.edges,
    (∃ node ∈ graph.nodes, node.id = edge.source) ∧ ∃ node ∈ graph.nodes, node.id = edge.target
  acyclic : ∀ id, ¬ TransGen graph.Joins id id
  sink : ∀ goal ∈ graph.nodes, goal.kind = .goal → ∀ id, ¬ graph.Joins goal.id id
  source : ∀ decision ∈ graph.nodes, decision.kind = .decision → ∀ id, ¬ graph.Joins id decision.id
  connected : ∀ source ∈ graph.nodes, ∀ target ∈ graph.nodes, graph.Joins source.id target.id →
    graph.Connects source target
  /-- Factors that no option sets need no walk from the decision. -/
  reached : ∀ decision ∈ graph.nodes, decision.kind = .decision → ∀ node ∈ graph.nodes,
    ReflTransGen graph.Joins decision.id node.id ∨ graph.Infers node .observable ∨
      graph.Infers node .external
  reaching : ∀ goal ∈ graph.nodes, goal.kind = .goal → ∀ node ∈ graph.nodes,
    node.kind ≠ .decision → ReflTransGen graph.Joins node.id goal.id
  fitting : ∀ node ∈ graph.nodes, ∀ category, graph.Infers node category →
    Payload.Fits node.factorData? category
  claims : ∀ node ∈ graph.nodes, ∀ category, node.declaredCategory? = some category →
    graph.Infers node category
  settings : ∀ option ∈ graph.nodes, ∀ setting ∈ option.settings,
    ∃ factor ∈ graph.nodes, factor.kind = .factor ∧ factor.id = setting.1
  effects : ∀ goal ∈ graph.nodes, goal.kind = .goal →
    ∀ option ∈ graph.nodes, option.kind = .option →
      ∃ factor ∈ graph.nodes, factor.kind = .factor ∧
        (factor.id ∈ option.settings.map (·.1) ∨ graph.Joins option.id factor.id) ∧
        ReflTransGen graph.Joins factor.id goal.id
  choices : graph.nodes.Pairwise fun first second => first.kind = .option → second.kind = .option →
    ¬ List.Forall₂ SameSetting first.settings second.settings
  labels : ∀ node ∈ graph.nodes, node.kind = .factor → GoalNumber.isGoalNumber node.label = true →
    graph.Infers node .controllable ∨ node.declaredCategory? = some .controllable
  scaffold : ∀ source ∈ graph.nodes, ∀ target ∈ graph.nodes, source.kind = .option →
    target.kind = .factor → ∀ edge ∈ graph.edges, edge.source = source.id →
      edge.target = target.id → edge.isScaffold = true
  finite : (∀ node ∈ graph.nodes, ∀ number ∈ node.numbers, number.isFinite = true) ∧
    ∀ edge ∈ graph.edges, ∀ number ∈ edge.numbers, number.isFinite = true

end Graph

end DecisionGraph

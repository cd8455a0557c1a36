import DecisionGraph.Survey
import Mathlib.Data.List.Basic

/-!
The outline of a graph: what is left when every field that a repair may write is wiped. Links,
categories, walks and cycles are read off the outline, so they cannot change in a repair.
-/

namespace DecisionGraph

/-- A factor keeps its numbers; whether there was a data object does not count. -/
def NodeBody.outline : NodeBody → NodeBody
  | factor _ data =>
    factor none (some ⟨data.bind FactorData.value, data.bind FactorData.baseline, none, none, none⟩)
  | body => body

def Node.outline (node : Node) : Node := { node with body := node.body.outline }

def Edge.outline (edge : Edge) : Edge := { edge with direction := none }

def Graph.outline (graph : Graph) : Graph :=
  { graph with nodes := graph.nodes.map Node.outline, edges := graph.edges.map Edge.outline }

namespace Node

variable (node : Node)

@[simp] theorem id_outline : node.outline.id = node.id := rfl

@[simp] theorem label_outline : node.outline.label = node.label := rfl

@[simp] theorem kind_outline : node.outline.kind = node.kind := by
  unfold kind outline
  cases node.body <;> rfl

@[simp] theorem isFactor_outline : node.outline.isFactor = node.isFactor := by
  simp [isFactor]

@[simp] theorem settings?_outline : node.outline.settings? = node.settings? := by
  unfold settings? outline
  cases node.body <;> rfl

@[simp] theorem settings_outline : node.outline.settings = node.settings := by
  simp [settings]

theorem finiteValue?_outline :
    node.outline.factorData?.bind FactorData.finiteValue? =
      node.factorData?.bind FactorData.finiteValue? := by
  unfold factorData? outline
  cases node.body with
  | factor category data => cases data <;> rfl
  | _ => rfl

end Node

namespace Graph

variable (graph : Graph)

theorem nodes_outline : graph.outline.nodes = graph.nodes.map Node.outline := rfl

theorem edges_outline : graph.outline.edges = graph.edges.map Edge.outline := rfl

@[simp] theorem length_nodes_outline : graph.outline.nodes.length = graph.nodes.length := by
  simp [nodes_outline]

@[simp] theorem position?_outline (id : String) :
    graph.outline.position? id = graph.position? id := by
  rw [position?, nodes_outline, List.findIdx?_map]
  rfl

@[simp] theorem kindAt?_outline (position : Nat) :
    graph.outline.kindAt? position = graph.kindAt? position := by
  simp [kindAt?, nodes_outline, Function.comp_def]

@[simp] theorem idAt_outline (position : Nat) :
    graph.outline.idAt position = graph.idAt position := by
  simp [idAt, nodes_outline, Function.comp_def]

theorem countKind_outline (kind : NodeKind) :
    graph.outline.countKind kind = graph.countKind kind := by
  simp [countKind, nodes_outline, List.filter_map, Function.comp_def]

theorem live_outline :
    graph.outline.live = graph.live.map fun entry => (entry.1.outline, entry.2) := by
  simp only [live, nodes_outline, List.zipIdx_map, List.filter_map, position?_outline]
  rfl

@[simp] theorem liveOfKind_outline (kind : NodeKind) :
    graph.outline.liveOfKind kind = graph.liveOfKind kind := by
  simp [liveOfKind, live_outline, List.filter_map, Function.comp_def]

@[simp] theorem uniqueOfKind?_outline (kind : NodeKind) :
    graph.outline.uniqueOfKind? kind = graph.uniqueOfKind? kind := by
  simp [uniqueOfKind?]

theorem endsOf?_outline (edge : Edge) :
    graph.outline.endsOf? edge.outline = graph.endsOf? edge := by
  simp only [endsOf?, position?_outline]
  rfl

@[simp] theorem links_outline : graph.outline.links = graph.links := by
  simp only [links, edges_outline, List.zipIdx_map, List.filterMap_map]
  refine List.filterMap_congr fun entry _ => ?_
  simp [Prod.map, endsOf?_outline]

theorem categoryOf_outline (links : List Link) (node : Node) (position : Nat) :
    graph.outline.categoryOf links node.outline position =
      graph.categoryOf links node position := by
  have parents : graph.outline.hasOptionParent links position =
      graph.hasOptionParent links position := by
    simp [hasOptionParent]
  have value := node.finiteValue?_outline
  unfold categoryOf
  rw [parents]
  unfold Node.factorData? Node.outline at value
  unfold Node.outline
  cases body : node.body with
  | factor category data =>
      simp only [body] at value
      simp only [NodeBody.outline] at value ⊢
      rw [value]
  | _ => rfl

@[simp] theorem categories_outline : graph.outline.categories = graph.categories := by
  simp only [categories, links_outline, nodes_outline, List.zipIdx_map, List.map_map]
  refine List.map_congr_left fun entry _ => ?_
  simp [Prod.map, categoryOf_outline]

end Graph

@[simp] theorem Cycle.find_outline (graph : Graph) :
    Cycle.find graph.outline = Cycle.find graph := by
  simp [Cycle.find, Graph.live_outline, Function.comp_def]

theorem Survey.ofGraph_outline (graph : Graph) :
    Survey.ofGraph graph.outline = { Survey.ofGraph graph with graph := graph.outline } := by
  simp [Survey.ofGraph]

end DecisionGraph

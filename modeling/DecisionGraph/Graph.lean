import DecisionGraph.Node
import DecisionGraph.Edge
import DecisionGraph.Json.Reader
import DecisionGraph.Json.Printer
import DecisionGraph.Digest.Sha256

/-!
Decision graphs: nodes and edges as they are listed, and notes that nothing here interprets.
-/

namespace DecisionGraph

structure Graph where
  nodes : List Node
  edges : List Edge
  notes : SortedMap Json

namespace Graph

def empty : Graph := ⟨[], [], .empty⟩

def ofLists (nodes : List Node) (edges : List Edge) : Graph := ⟨nodes, edges, .empty⟩

def countKind (graph : Graph) (kind : NodeKind) : Nat :=
  (graph.nodes.filter fun node => node.kind = kind).length

def json (graph : Graph) : Json := .record [
  Json.always "nodes" (.array (graph.nodes.map Node.json)),
  Json.always "edges" (.array (graph.edges.map Edge.json)),
  if graph.notes.entries.isEmpty then [] else Json.always "meta" (.object graph.notes.entries)]

def decode : Decoder Graph := fun source _ =>
  source.record ["nodes", "edges", "meta"] fun slots =>
    Graph.mk
      <$> slots.withDefault "nodes" [] (Decode.list Node.decode)
      <*> slots.withDefault "edges" [] (Decode.list Edge.decode)
      <*> slots.withDefault "meta" .empty (Decode.map Decode.json)

def text (graph : Graph) : String := graph.json.compactText

def fingerprint (graph : Graph) : String := Sha256.hexDigest graph.text

end Graph

end DecisionGraph

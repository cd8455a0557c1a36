import DecisionGraph.Edge
import DecisionGraph.Node
import DecisionGraph.Repair.Logged

/-!
Foreign words become words of their vocabulary. What is absent stays absent.
-/

namespace DecisionGraph.Repair

/-- The words that foreign ones become. -/
def fallbackType : FactorType := .other
def fallbackExtraction : Extraction := .inferred
def fallbackDirection : Direction := .positive

/-- Puts `fallback` in the place of a foreign word. -/
def correctTerm {α : Type} [Vocabulary α] (fallback : α) (target : Target) (field : String) :
    Option (Term α) → Logged (Option (Term α))
  | some (.foreign text) =>
    ⟨some (.word fallback),
      [.ofCode .enumValidation .enumValueCorrected target field (.string text)
        (Vocabulary.json fallback)]⟩
  | term => .unchanged term

def correctData (id : String) (data : FactorData) : Logged FactorData :=
  (correctTerm fallbackType (.node id) "data.factor_type" data.factorType).andThen
    fun factorType =>
      (correctTerm fallbackExtraction (.node id) "data.extractionType" data.extraction).map
        fun extraction => { data with factorType, extraction }

def correctNode (node : Node) : Logged Node :=
  match node.body with
  | .factor category (some data) =>
    (correctData node.id data).map fun data => { node with body := .factor category (some data) }
  | _ => .unchanged node

def edgeTarget (edge : Edge) (position : Nat) : Target :=
  .edge position edge.source edge.target

def correctEdge (edge : Edge) (position : Nat) : Logged Edge :=
  (correctTerm fallbackDirection (edgeTarget edge position) "effect_direction"
    edge.direction).map fun direction => { edge with direction }

end DecisionGraph.Repair

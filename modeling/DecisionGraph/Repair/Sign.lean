import DecisionGraph.Repair.Word

/-!
The sign of a mean wins over the stated direction.
-/

namespace DecisionGraph.Repair

def correctSign (edge : Edge) (position : Nat) : Logged Edge :=
  match edge.direction, Direction.ofMean? edge.mean with
  | some (.word declared), some implied =>
    if declared = implied then .unchanged edge
    else
      ⟨{ edge with direction := some (.word implied) },
        [.ofCode .signReconciliation .signCorrected (edgeTarget edge position) "effect_direction"
          (Vocabulary.json declared) (Vocabulary.json implied)]⟩
  | _, _ => .unchanged edge

end DecisionGraph.Repair

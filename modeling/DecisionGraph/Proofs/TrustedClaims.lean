import DecisionGraph.Proofs.NoWorse
import DecisionGraph.Proofs.Paths
import DecisionGraph.Proofs.Relisted
import DecisionGraph.Sample

/-!
Whether a repair leaves a claim to be controllable alone. A check trusts the claim, but a repair
gives the factor the category that the structure gives it, and the check comes after the repair. So
the claim keeps a label from being read as a goal just where the structure bears it out.
-/

namespace DecisionGraph

theorem Survey.mem_goalNumbers_of_code {graph : Graph} {limits : Limits} {finding : Finding}
    (found : finding ∈ (ofGraph graph).findings limits)
    (code : finding.code = .goalNumberAsFactor) : finding ∈ (ofGraph graph).goalNumbers := by
  have passed := mem_passesOf found
  rw [code] at passed
  rcases List.mem_append.mp passed with passed | loose
  · rcases List.mem_append.mp passed with chosen | labelled
    · rcases form_of_mem_choice chosen with ⟨_, _, _, _, rfl⟩ | ⟨_, _, _, rfl⟩ | ⟨_, _, rfl⟩
      · cases code
      · cases code
      · cases code
    · exact labelled
  · obtain ⟨_, _, rfl | rfl⟩ := form_of_mem_looseScaffold loose
    · cases code
    · cases code

namespace Graph

variable {graph : Graph} {limits : Limits} {node : Node} {position : Nat}

theorem names_goalNumber_iff :
    (graph.check limits).Names .goalNumberAsFactor (.nodeField position "label") ↔
      ∃ node, (node, position) ∈ graph.live ∧ node.isFactor = true ∧
        graph.category? position ≠ some .controllable ∧
        node.declaredCategory? ≠ some .controllable ∧
        GoalNumber.isGoalNumber node.label = true := by
  rw [names_check_iff]
  constructor
  · rintro ⟨finding, found, code, place⟩
    obtain ⟨node, other, live, isFactor, inferred, declared, named, rfl⟩ :=
      Survey.mem_goalNumbers.mp (Survey.mem_goalNumbers_of_code found code)
    cases place
    exact ⟨node, live, isFactor, inferred, declared, named⟩
  · rintro ⟨node, live, isFactor, inferred, declared, named⟩
    have found : .goalNumber position node.id node.label ∈ (Survey.ofGraph graph).goalNumbers :=
      Survey.mem_goalNumbers.mpr
        ⟨node, position, live, isFactor, inferred, declared, named, rfl⟩
    exact ⟨.goalNumber position node.id node.label, Survey.mem_findings.mpr (by simp [found]), rfl,
      rfl⟩

/-- The nodes of a repaired graph that their ids find are those of the graph before. -/
theorem mem_live_mended_iff {wanted : Bool} :
    (node, position) ∈ (graph.mended wanted).live ↔
      ∃ before, (before, position) ∈ graph.live ∧
        node = before.mended wanted (graph.category? position) := by
  constructor
  · exact mem_live_mended
  · rintro ⟨before, live, rfl⟩
    obtain ⟨listed, found⟩ := mem_live_iff.mp live
    refine mem_live_iff.mpr ⟨by simp [getElem?_nodes_mended, listed], ?_⟩
    rw [position?_mended, Node.id_mended, found]

/-- After a repair a factor claims the category that the structure gives it. -/
theorem declaredCategory?_mended {wanted : Bool} (live : (node, position) ∈ graph.live)
    (isFactor : node.isFactor = true) :
    (node.mended wanted (graph.category? position)).declaredCategory? =
      graph.category? position := by
  have known := (category?_isSome_iff (mem_live_iff.mp live).1).mpr isFactor
  obtain ⟨category, inferred⟩ := Option.isSome_iff_exists.mp known
  rw [inferred]
  obtain ⟨id, label, body⟩ := node
  cases body with
  | factor declared data => rfl
  | _ => cases isFactor

theorem names_goalNumber_mended_iff {wanted : Bool} (live : (node, position) ∈ graph.live)
    (isFactor : node.isFactor = true) :
    ((graph.mended wanted).check limits).Names .goalNumberAsFactor
        (.nodeField position "label") ↔
      graph.category? position ≠ some .controllable ∧
        GoalNumber.isGoalNumber node.label = true := by
  rw [names_goalNumber_iff]
  simp only [mem_live_mended_iff, category?_mended]
  constructor
  · rintro ⟨_, ⟨before, earlier, rfl⟩, -, inferred, -, named⟩
    cases eq_of_live earlier live
    rw [Node.label_mended] at named
    exact ⟨inferred, named⟩
  · rintro ⟨inferred, named⟩
    refine ⟨_, ⟨node, live, rfl⟩, ?_, inferred, ?_, ?_⟩
    · rw [Node.isFactor_mended, isFactor]
    · rwa [declaredCategory?_mended live isFactor]
    · rwa [Node.label_mended]

/-- A factor that claims to be controllable is told to be a goal after a repair just where the
structure gives it another category, so that the repair overwrites the claim, and its label looks
like a goal. -/
theorem trusted_after_repair_iff (options : Repair.Options) (limits : Limits)
    (live : (node, position) ∈ graph.live)
    (claimed : node.declaredCategory? = some .controllable) :
    (graph.prepare (some options) limits).2.report.Names .goalNumberAsFactor
        (.nodeField position "label") ↔
      graph.category? position ≠ some .controllable ∧
        GoalNumber.isGoalNumber node.label = true := by
  rw [report_prepare]
  exact names_goalNumber_mended_iff live (node.isFactor_of_declared claimed)

end Graph

namespace Sample

/-- It claims to be controllable, but no option sets it. -/
def trusted : Node := ⟨"fac_trusted", "Hit $5M target", .factor (some .controllable) none⟩

def trusting : Graph :=
  (minimal.pushNode trusted).pushEdge (.causal "fac_trusted" "out_revenue" 0.3 0.1 0.7)

theorem trusted_live : (trusted, 6) ∈ trusting.live := by decide

end Sample

/-- The price is controllable as it claims; the other factor is not, and is told to be a goal. -/
theorem Graph.trusted_after_repair_trusting :
    let report := (Sample.trusting.prepare (some .standard) .standard).2.report
    ¬ report.Names .goalNumberAsFactor (.nodeField 1 "label") ∧
      report.Names .goalNumberAsFactor (.nodeField 6 "label") := by
  have price : (Sample.price, 1) ∈ Sample.trusting.live := by decide
  constructor
  · intro reported
    exact ((trusted_after_repair_iff .standard .standard price rfl).mp reported).1 (by decide)
  · exact (trusted_after_repair_iff .standard .standard Sample.trusted_live rfl).mpr
      ⟨by decide, by decide +kernel⟩

theorem Graph.untrusted_after_repair :
    ¬ ∀ (graph : Graph) (options : Repair.Options) (limits : Limits) (node : Node) (position : Nat),
      (node, position) ∈ graph.live → node.declaredCategory? = some .controllable →
        ¬ (graph.prepare (some options) limits).2.report.Names .goalNumberAsFactor
          (.nodeField position "label") := by
  intro trusting
  apply trusting Sample.trusting .standard .standard _ 6 Sample.trusted_live rfl
  rw [report_prepare]
  exact (names_goalNumber_mended_iff Sample.trusted_live rfl).mpr ⟨by decide, by decide +kernel⟩

end DecisionGraph

import DecisionGraph.Proofs.Position
import DecisionGraph.Proofs.Settled
import DecisionGraph.Session

/-!
One repair is enough: whatever repairs follow it, alone or on the way to a check, they log nothing,
change nothing and answer the same.
-/

namespace DecisionGraph

open Repair

namespace Repair

/-- A candidate is made of a live node whose id is of the family. -/
theorem exists_live_of_candidate {graph : Graph} {labels : SortedMap String} {family : String}
    {candidate : Candidate} (member : candidate ∈ candidates graph labels family) :
    ∃ node position stem, (node, position) ∈ graph.live ∧
      familyAndStem? node.id = some (family, stem) ∧
      candidate = ⟨node.id, lowerText stem.toList, (labels.get? node.id).getD node.label⟩ := by
  obtain ⟨⟨node, position⟩, live, fits⟩ := List.mem_filterMap.mp member
  dsimp only at fits
  split at fits
  · next other stem parts =>
    split at fits
    · next same =>
      subst same
      exact ⟨node, position, stem, live, parts, (Option.some.inj fits).symm⟩
    · cases fits
  · cases fits

theorem candidate_declared {graph : Graph} {labels : SortedMap String} {family : String}
    {candidate : Candidate} (member : candidate ∈ candidates graph labels family) :
    (graph.position? candidate.id).isSome = true := by
  obtain ⟨node, position, _, live, _, rfl⟩ := exists_live_of_candidate member
  simp [(Graph.mem_live_iff.mp live).2]

theorem choose_mem {stem : List Char} {candidates : List Candidate} {id : String}
    (chosen : choose stem candidates = some id) :
    ∃ candidate ∈ candidates, candidate.id = id := by
  unfold choose at chosen
  split at chosen
  · next only fits =>
    have member : only ∈ candidates.filter (Candidate.fitsStem stem) := by simp [fits]
    exact ⟨only, (List.mem_filter.mp member).1, Option.some.inj chosen⟩
  · cases chosen
  · split at chosen
    · next only fits =>
      have member : only ∈ candidates.filter (Candidate.fitsLabel stem) := by simp [fits]
      exact ⟨only, (List.mem_filter.mp member).1, Option.some.inj chosen⟩
    · cases chosen

theorem aim_declared {graph : Graph} {labels : SortedMap String} {id target : String}
    (aimed : aim graph labels id = some target) : (graph.position? target).isSome = true := by
  unfold aim at aimed
  split at aimed
  · next declared =>
    cases aimed
    exact declared
  · split at aimed
    · cases aimed
    · next family stem split =>
      simp only at aimed
      split at aimed
      · cases aimed
      · obtain ⟨candidate, member, rfl⟩ := choose_mem aimed
        exact candidate_declared member

theorem aimConstraint_of_declared {graph : Graph} (labels : SortedMap String)
    {constraint : Constraint} (declared : (graph.position? constraint.node).isSome = true) :
    aimConstraint graph labels constraint = .unchanged (some constraint) := by
  simp [aimConstraint, aim, declared]

theorem aimConstraint_declared {graph : Graph} {labels : SortedMap String}
    {constraint aimed : Constraint}
    (kept : (aimConstraint graph labels constraint).value = some aimed) :
    (graph.position? aimed.node).isSome = true := by
  unfold aimConstraint at kept
  simp only at kept
  split at kept
  · cases kept
  · next node found =>
    split at kept
    · next same =>
      cases kept
      exact same ▸ aim_declared found
    · cases kept
      exact aim_declared found

theorem aimConstraints_declared {graph : Graph} {labels : SortedMap String}
    {constraints : List Constraint} {aimed : Constraint}
    (kept : aimed ∈ (aimConstraints graph labels constraints).value) :
    (graph.position? aimed.node).isSome = true := by
  obtain ⟨result, member, rfl⟩ := List.mem_filterMap.mp kept
  obtain ⟨constraint, _, value⟩ := List.mem_map.mp member
  exact aimConstraint_declared value

/-- Every constraint names a node of the graph. -/
def Aimed (graph : Graph) (constraints : Option (List Constraint)) : Prop :=
  ∀ list, constraints = some list →
    ∀ constraint ∈ list, (graph.position? constraint.node).isSome = true

theorem aimAll_of_aimed {graph : Graph} {options : Options}
    (aimed : Aimed graph options.constraints) :
    aimAll options graph = .unchanged options.constraints := by
  unfold aimAll
  cases stated : options.constraints with
  | none => rfl
  | some constraints =>
      have each := Logged.each_unchanged (aimConstraint graph options.labels) some constraints
        fun constraint member =>
          aimConstraint_of_declared options.labels (aimed constraints stated constraint member)
      simp [aimConstraints, each, Logged.map, Logged.unchanged]

end Repair

namespace Graph

theorem aimed_repair (graph : Graph) (options : Repair.Options) :
    Aimed (graph.repair options).1 (graph.repair options).2.constraints := by
  -- Constraints are aimed at the graph as it stands after two rules; its ids are the final ones.
  have ids (id : String) :
      (correctWords (overrideCategories graph.categories graph).value).value.position? id =
        (graph.mended options.fill).position? id := by
    rw [position?_mended, ← position?_mended graph false]
    exact position?_congr (congrArg (List.map Node.id) (graph.nodes_nodeRules false)) id
  intro list kept constraint member
  rw [value_repair, ← ids]
  change (aimAll options _).value = some list at kept
  unfold aimAll at kept
  split at kept
  · cases kept
  · cases kept
    exact aimConstraints_declared member

theorem repair_of_settled {graph : Graph} {options : Repair.Options}
    (settled : graph.Settled options.fill) (aimed : Aimed graph options.constraints) :
    graph.repair options = (graph, ⟨[], options.constraints⟩) := by
  unfold repair
  simp [overrideCategories_of_settled settled, correctWords_of_settled settled,
    aimAll_of_aimed aimed, correctSigns_of_settled settled, completeAll_of_settled settled]

theorem repair_repair (graph : Graph) (options : Repair.Options) :
    (graph.repair options).1.repair (options.after (graph.repair options).2) =
      ((graph.repair options).1, ⟨[], (graph.repair options).2.constraints⟩) := by
  refine repair_of_settled ?_ (graph.aimed_repair options)
  rw [value_repair]
  exact graph.settled_mended options.fill

end Graph

namespace Session

/-- Takes step after step; a refused step is answered and passed over. -/
def run (session : Session) : List Step → List (Except Refusal Answer) × Session
  | [] => ([], session)
  | step :: steps =>
    match session.take step with
    | .ok (answer, next) => (.ok answer :: (next.run steps).1, (next.run steps).2)
    | .error refusal => (.error refusal :: (session.run steps).1, (session.run steps).2)

/-- The steps that repair the graph of a session in place. -/
inductive Renewal
  | repair
  | prepare

def Renewal.step : Renewal → Step
  | repair => .repair
  | prepare => .prepare true

def renewed (session : Session) : Session :=
  { session with
    graph := (session.graph.repair session.options).1
    options := session.options.after (session.graph.repair session.options).2 }

def readiness (session : Session) : Readiness :=
  (session.graph.prepare (some session.options) session.limits).2

theorem take_repair (session : Session) :
    session.take .repair =
      .ok (.repaired (session.graph.repair session.options).2, session.renewed) := rfl

theorem take_prepare (session : Session) :
    session.take (.prepare true) = .ok (.readiness session.readiness, session.renewed) := rfl

theorem renewed_renewed (session : Session) : session.renewed.renewed = session.renewed := by
  have again := session.graph.repair_repair session.options
  simp only [renewed, again]
  rfl

theorem readiness_renewed (session : Session) :
    session.renewed.readiness = { session.readiness with mutations := [] } := by
  have again := session.graph.repair_repair session.options
  simp only [readiness, renewed, Graph.prepare, again]
  rfl

/-- What a renewal answers when nothing is left to do. -/
def Renewal.answer (outcome : Repair.Outcome) (readiness : Readiness) : Renewal → Answer
  | repair => .repaired { outcome with mutations := [] }
  | prepare => .readiness { readiness with mutations := [] }

theorem take_renewal_renewed (session : Session) (call : Renewal) :
    session.renewed.take call.step =
      .ok (call.answer (session.graph.repair session.options).2 session.readiness,
        session.renewed) := by
  cases call with
  | repair =>
      rw [Renewal.step, take_repair, renewed_renewed]
      have again := session.graph.repair_repair session.options
      simp only [renewed, again]
      rfl
  | prepare => rw [Renewal.step, take_prepare, renewed_renewed, readiness_renewed, Renewal.answer]

/-- After one renewal, repairing and preparing in any order and number leave the session alone, log
nothing and answer what the first renewal answered. -/
theorem renewals_settle (session : Session) (calls : List Renewal) :
    ∃ outcome readiness settled,
      session.take .repair = .ok (.repaired outcome, settled) ∧
      session.take (.prepare true) = .ok (.readiness readiness, settled) ∧
      settled.run (calls.map Renewal.step) =
        (calls.map fun call => .ok (call.answer outcome readiness), settled) := by
  refine ⟨_, _, _, session.take_repair, session.take_prepare, ?_⟩
  induction calls with
  | nil => rfl
  | cons call calls ih => simp only [List.map_cons, run, take_renewal_renewed, ih]

end Session

end DecisionGraph

import DecisionGraph.Proofs.EffectReport

/-!
Errors that never stand alone. Edges that leave a goal or enter a decision are misplaced. An option
without effect does not lead to the goal, or its walk there begins with a misplaced edge.
-/

namespace DecisionGraph

open Relation

namespace Survey

variable (survey : Survey) (limits : Limits)

theorem findings_goalHasOutgoing :
    ((survey.findings limits).filter fun finding => finding.code = .goalHasOutgoing) =
      survey.leftGoals := by
  rw [filter_code_topology _ _ rfl, filter_code_wiring]
  simp

theorem findings_decisionHasIncoming :
    ((survey.findings limits).filter fun finding => finding.code = .decisionHasIncoming) =
      survey.enteredDecisions := by
  rw [filter_code_topology _ _ rfl, filter_code_wiring]
  simp

theorem findings_invalidEdgeType :
    ((survey.findings limits).filter fun finding => finding.code = .invalidEdgeType) =
      survey.misplacedEdges := by
  rw [filter_code_topology _ _ rfl, filter_code_wiring]
  simp

end Survey

namespace Graph

variable {graph : Graph} {limits : Limits} {position edge source target : Nat}

/-- No edge may leave a goal or enter a decision, and an option may lead to factors only. -/
theorem fits_of_allows {first second : Node} (live : (first, source) ∈ graph.live)
    (also : (second, target) ∈ graph.live) :
    ∃ role other, (Survey.ofGraph graph).role? source = some role ∧
      (Survey.ofGraph graph).role? target = some other ∧
      (role.allows other = true → first.kind ≠ .goal ∧ second.kind ≠ .decision ∧
        (first.kind = .option → second.kind = .factor)) := by
  rw [Survey.role?, Survey.role?, Survey.kindAt?_of_live live, Survey.kindAt?_of_live also]
  refine ⟨_, _, rfl, rfl, ?_⟩
  cases first.kind <;> cases second.kind <;> simp [Role.allows]

/-- An edge is reported as misplaced unless its ends fit. -/
theorem misplaced_or_fits (limits : Limits)
    (linked : graph.endpoints? edge = some (source, target)) :
    (graph.check limits).Names .invalidEdgeType (.edge edge) ∨
      ∃ first second, (first, source) ∈ graph.live ∧ (second, target) ∈ graph.live ∧
        first.kind ≠ .goal ∧ second.kind ≠ .decision ∧
        (first.kind = .option → second.kind = .factor) := by
  have link : ⟨edge, source, target⟩ ∈ graph.links := endpoints?_eq_some_iff.mp linked
  obtain ⟨_, _, starts, stops⟩ := mem_links_iff.mp link
  obtain ⟨first, live, _⟩ := live_of_position? starts
  obtain ⟨second, also, _⟩ := live_of_position? stops
  obtain ⟨role, other, here, there, fits⟩ := fits_of_allows live also
  cases allowed : role.allows other with
  | true => exact .inr ⟨first, second, live, also, fits allowed⟩
  | false =>
      left
      rw [names_iff_of_filter (Survey.findings_invalidEdgeType _ limits)]
      have found := Survey.mem_misplacedEdges.mpr
        ⟨_, link, role, other, here, there, allowed, rfl⟩
      exact ⟨_, found, rfl⟩

theorem goal_of_left
    (named : (graph.check limits).Names .goalHasOutgoing (.node position)) :
    (∃ goal, (goal, position) ∈ graph.live ∧ goal.kind = .goal) ∧
      ∃ edge target, graph.endpoints? edge = some (position, target) := by
  rw [names_iff_of_filter (Survey.findings_goalHasOutgoing _ limits)] at named
  obtain ⟨finding, found, place⟩ := named
  obtain ⟨other, listed, linked, ids, rfl⟩ := Survey.form_of_mem_leftGoals found
  cases place
  refine ⟨mem_liveOfKind_iff.mp listed, ?_⟩
  obtain ⟨link, leaves⟩ := List.exists_mem_of_ne_nil _ linked
  obtain ⟨member, same⟩ := List.mem_filter.mp leaves
  cases of_decide_eq_true same
  exact ⟨link.edge, link.target, endpoints?_eq_some_iff.mpr member⟩

theorem decision_of_entered
    (named : (graph.check limits).Names .decisionHasIncoming (.node position)) :
    (∃ decision, (decision, position) ∈ graph.live ∧ decision.kind = .decision) ∧
      ∃ edge source, graph.endpoints? edge = some (source, position) := by
  rw [names_iff_of_filter (Survey.findings_decisionHasIncoming _ limits)] at named
  obtain ⟨finding, found, place⟩ := named
  obtain ⟨other, listed, linked, ids, rfl⟩ := Survey.form_of_mem_enteredDecisions found
  cases place
  refine ⟨mem_liveOfKind_iff.mp listed, ?_⟩
  obtain ⟨link, enters⟩ := List.exists_mem_of_ne_nil _ linked
  obtain ⟨member, same⟩ := List.mem_filter.mp enters
  cases of_decide_eq_true same
  exact ⟨link.edge, link.source, endpoints?_eq_some_iff.mpr member⟩

/-- The first step of a walk from a live node. -/
theorem exists_endpoints?_of_resolved {node : Node} {next : String}
    (live : (node, position) ∈ graph.live) (resolved : graph.Resolved node.id next) :
    ∃ edge target other, graph.endpoints? edge = some (position, target) ∧
      (other, target) ∈ graph.live ∧ other.id = next := by
  obtain ⟨declared, member, source, aimed, _, known⟩ := resolved
  obtain ⟨edge, listed⟩ := List.mem_iff_getElem?.mp member
  obtain ⟨target, found⟩ := Option.isSome_iff_exists.mp known
  obtain ⟨other, also, same⟩ := live_of_position? found
  refine ⟨edge, target, other, endpoints?_eq_some_iff.mpr (mem_links_iff.mpr ?_), also, same⟩
  exact ⟨declared, listed, by rw [source, (mem_live_iff.mp live).2], by rw [aimed, found]⟩

/-- An option without effect does not lead to the goal, or one of its edges is misplaced: a walk to
the goal begins at a factor if its first edge is well placed, and then the option has an effect. -/
theorem stranded_or_misplaced_of_idle
    (named : (graph.check limits).Names .noEffectPath (.node position)) :
    (graph.check limits).Names .noPathToGoal (.node position) ∨
      ∃ edge target, graph.endpoints? edge = some (position, target) ∧
        (graph.check limits).Names .invalidEdgeType (.edge edge) := by
  obtain ⟨option, place, live, kind, ⟨goal, sole, missing⟩, same⟩ :=
    (pinpoints_idle graph limits).names_iff.mp named
  cases same
  by_cases reaches : graph.Reaches option.id goal.id
  · right
    rcases ReflTransGen.cases_head reaches with same | ⟨next, first, rest⟩
    · obtain ⟨stop, stops⟩ := sole.live
      cases eq_of_live_of_id live stops same
      cases kind.symm.trans ((sole.only option position live).mpr rfl)
    · obtain ⟨edge, target, factor, linked, also, same⟩ := exists_endpoints?_of_resolved live first
      refine ⟨edge, target, linked, ?_⟩
      rcases misplaced_or_fits limits linked with misplaced | ⟨one, two, here, there, _, _, fits⟩
      · exact misplaced
      · cases eq_of_live here live
        cases eq_of_live there also
        subst same
        have affects : graph.Affects option factor.id :=
          ⟨(hasFactor_iff_of_live also).mpr (fits kind), .inr first⟩
        exact absurd rest (missing factor.id affects)
  · left
    exact stranded_iff.mpr ⟨goal, option, sole, live, by simp [kind], reaches⟩

/-- Some errors never stand alone. A goal that is left and a decision that is entered come with a
misplaced edge for each edge that does so. An option without effect comes with a missing path to the
goal or with a misplaced edge that leaves the option. -/
theorem errors_accompanied (graph : Graph) (limits : Limits) (position : Nat) :
    ((graph.check limits).Names .goalHasOutgoing (.node position) →
      (∃ edge target, graph.endpoints? edge = some (position, target)) ∧
      ∀ edge target, graph.endpoints? edge = some (position, target) →
        (graph.check limits).Names .invalidEdgeType (.edge edge)) ∧
    ((graph.check limits).Names .decisionHasIncoming (.node position) →
      (∃ edge source, graph.endpoints? edge = some (source, position)) ∧
      ∀ edge source, graph.endpoints? edge = some (source, position) →
        (graph.check limits).Names .invalidEdgeType (.edge edge)) ∧
    ((graph.check limits).Names .noEffectPath (.node position) →
      (graph.check limits).Names .noPathToGoal (.node position) ∨
        ∃ edge target, graph.endpoints? edge = some (position, target) ∧
          (graph.check limits).Names .invalidEdgeType (.edge edge)) := by
  refine ⟨fun named => ?_, fun named => ?_, stranded_or_misplaced_of_idle⟩
  · obtain ⟨⟨goal, live, kind⟩, leaves⟩ := goal_of_left named
    refine ⟨leaves, fun edge target linked => ?_⟩
    rcases misplaced_or_fits limits linked with misplaced | ⟨first, _, here, _, notGoal, _⟩
    · exact misplaced
    · cases eq_of_live here live
      exact absurd kind notGoal
  · obtain ⟨⟨decision, live, kind⟩, enters⟩ := decision_of_entered named
    refine ⟨enters, fun edge source linked => ?_⟩
    rcases misplaced_or_fits limits linked with misplaced | ⟨_, second, _, there, _, notDecision, _⟩
    · exact misplaced
    · cases eq_of_live there live
      exact absurd kind notDecision

end Graph

end DecisionGraph

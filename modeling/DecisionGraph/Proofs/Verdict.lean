import DecisionGraph.Proofs.Content

/-!
A graph is valid just when it is well-formed.
-/

namespace DecisionGraph

theorem IssueCode.severity_of_origin {code : IssueCode} (grave : code.origin ≠ .advisory)
    (checked : code.origin ≠ .reconciliation) : code.severity = .error := by
  cases code <;> first | rfl | exact absurd rfl grave | exact absurd rfl checked

theorem IssueCode.severity_of_advisory {code : IssueCode} (mild : code.origin = .advisory) :
    code.severity ≠ .error := by
  cases code <;> first | decide | cases mild

namespace Survey

variable {survey : Survey} {limits : Limits} {findings : List Finding}

theorem eq_nil_of_grave {origin : Origin} (grave : origin ≠ .advisory ∧ origin ≠ .reconciliation)
    (origins : ∀ finding ∈ findings, finding.code.origin = origin)
    (mild : ∀ finding ∈ findings, finding.code.severity ≠ .error) : findings = [] := by
  refine List.eq_nil_iff_forall_not_mem.mpr fun finding found => ?_
  have known := (origins finding found).symm
  exact mild finding found (IssueCode.severity_of_origin (known ▸ grave.1) (known ▸ grave.2))

end Survey

/-- A graph is valid when the passes that report errors find nothing. -/
theorem Graph.valid_check_iff_passes {graph : Graph} {limits : Limits} :
    (graph.check limits).valid = true ↔
      (Survey.ofGraph graph).census limits = [] ∧ (Survey.ofGraph graph).wiring = [] ∧
        (Survey.ofGraph graph).connection = [] ∧ (Survey.ofGraph graph).data = [] ∧
        (Survey.ofGraph graph).choice = [] ∧ (Survey.ofGraph graph).goalNumbers = [] ∧
        (∀ finding ∈ (Survey.ofGraph graph).looseScaffold, finding.code.origin = .advisory) ∧
        (Survey.ofGraph graph).unfiniteNumbers = [] := by
  simp only [valid_check_iff, Survey.mem_findings]
  constructor
  · intro mild
    refine ⟨?_, ?_, ?_, ?_, ?_, ?_, ?_, ?_⟩
    · exact Survey.eq_nil_of_grave (by decide) (fun _ => Survey.origin_of_mem_census)
        fun finding found => mild finding (by simp [found])
    · exact Survey.eq_nil_of_grave (by decide) (fun _ => Survey.origin_of_mem_wiring)
        fun finding found => mild finding (by simp [found])
    · exact Survey.eq_nil_of_grave (by decide) (fun _ => Survey.origin_of_mem_connection)
        fun finding found => mild finding (by simp [found])
    · exact Survey.eq_nil_of_grave (by decide) (fun _ => Survey.origin_of_mem_data)
        fun finding found => mild finding (by simp [found])
    · exact Survey.eq_nil_of_grave (by decide) (fun _ => Survey.origin_of_mem_choice)
        fun finding found => mild finding (by simp [found])
    · exact Survey.eq_nil_of_grave (by decide) (fun _ => Survey.origin_of_mem_goalNumbers)
        fun finding found => mild finding (by simp [found])
    · intro finding found
      rcases Survey.origin_of_mem_looseScaffold found with grave | advice
      · refine absurd (IssueCode.severity_of_origin ?_ ?_) (mild finding (by simp [found]))
        · simp [grave]
        · simp [grave]
      · exact advice
    · exact Survey.eq_nil_of_grave (by decide) (fun _ => Survey.origin_of_mem_unfiniteNumbers)
        fun finding found => mild finding (by simp [found])
  · rintro ⟨census, wiring, connection, data, choice, numbers, scaffold, finite⟩ finding found
    simp only [census, wiring, connection, data, choice, numbers, finite, List.not_mem_nil,
      false_or] at found
    rcases found with found | found
    · exact IssueCode.severity_of_advisory (scaffold finding found)
    · exact IssueCode.severity_of_advisory (Survey.origin_of_mem_advice found)

namespace Graph

variable {graph : Graph} {limits : Limits}

theorem searched (distinct : (graph.nodes.map Node.id).Nodup)
    (oneGoal : graph.countKind .goal = 1) (oneDecision : graph.countKind .decision = 1) :
    ∃ decision first goal last, graph.nodes[first]? = some decision ∧
      graph.nodes[last]? = some goal ∧ decision.kind = .decision ∧ goal.kind = .goal ∧
      (∀ other ∈ graph.nodes, other.kind = .decision → other = decision) ∧
      (∀ other ∈ graph.nodes, other.kind = .goal → other = goal) ∧
      (Survey.ofGraph graph).reached = some (Reach.forward graph.links graph.nodes.length first) ∧
      (Survey.ofGraph graph).reaching =
        some (Reach.backward graph.links graph.nodes.length last) := by
  obtain ⟨decision, first, starts, listed, kind, only⟩ :=
    uniqueOfKind?_of_count distinct oneDecision
  obtain ⟨goal, last, ends, alsoListed, alsoKind, alsoOnly⟩ :=
    uniqueOfKind?_of_count distinct oneGoal
  exact ⟨decision, first, goal, last, listed, alsoListed, kind, alsoKind, only, alsoOnly,
    by simp [Survey.ofGraph, starts], by simp [Survey.ofGraph, ends]⟩

theorem wellFormed_of_valid (valid : (graph.check limits).valid = true) :
    graph.WellFormed limits := by
  obtain ⟨census, wiring, connection, data, choice, numbers, scaffold, finite⟩ :=
    valid_check_iff_passes.mp valid
  obtain ⟨counts, repeated, undeclared⟩ := Survey.census_eq_nil_iff.mp census
  obtain ⟨oneGoal, oneDecision, options, bridge, nodes, edges⟩ := Survey.counts_eq_nil_iff.mp counts
  have distinct := Survey.repeatedIds_eq_nil_iff.mp repeated
  have declared := Survey.undeclaredEnds_eq_nil_iff.mp undeclared
  have sound : graph.Sound := ⟨distinct, declared⟩
  obtain ⟨decision, first, goal, last, starts, ends, _, _, onlyDecision, onlyGoal, forth, back⟩ :=
    searched distinct oneGoal oneDecision
  obtain ⟨left, entered, misplaced, cycles⟩ := Survey.wiring_eq_nil_iff.mp wiring
  obtain ⟨reached, reaching⟩ :=
    (Survey.connection_eq_nil_iff rfl sound forth back starts ends).mp connection
  obtain ⟨fitting, claims⟩ := (Survey.data_eq_nil_iff rfl sound).mp data
  obtain ⟨effect, identical⟩ := List.append_eq_nil_iff.mp choice
  obtain ⟨settings, effects⟩ := (Survey.effects_eq_nil_iff rfl sound back ends).mp effect
  exact {
    oneGoal, oneDecision, options, bridge, nodes, edges, distinct, declared
    acyclic := (Survey.cycles_eq_nil_iff sound).mp cycles
    sink := (Survey.leftGoals_eq_nil_iff rfl sound).mp left
    source := (Survey.enteredDecisions_eq_nil_iff rfl sound).mp entered
    connected := (Survey.misplacedEdges_eq_nil_iff rfl rfl sound).mp misplaced
    reached := fun other member kind => onlyDecision other member kind ▸ reached
    reaching := fun other member kind => onlyGoal other member kind ▸ reaching
    fitting, claims, settings
    effects := fun other member kind => onlyGoal other member kind ▸ effects
    choices := (Survey.identicalChoices_eq_nil_iff sound).mp identical
    labels := (Survey.goalNumbers_eq_nil_iff rfl sound).mp numbers
    scaffold := (Survey.looseScaffold_advisory_iff rfl sound).mp scaffold
    finite := Survey.unfiniteNumbers_eq_nil_iff.mp finite }

theorem valid_of_wellFormed (formed : graph.WellFormed limits) :
    (graph.check limits).valid = true := by
  have sound : graph.Sound := ⟨formed.distinct, formed.declared⟩
  obtain ⟨decision, first, goal, last, starts, ends, isDecision, isGoal, _, _, forth, back⟩ :=
    searched formed.distinct formed.oneGoal formed.oneDecision
  have decisionMember := List.mem_of_getElem? starts
  have goalMember := List.mem_of_getElem? ends
  refine valid_check_iff_passes.mpr ⟨?_, ?_, ?_, ?_, ?_, ?_, ?_, ?_⟩
  · refine Survey.census_eq_nil_iff.mpr ⟨Survey.counts_eq_nil_iff.mpr ?_, ?_, ?_⟩
    · exact ⟨formed.oneGoal, formed.oneDecision, formed.options, formed.bridge, formed.nodes,
        formed.edges⟩
    · exact Survey.repeatedIds_eq_nil_iff.mpr formed.distinct
    · exact Survey.undeclaredEnds_eq_nil_iff.mpr formed.declared
  · refine Survey.wiring_eq_nil_iff.mpr ⟨?_, ?_, ?_, ?_⟩
    · exact (Survey.leftGoals_eq_nil_iff rfl sound).mpr formed.sink
    · exact (Survey.enteredDecisions_eq_nil_iff rfl sound).mpr formed.source
    · exact (Survey.misplacedEdges_eq_nil_iff rfl rfl sound).mpr formed.connected
    · exact (Survey.cycles_eq_nil_iff sound).mpr formed.acyclic
  · exact (Survey.connection_eq_nil_iff rfl sound forth back starts ends).mpr
      ⟨formed.reached decision decisionMember isDecision, formed.reaching goal goalMember isGoal⟩
  · exact (Survey.data_eq_nil_iff rfl sound).mpr ⟨formed.fitting, formed.claims⟩
  · refine List.append_eq_nil_iff.mpr ⟨?_, ?_⟩
    · exact (Survey.effects_eq_nil_iff rfl sound back ends).mpr
        ⟨formed.settings, formed.effects goal goalMember isGoal⟩
    · exact (Survey.identicalChoices_eq_nil_iff sound).mpr formed.choices
  · exact (Survey.goalNumbers_eq_nil_iff rfl sound).mpr formed.labels
  · exact (Survey.looseScaffold_advisory_iff rfl sound).mpr formed.scaffold
  · exact Survey.unfiniteNumbers_eq_nil_iff.mpr formed.finite

/-- The check finds a graph valid just when the graph is well-formed. -/
theorem valid_check_iff_wellFormed (graph : Graph) (limits : Limits) :
    (graph.check limits).valid = true ↔ graph.WellFormed limits :=
  ⟨wellFormed_of_valid, valid_of_wellFormed⟩

end Graph

end DecisionGraph

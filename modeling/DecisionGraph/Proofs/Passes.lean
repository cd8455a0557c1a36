import DecisionGraph.Check

/-!
Each pass reports only what the table of codes gives it. So an issue with a given code can be traced
back to the one pass that may have found it.
-/

namespace DecisionGraph

theorem Finding.unless_eq_nil_iff {isFine : Bool} {finding : Finding} :
    Finding.unless isFine finding = [] ↔ isFine = true := by
  cases isFine <;> simp [Finding.unless]

theorem Finding.mem_unless {isFine : Bool} {finding found : Finding} :
    found ∈ Finding.unless isFine finding ↔ isFine = false ∧ found = finding := by
  cases isFine <;> simp [Finding.unless]

theorem Finding.nodup_places_unless {isFine : Bool} {finding : Finding} :
    ((Finding.unless isFine finding).map place).Nodup := by
  cases isFine <;> simp [Finding.unless]

namespace Survey

variable {survey : Survey} {finding : Finding}

theorem origin_of_mem_census {limits : Limits} (found : finding ∈ survey.census limits) :
    finding.code.origin = .structural := by
  simp only [census, counts, repeatedIds, undeclaredEnds, List.mem_append, Finding.mem_unless,
    List.mem_filterMap, List.mem_flatMap] at found
  rcases found with (((((((⟨_, rfl⟩ | ⟨_, rfl⟩) | ⟨_, rfl⟩) | ⟨_, rfl⟩) | ⟨_, rfl⟩) | ⟨_, rfl⟩) |
    ⟨_, _, found⟩) | ⟨_, _, _, _, found⟩)
  all_goals try rfl
  · split at found
    · cases found
      rfl
    · cases found
  · split at found
    · cases found
      rfl
    · cases found

theorem filter_code_eq_nil {findings : List Finding} {code : IssueCode}
    (others : ∀ finding ∈ findings, finding.code ≠ code) :
    (findings.filter fun finding => finding.code = code) = [] :=
  List.filter_eq_nil_iff.mpr fun finding found same =>
    others finding found (of_decide_eq_true same)

theorem filter_code_eq {findings : List Finding} {own : IssueCode}
    (all : ∀ finding ∈ findings, finding.code = own) (code : IssueCode) :
    (findings.filter fun finding => finding.code = code) = if own = code then findings else [] := by
  split
  · next same =>
    subst same
    exact List.filter_eq_self.mpr fun finding found => decide_eq_true (all finding found)
  · next other =>
    exact filter_code_eq_nil fun finding found same => other ((all finding found).symm.trans same)

theorem form_of_mem_leftGoals (found : finding ∈ survey.leftGoals) :
    ∃ position ∈ survey.graph.liveOfKind .goal, Link.leaving survey.links position ≠ [] ∧
      ∃ ids, finding = .goalLeft position (survey.graph.idAt position) ids := by
  obtain ⟨position, listed, found⟩ := List.mem_filterMap.mp found
  refine ⟨position, listed, ?_⟩
  split at found
  · cases found
  · next linked =>
    cases found
    exact ⟨linked, _, rfl⟩

theorem form_of_mem_enteredDecisions (found : finding ∈ survey.enteredDecisions) :
    ∃ position ∈ survey.graph.liveOfKind .decision, Link.entering survey.links position ≠ [] ∧
      ∃ ids, finding = .decisionEntered position (survey.graph.idAt position) ids := by
  obtain ⟨position, listed, found⟩ := List.mem_filterMap.mp found
  refine ⟨position, listed, ?_⟩
  split at found
  · cases found
  · next linked =>
    cases found
    exact ⟨linked, _, rfl⟩

theorem mem_misplacedEdges :
    finding ∈ survey.misplacedEdges ↔
      ∃ link ∈ survey.links, ∃ source target, survey.role? link.source = some source ∧
        survey.role? link.target = some target ∧ source.allows target = false ∧
        finding = .misplacedEdge link.edge (survey.graph.idAt link.source) source
          (survey.graph.idAt link.target) target := by
  rw [misplacedEdges, List.mem_filterMap]
  refine exists_congr fun link => and_congr_right fun _ => ?_
  split
  · next source target role other =>
    constructor
    · intro found
      split at found
      · cases found
      · next refused =>
        cases found
        exact ⟨source, target, role, other, Bool.eq_false_iff.mpr refused, rfl⟩
    · intro misplaced
      obtain ⟨first, second, also, again, refused, rfl⟩ := misplaced
      cases role.symm.trans also
      cases other.symm.trans again
      exact if_neg (Bool.eq_false_iff.mp refused)
  · next neither =>
    constructor
    · rintro ⟨⟩
    · intro misplaced
      obtain ⟨source, target, role, other, _⟩ := misplaced
      exact absurd other (neither source target role)

/-- What the pass over the wiring finds, sorted by its codes. -/
theorem filter_code_wiring (survey : Survey) (code : IssueCode) :
    (survey.wiring.filter fun finding => finding.code = code) =
      (if .goalHasOutgoing = code then survey.leftGoals else [])
        ++ (if .decisionHasIncoming = code then survey.enteredDecisions else [])
        ++ (if .invalidEdgeType = code then survey.misplacedEdges else [])
        ++ if .cycleDetected = code then survey.cycles else [] := by
  have left (finding : Finding) (found : finding ∈ survey.leftGoals) :
      finding.code = .goalHasOutgoing := by
    obtain ⟨position, _, _, ids, rfl⟩ := form_of_mem_leftGoals found
    rfl
  have entered (finding : Finding) (found : finding ∈ survey.enteredDecisions) :
      finding.code = .decisionHasIncoming := by
    obtain ⟨position, _, _, ids, rfl⟩ := form_of_mem_enteredDecisions found
    rfl
  have misplaced (finding : Finding) (found : finding ∈ survey.misplacedEdges) :
      finding.code = .invalidEdgeType := by
    obtain ⟨link, _, source, target, _, _, _, rfl⟩ := mem_misplacedEdges.mp found
    rfl
  have cyclic (finding : Finding) (found : finding ∈ survey.cycles) :
      finding.code = .cycleDetected := by
    obtain ⟨cycle, _, rfl⟩ := List.mem_map.mp found
    rfl
  rw [wiring, List.filter_append, List.filter_append, List.filter_append, filter_code_eq left,
    filter_code_eq entered, filter_code_eq misplaced, filter_code_eq cyclic]

theorem origin_of_mem_wiring (found : finding ∈ survey.wiring) :
    finding.code.origin = .topology := by
  simp only [wiring, List.mem_append] at found
  rcases found with ((left | entered) | misplaced) | cyclic
  · obtain ⟨position, _, _, ids, rfl⟩ := form_of_mem_leftGoals left
    rfl
  · obtain ⟨position, _, _, ids, rfl⟩ := form_of_mem_enteredDecisions entered
    rfl
  · obtain ⟨link, _, source, target, _, _, _, rfl⟩ := mem_misplacedEdges.mp misplaced
    rfl
  · obtain ⟨cycle, _, rfl⟩ := List.mem_map.mp cyclic
    rfl

theorem origin_of_mem_connection (found : finding ∈ survey.connection) :
    finding.code.origin = .reachability := by
  simp only [connection, unreachedNodes, strandedNodes, List.mem_append] at found
  rcases found with found | found
  · split at found
    · cases found
    · obtain ⟨_, _, found⟩ := List.mem_filterMap.mp found
      split at found <;> cases found
      rfl
  · split at found
    · cases found
    · obtain ⟨_, _, found⟩ := List.mem_filterMap.mp found
      split at found <;> cases found
      rfl

theorem origin_dataDefect (position : Nat) (id : String) (category : Category)
    (defect : DataDefect) :
    (Finding.dataDefect position id category defect).code.origin = .factorData := by
  cases defect <;> cases category <;> rfl

theorem origin_of_mem_data (found : finding ∈ survey.data) :
    finding.code.origin = .factorData := by
  obtain ⟨⟨node, position⟩, _, found⟩ := List.mem_flatMap.mp found
  simp only at found
  split at found
  · next category _ =>
    simp only [dataOf, List.mem_append, List.mem_map] at found
    rcases found with ⟨defect, _, rfl⟩ | found
    · exact origin_dataDefect position node.id category defect
    · split at found
      · obtain ⟨_, rfl⟩ := Finding.mem_unless.mp found
        rfl
      · cases found
  · cases found

theorem form_of_mem_straySettings {option : Node} {position : Nat}
    (found : finding ∈ survey.straySettings option position) :
    ∃ factor kind, finding = .straySetting position option.id factor kind := by
  obtain ⟨⟨factor, value⟩, _, found⟩ := List.mem_filterMap.mp found
  simp only at found
  split at found <;> cases found
  exact ⟨factor, _, rfl⟩

theorem form_of_mem_missingEffect {option : Node} {position : Nat}
    (found : finding ∈ survey.missingEffect option position) :
    ∃ factors, finding = .noEffect position option.id factors := by
  unfold missingEffect at found
  split at found
  · cases found
  · obtain ⟨_, rfl⟩ := Finding.mem_unless.mp found
    exact ⟨_, rfl⟩

theorem form_of_mem_identicalChoices (found : finding ∈ survey.identicalChoices) :
    ∃ position ids, finding = .identicalOptions position ids := by
  obtain ⟨_, _, found⟩ := List.mem_filterMap.mp found
  split at found <;> cases found
  exact ⟨_, _, rfl⟩

theorem form_of_mem_choice (found : finding ∈ survey.choice) :
    (∃ position id factor kind, finding = .straySetting position id factor kind) ∨
      (∃ position id factors, finding = .noEffect position id factors) ∨
      ∃ position ids, finding = .identicalOptions position ids := by
  simp only [choice, effects, List.mem_append, List.mem_flatMap] at found
  rcases found with ⟨⟨option, position⟩, _, stray | idle⟩ | alike
  · obtain ⟨factor, kind, rfl⟩ := form_of_mem_straySettings stray
    exact .inl ⟨_, _, _, _, rfl⟩
  · obtain ⟨factors, rfl⟩ := form_of_mem_missingEffect idle
    exact .inr (.inl ⟨_, _, _, rfl⟩)
  · exact .inr (.inr (form_of_mem_identicalChoices alike))

theorem origin_of_mem_choice (found : finding ∈ survey.choice) :
    finding.code.origin = .semantic := by
  rcases form_of_mem_choice found with ⟨_, _, _, _, rfl⟩ | ⟨_, _, _, rfl⟩ | ⟨_, _, rfl⟩
  · rfl
  · rfl
  · rfl

theorem origin_of_mem_goalNumbers (found : finding ∈ survey.goalNumbers) :
    finding.code.origin = .semantic := by
  obtain ⟨⟨node, position⟩, _, found⟩ := List.mem_filterMap.mp found
  simp only at found
  split at found <;> cases found
  rfl

theorem form_of_mem_looseScaffold (found : finding ∈ survey.looseScaffold) :
    ∃ position edge, finding = .looseOptionScaffold position edge ∨
      finding = .looseDecisionScaffold position edge := by
  obtain ⟨⟨link, edge⟩, _, found⟩ := List.mem_filterMap.mp found
  simp only at found
  split at found
  · cases found
  · split at found <;> cases found
    · exact ⟨link.edge, edge, Or.inl rfl⟩
    · exact ⟨link.edge, edge, Or.inr rfl⟩

/-- Loose scaffolding is an error between options and factors and advice elsewhere. -/
theorem origin_of_mem_looseScaffold (found : finding ∈ survey.looseScaffold) :
    finding.code.origin = .semantic ∨ finding.code.origin = .advisory := by
  obtain ⟨_, _, rfl | rfl⟩ := form_of_mem_looseScaffold found
  · exact Or.inl rfl
  · exact Or.inr rfl

theorem code_of_mem_ofNumber {place : Place} {owner : String} {value : Option Float}
    (found : finding ∈ Finding.ofNumber place owner value) : finding.code = .nanValue := by
  cases value with
  | none => cases found
  | some value =>
      obtain ⟨_, rfl⟩ := Finding.mem_unless.mp found
      rfl

theorem code_of_mem_unfiniteNumbers (found : finding ∈ survey.unfiniteNumbers) :
    finding.code = .nanValue := by
  simp only [unfiniteNumbers, List.mem_append, List.mem_flatMap] at found
  rcases found with ⟨⟨node, position⟩, _, found⟩ | ⟨⟨edge, position⟩, _, found⟩
  · simp only [nodeNumbers] at found
    split at found
    · rcases List.mem_append.mp found with found | found
      · exact code_of_mem_ofNumber found
      · exact code_of_mem_ofNumber found
    · obtain ⟨_, _, found⟩ := List.mem_flatMap.mp found
      exact code_of_mem_ofNumber found
    · cases found
  · simp only [edgeNumbers, List.mem_append] at found
    rcases found with ((found | found) | found) | found
    · exact code_of_mem_ofNumber found
    · exact code_of_mem_ofNumber found
    · exact code_of_mem_ofNumber found
    · exact code_of_mem_ofNumber found

theorem origin_of_mem_unfiniteNumbers (found : finding ∈ survey.unfiniteNumbers) :
    finding.code.origin = .numeric := by
  rw [code_of_mem_unfiniteNumbers found]
  rfl

theorem origin_of_mem_rangeAdvice {edge : Edge} {position : Nat}
    (found : finding ∈ rangeAdvice edge position) : finding.code.origin = .advisory := by
  simp only [rangeAdvice, beliefAdvice, List.mem_append, Finding.mem_unless] at found
  rcases found with ⟨_, rfl⟩ | found
  · rfl
  · split at found
    · cases found
    · split at found
      · cases List.mem_singleton.mp found
        rfl
      · split at found
        · cases List.mem_singleton.mp found
          rfl
        · cases found

theorem origin_of_mem_polarityAdvice {link : Link} {edge : Edge}
    (found : finding ∈ survey.polarityAdvice link edge) : finding.code.origin = .advisory := by
  unfold polarityAdvice at found
  split at found
  · obtain ⟨_, rfl⟩ := Finding.mem_unless.mp found
    rfl
  · obtain ⟨_, rfl⟩ := Finding.mem_unless.mp found
    rfl
  · cases found

theorem origin_of_mem_deviationAdvice {link : Link} {edge : Edge}
    (found : finding ∈ survey.deviationAdvice link edge) : finding.code.origin = .advisory := by
  unfold deviationAdvice at found
  split at found
  · cases found
  · split at found
    · obtain ⟨_, rfl⟩ := Finding.mem_unless.mp found
      rfl
    · cases found

theorem origin_of_mem_advice (found : finding ∈ survey.advice) :
    finding.code.origin = .advisory := by
  simp only [advice, List.mem_append, List.mem_flatMap] at found
  rcases found with (⟨_, _, found⟩ | ⟨_, _, found | found⟩) | ⟨_, _, found⟩
  · exact origin_of_mem_rangeAdvice found
  · exact origin_of_mem_polarityAdvice found
  · exact origin_of_mem_deviationAdvice found
  · simp only [driverAdvice] at found
    split at found
    · cases List.mem_singleton.mp found
      rfl
    · cases found

theorem mem_goalNumbers {survey : Survey} :
    finding ∈ survey.goalNumbers ↔
      ∃ node position, (node, position) ∈ survey.graph.live ∧ node.isFactor = true ∧
        survey.category? position ≠ some .controllable ∧
        node.declaredCategory? ≠ some .controllable ∧
        GoalNumber.isGoalNumber node.label = true ∧
        finding = .goalNumber position node.id node.label := by
  simp only [goalNumbers, List.mem_filterMap, Prod.exists]
  refine exists_congr fun node => exists_congr fun position => and_congr_right fun _ => ?_
  split
  · next named =>
    simp only [Bool.and_eq_true, decide_eq_true_eq] at named
    simp [named, eq_comm]
  · next other =>
    simp only [Bool.and_eq_true, decide_eq_true_eq, not_and] at other
    constructor
    · rintro ⟨⟩
    · rintro ⟨isFactor, inferred, declared, label, _⟩
      exact absurd label (other ⟨⟨isFactor, inferred⟩, declared⟩)

theorem mem_findings {limits : Limits} :
    finding ∈ survey.findings limits ↔
      finding ∈ survey.census limits ∨ finding ∈ survey.wiring ∨ finding ∈ survey.connection ∨
        finding ∈ survey.data ∨ finding ∈ survey.choice ∨ finding ∈ survey.goalNumbers ∨
        finding ∈ survey.looseScaffold ∨ finding ∈ survey.unfiniteNumbers ∨
        finding ∈ survey.advice := by
  simp only [findings, List.mem_append, or_assoc]

/-- The passes that find what the table of codes gives to an origin. -/
def passesOf (survey : Survey) (limits : Limits) : Origin → List Finding
  | .structural => survey.census limits
  | .topology => survey.wiring
  | .reachability => survey.connection
  | .factorData => survey.data
  | .semantic => survey.choice ++ survey.goalNumbers ++ survey.looseScaffold
  | .numeric => survey.unfiniteNumbers
  | .advisory => survey.looseScaffold ++ survey.advice
  | .postNormalisation | .reconciliation => []

/-- A finding comes from a pass of its origin. -/
theorem mem_passesOf {limits : Limits} (found : finding ∈ survey.findings limits) :
    finding ∈ survey.passesOf limits finding.code.origin := by
  rcases mem_findings.mp found with h | h | h | h | h | h | h | h | h
  · rw [origin_of_mem_census h]
    exact h
  · rw [origin_of_mem_wiring h]
    exact h
  · rw [origin_of_mem_connection h]
    exact h
  · rw [origin_of_mem_data h]
    exact h
  · rw [origin_of_mem_choice h]
    simp [passesOf, h]
  · rw [origin_of_mem_goalNumbers h]
    simp [passesOf, h]
  · rcases origin_of_mem_looseScaffold h with origin | origin
    · rw [origin]
      simp [passesOf, h]
    · rw [origin]
      simp [passesOf, h]
  · rw [origin_of_mem_unfiniteNumbers h]
    exact h
  · rw [origin_of_mem_advice h]
    simp [passesOf, h]

theorem mem_data_of_origin {limits : Limits} (found : finding ∈ survey.findings limits)
    (origin : finding.code.origin = .factorData) : finding ∈ survey.data := by
  have passed := mem_passesOf found
  rwa [origin] at passed

/-- What is found with a code is found by the passes of its origin, in the same order. -/
theorem filter_code_findings (survey : Survey) (limits : Limits) (code : IssueCode) :
    ((survey.findings limits).filter fun finding => finding.code = code) =
      (survey.passesOf limits code.origin).filter fun finding => finding.code = code := by
  have nothing {findings : List Finding} {origin : Origin}
      (origins : ∀ finding ∈ findings, finding.code.origin = origin) (apart : code.origin ≠ origin) :
      (findings.filter fun finding => finding.code = code) = [] := by
    refine filter_code_eq_nil fun finding found same => apart ?_
    rw [← same, origins finding found]
  have scaffold (semantic : code.origin ≠ .semantic) (advisory : code.origin ≠ .advisory) :
      (survey.looseScaffold.filter fun finding => finding.code = code) = [] := by
    refine filter_code_eq_nil fun finding found same => ?_
    rw [← same] at semantic advisory
    rcases origin_of_mem_looseScaffold found with origin | origin
    · exact semantic origin
    · exact advisory origin
  have census := @nothing (survey.census limits) _ fun _ => origin_of_mem_census
  have wiring := @nothing survey.wiring _ fun _ => origin_of_mem_wiring
  have connection := @nothing survey.connection _ fun _ => origin_of_mem_connection
  have data := @nothing survey.data _ fun _ => origin_of_mem_data
  have choice := @nothing survey.choice _ fun _ => origin_of_mem_choice
  have goalNumbers := @nothing survey.goalNumbers _ fun _ => origin_of_mem_goalNumbers
  have numbers := @nothing survey.unfiniteNumbers _ fun _ => origin_of_mem_unfiniteNumbers
  have advice := @nothing survey.advice _ fun _ => origin_of_mem_advice
  cases origin : code.origin <;>
    simp [findings, passesOf, origin, scaffold, census, wiring, connection, data, choice,
      goalNumbers, numbers, advice]

theorem filter_code_topology (survey : Survey) (limits : Limits) {code : IssueCode}
    (origin : code.origin = .topology) :
    ((survey.findings limits).filter fun finding => finding.code = code) =
      survey.wiring.filter fun finding => finding.code = code := by
  rw [filter_code_findings, origin]
  rfl

end Survey

/-! From findings to reports. -/

theorem Report.mem_issues_ofIssues {issues : List Issue} {issue : Issue} :
    issue ∈ (Report.ofIssues issues).issues ↔ issue ∈ issues := by
  cases blocking : issue.isBlocking <;> simp [Report.ofIssues, Report.issues, blocking]

namespace Graph

variable {graph : Graph} {limits : Limits} {issue : Issue}

theorem mem_issues_check :
    issue ∈ (graph.check limits).issues ↔
      ∃ finding ∈ (Survey.ofGraph graph).findings limits, finding.issue = issue := by
  rw [check, Report.mem_issues_ofIssues, List.mem_map]

/-- The issues with a code stand in a report in the order in which they were found: all of them
block, or none does. -/
theorem withCode_check (graph : Graph) (limits : Limits) (code : IssueCode) :
    (graph.check limits).withCode code =
      (((Survey.ofGraph graph).findings limits).filter fun finding =>
        finding.code = code).map Finding.issue := by
  generalize grave : decide (code.severity = .error) = blocking
  have graded (finding : Finding) (same : finding.code = code) :
      finding.issue.isBlocking = blocking := by
    subst same
    exact grave
  simp only [check, Report.withCode, Report.issues, Report.ofIssues, List.filter_append,
    List.filter_filter, List.filter_map, Function.comp_def]
  have errors (finding : Finding) :
      (decide (finding.issue.code = code) && finding.issue.isBlocking) =
        (decide (finding.code = code) && blocking) := by
    by_cases same : finding.code = code
    · rw [graded finding same]
      rfl
    · have other : finding.issue.code ≠ code := same
      simp [same, other]
  have warnings (finding : Finding) :
      (decide (finding.issue.code = code) && !finding.issue.isBlocking) =
        (decide (finding.code = code) && !blocking) := by
    by_cases same : finding.code = code
    · rw [graded finding same]
      rfl
    · have other : finding.issue.code ≠ code := same
      simp [same, other]
  simp only [errors, warnings]
  cases blocking <;> simp

theorem mem_withCode_iff {code : IssueCode} :
    issue ∈ (graph.check limits).withCode code ↔
      ∃ finding ∈ (Survey.ofGraph graph).findings limits, finding.code = code ∧
        finding.issue = issue := by
  simp [withCode_check, and_assoc]

theorem mem_errors_check :
    issue ∈ (graph.check limits).errors ↔
      ∃ finding ∈ (Survey.ofGraph graph).findings limits,
        finding.code.severity = .error ∧ finding.issue = issue := by
  simp only [check, Report.ofIssues, List.mem_filter, List.mem_map, Issue.isBlocking,
    decide_eq_true_eq]
  constructor
  · rintro ⟨⟨finding, found, rfl⟩, grave⟩
    exact ⟨finding, found, grave, rfl⟩
  · rintro ⟨finding, found, grave, rfl⟩
    exact ⟨⟨finding, found, rfl⟩, grave⟩

theorem mem_warnings_check :
    issue ∈ (graph.check limits).warnings ↔
      ∃ finding ∈ (Survey.ofGraph graph).findings limits,
        finding.code.severity ≠ .error ∧ finding.issue = issue := by
  simp only [check, Report.ofIssues, List.mem_filter, List.mem_map, Issue.isBlocking,
    Bool.not_eq_true', decide_eq_false_iff_not]
  constructor
  · rintro ⟨⟨finding, found, rfl⟩, mild⟩
    exact ⟨finding, found, mild, rfl⟩
  · rintro ⟨finding, found, mild, rfl⟩
    exact ⟨⟨finding, found, rfl⟩, mild⟩

theorem valid_check_iff_errors :
    (graph.check limits).valid = true ↔ (graph.check limits).errors = [] := by
  simp only [check, Report.ofIssues, List.isEmpty_iff]

theorem valid_check_iff :
    (graph.check limits).valid = true ↔
      ∀ finding ∈ (Survey.ofGraph graph).findings limits, finding.code.severity ≠ .error := by
  simp [check, Report.ofIssues, List.filter_eq_nil_iff, Issue.isBlocking, Finding.issue,
    Issue.ofCode]

end Graph

end DecisionGraph

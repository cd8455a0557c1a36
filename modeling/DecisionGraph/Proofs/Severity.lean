import DecisionGraph.Proofs.Agreement
import DecisionGraph.Proofs.RepairedFile
import DecisionGraph.Proofs.Verdict

/-!
How grave the issues of a report are. The seven passes of a check run in the order of their origins,
and a report sorts what they find by severity and changes nothing else.
-/

namespace DecisionGraph

/-- The place of an origin in the order in which the passes run. -/
def Origin.rank (origin : Origin) : Nat := (Vocabulary.all : List Origin).idxOf origin

/-- The origins of what a check may hold against a graph. -/
def graveOrigins : List Origin :=
  [.structural, .topology, .reachability, .factorData, .semantic, .numeric]

theorem IssueCode.severity_eq_warn {code : IssueCode} (mild : code.origin = .advisory) :
    code.severity = .warn := by
  cases code <;> first | rfl | cases mild

theorem IssueCode.severity_eq_error {code : IssueCode} (grave : code.origin ∈ graveOrigins) :
    code.severity = .error := by
  refine severity_of_origin ?_ ?_
  · rintro mild
    simp [mild, graveOrigins] at grave
  · rintro logged
    simp [logged, graveOrigins] at grave

namespace Survey

variable {survey : Survey} {limits : Limits} {finding : Finding}

/-- What the seven passes find, each pass for itself and in the order in which they run. -/
def tiers (survey : Survey) (limits : Limits) : List (List Finding) :=
  [survey.census limits, survey.wiring, survey.connection, survey.data,
    survey.choice ++ survey.goalNumbers ++ survey.looseScaffold, survey.unfiniteNumbers,
    survey.advice]

theorem flatten_tiers (survey : Survey) (limits : Limits) :
    (survey.tiers limits).flatten = survey.findings limits := by
  simp [tiers, findings]

theorem origin_of_mem_findings (found : finding ∈ survey.findings limits) :
    finding.code.origin ∈ graveOrigins ∨ finding.code.origin = .advisory := by
  have passed := mem_passesOf found
  cases origin : finding.code.origin <;> simp [origin, passesOf, graveOrigins] at passed ⊢

/-- Advice aside, a pass finds only what the table of codes gives it. -/
theorem rank_of_mem_tiers {rank : Nat} {tier : List Finding}
    (pass : (survey.tiers limits)[rank]? = some tier) (found : finding ∈ tier)
    (grave : finding.code.severity = .error) : finding.code.origin.rank = rank := by
  obtain ⟨bound, rfl⟩ := List.getElem?_eq_some_iff.mp pass
  have semantic (loose : finding.code.origin = .semantic ∨ finding.code.origin = .advisory) :
      finding.code.origin = .semantic :=
    loose.resolve_right fun mild => IssueCode.severity_of_advisory mild grave
  match rank, bound with
  | 0, _ => rw [origin_of_mem_census found]; rfl
  | 1, _ => rw [origin_of_mem_wiring found]; rfl
  | 2, _ => rw [origin_of_mem_connection found]; rfl
  | 3, _ => rw [origin_of_mem_data found]; rfl
  | 4, _ =>
    have origin : finding.code.origin = .semantic := by
      rcases List.mem_append.mp found with found | loose
      · rcases List.mem_append.mp found with choice | number
        · exact origin_of_mem_choice choice
        · exact origin_of_mem_goalNumbers number
      · exact semantic (origin_of_mem_looseScaffold loose)
    rw [origin]
    rfl
  | 5, _ => rw [origin_of_mem_unfiniteNumbers found]; rfl
  | 6, _ => exact absurd grave (IssueCode.severity_of_advisory (origin_of_mem_advice found))

end Survey

/-- Sorting issues into errors and warnings loses none and repeats none. -/
theorem Report.perm_ofIssues (issues : List Issue) : (ofIssues issues).issues.Perm issues :=
  List.filter_append_perm _ _

/-- The issues that the passes push, each pass for itself and in the order in which they run. -/
def Graph.pushed (graph : Graph) (limits : Limits) : List (List Issue) :=
  ((Survey.ofGraph graph).tiers limits).map (List.map Finding.issue)

/-- What a report promises of severities, given what the passes have pushed. -/
structure Report.KeepsSeverity (report : Report) (pushed : List (List Issue)) : Prop where
  graded : ∀ issue ∈ report.issues, issue.severity = issue.code.severity
  errors : ∀ issue ∈ report.errors, issue.severity = .error ∧ issue.code.origin ∈ graveOrigins
  ordered : (report.errors.map fun issue => issue.code.origin.rank).Pairwise (· ≤ ·)
  warnings : ∀ issue ∈ report.warnings, issue.severity = .warn ∧ issue.code.origin = .advisory
  errorsPushed : report.errors = pushed.flatten.filter fun issue => issue.severity = .error
  warningsPushed : report.warnings = pushed.flatten.filter fun issue => issue.severity ≠ .error
  together : (report.errors ++ report.warnings).Perm pushed.flatten
  /-- An error comes from the pass that its code names. -/
  tiered : ∀ (rank : Nat) (tier : List Issue), pushed[rank]? = some tier →
    ∀ issue ∈ tier, issue.severity = .error → issue.code.origin.rank = rank
  valid : report.valid = true ↔ report.errors = []

namespace Graph

variable {graph : Graph} {limits : Limits}

theorem flatten_pushed (graph : Graph) (limits : Limits) :
    (graph.pushed limits).flatten = ((Survey.ofGraph graph).findings limits).map Finding.issue := by
  rw [pushed, ← List.map_flatten, Survey.flatten_tiers]

theorem errors_check (graph : Graph) (limits : Limits) :
    (graph.check limits).errors =
      (graph.pushed limits).flatten.filter fun issue => issue.severity = .error := by
  simp only [flatten_pushed, check, Report.ofIssues]
  exact List.filter_congr fun issue _ => rfl

theorem warnings_check (graph : Graph) (limits : Limits) :
    (graph.check limits).warnings =
      (graph.pushed limits).flatten.filter fun issue => issue.severity ≠ .error := by
  simp only [flatten_pushed, check, Report.ofIssues, Issue.isBlocking, decide_not]

theorem rank_of_mem_pushed {rank : Nat} {tier : List Issue}
    (pass : (graph.pushed limits)[rank]? = some tier) {issue : Issue} (listed : issue ∈ tier)
    (grave : issue.severity = .error) : issue.code.origin.rank = rank := by
  rw [pushed, List.getElem?_map] at pass
  obtain ⟨findings, passed, rfl⟩ := Option.map_eq_some_iff.mp pass
  obtain ⟨finding, found, rfl⟩ := List.mem_map.mp listed
  exact Survey.rank_of_mem_tiers passed found grave

/-- The errors of a pass stand before those of a later pass, so their origins are in order. -/
theorem ordered_errors (graph : Graph) (limits : Limits) :
    ((graph.check limits).errors.map fun issue => issue.code.origin.rank).Pairwise (· ≤ ·) := by
  rw [errors_check, List.pairwise_map, List.filter_flatten, List.pairwise_flatten]
  have ranked (rank : Nat) (bound : rank < (graph.pushed limits).length) (issue : Issue)
      (grave : issue ∈ (graph.pushed limits)[rank].filter fun issue => issue.severity = .error) :
      issue.code.origin.rank = rank := by
    obtain ⟨listed, grave⟩ := List.mem_filter.mp grave
    exact rank_of_mem_pushed (List.getElem?_eq_getElem bound) listed (of_decide_eq_true grave)
  constructor
  · intro tier listed
    obtain ⟨whole, pushed, rfl⟩ := List.mem_map.mp listed
    obtain ⟨rank, bound, rfl⟩ := List.getElem_of_mem pushed
    refine List.Pairwise.imp_of_mem ?_ (List.pairwise_of_forall fun _ _ => trivial)
    intro first second here there _
    rw [ranked rank bound first here, ranked rank bound second there]
  · rw [List.pairwise_map, List.pairwise_iff_getElem]
    intro rank later bound laterBound before first here second there
    rw [ranked rank bound first here, ranked later laterBound second there]
    exact before.le

theorem keepsSeverity_check (graph : Graph) (limits : Limits) :
    (graph.check limits).KeepsSeverity (graph.pushed limits) where
  graded issue reported := by
    obtain ⟨finding, _, rfl⟩ := mem_issues_check.mp reported
    rfl
  errors issue reported := by
    obtain ⟨finding, found, grave, rfl⟩ := mem_errors_check.mp reported
    exact ⟨grave, (Survey.origin_of_mem_findings found).resolve_right fun mild =>
      IssueCode.severity_of_advisory mild grave⟩
  ordered := ordered_errors graph limits
  warnings issue reported := by
    obtain ⟨finding, found, mild, rfl⟩ := mem_warnings_check.mp reported
    have origin := (Survey.origin_of_mem_findings found).resolve_left fun grave =>
      mild (IssueCode.severity_eq_error grave)
    exact ⟨IssueCode.severity_eq_warn origin, origin⟩
  errorsPushed := errors_check graph limits
  warningsPushed := warnings_check graph limits
  together := by
    rw [flatten_pushed]
    exact Report.perm_ofIssues _
  tiered _ _ pass _ listed grave := rank_of_mem_pushed pass listed grave
  valid := valid_check_iff_errors

theorem isReady_prepare_iff (graph : Graph) (options : Option Repair.Options) (limits : Limits) :
    (graph.prepare options limits).2.isReady = true ↔
      (graph.prepare options limits).2.blocking = [] := by
  cases options with
  | none => exact Readiness.isReady_iff_blocking
  | some options => exact Readiness.isReady_iff_blocking

/-- A report sorts the issues of the seven passes into errors and warnings by the severity of their
codes and keeps their order. A graph is valid when there are no errors, and ready when the last gate
has none either. -/
theorem severity_kept (graph : Graph) (limits : Limits) :
    (graph.check limits).KeepsSeverity (graph.pushed limits) ∧
      (∀ issue ∈ graph.gate.errors, issue.severity = issue.code.severity ∧
        issue.severity = .error ∧ issue.code.origin = .postNormalisation) ∧
      ∀ options, (graph.prepare options limits).2.isReady = true ↔
        (graph.prepare options limits).2.blocking = [] := by
  refine ⟨keepsSeverity_check graph limits, ?_, fun options =>
    isReady_prepare_iff graph options limits⟩
  intro issue reported
  obtain ⟨finding, found, rfl⟩ := List.mem_map.mp reported
  obtain ⟨position, edge, declared, implied, _, rfl⟩ := form_of_mem_signFindings found
  exact ⟨rfl, rfl, rfl⟩

end Graph

end DecisionGraph

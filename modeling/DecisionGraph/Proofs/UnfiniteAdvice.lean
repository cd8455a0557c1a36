import DecisionGraph.Proofs.Content
import DecisionGraph.Proofs.Paths
import DecisionGraph.Proofs.Verdict
import DecisionGraph.Sample

/-!
Advice and numbers that are not finite. Advice passes over such numbers, but for one kind: the sign
of an infinite mean counts where an outcome or a risk leads to the goal, so the mean is advised on
although it is an error already.
-/

namespace DecisionGraph

/-- The number that an edge has in a field. -/
def Edge.number? (edge : Edge) : String → Option Float
  | "strength_mean" => some edge.mean
  | "strength_std" => edge.deviation
  | "belief_exists" => edge.beliefExists
  | "belief" => edge.belief
  | _ => none

/-- The edge lowers the goal from an outcome or raises it from a risk, and its mean has no bound. -/
def Graph.Astray (graph : Graph) (position : Nat) (edge : Edge) : Prop :=
  graph.edges[position]? = some edge ∧ edge.mean.isFinite = false ∧
    ∃ source target, graph.position? edge.source = some source ∧
      graph.position? edge.target = some target ∧ graph.kindAt? target = some .goal ∧
      (graph.kindAt? source = some .outcome ∧ edge.mean < 0 ∨
        graph.kindAt? source = some .risk ∧ 0 < edge.mean)

/-- Where advice on an edge may stand: at a finite number, or at a mean that goes astray. -/
def Graph.Advisable (graph : Graph) (place : Place) : Prop :=
  ∃ position field edge number, place = .edgeField position field ∧
    graph.edges[position]? = some edge ∧ edge.number? field = some number ∧
    (number.isFinite = true ∨ field = "strength_mean" ∧ graph.Astray position edge)

namespace Survey

variable {survey : Survey} {graph : Graph} {finding : Finding} {edge : Edge} {position : Nat}

/-! What each check says of the numbers of one edge. -/

theorem number?_beliefField {edge : Edge} {belief : Float}
    (stated : edge.effectiveBelief? = some belief) :
    edge.number? (beliefField edge) = some belief := by
  cases exists_ : edge.beliefExists with
  | none => simpa [beliefField, exists_, Edge.number?, Edge.effectiveBelief?] using stated
  | some other => simpa [beliefField, exists_, Edge.number?, Edge.effectiveBelief?] using stated

theorem finite_of_mem_beliefAdvice (found : finding ∈ beliefAdvice edge position) :
    ∃ belief, edge.number? (beliefField edge) = some belief ∧ belief.isFinite = true ∧
      finding.place = .edgeField position (beliefField edge) := by
  unfold beliefAdvice at found
  split at found
  · cases found
  · next belief stated =>
    obtain ⟨stated, finite⟩ := Option.filter_eq_some_iff.mp stated
    refine ⟨belief, number?_beliefField stated, finite, ?_⟩
    split at found
    · rw [List.mem_singleton.mp found]
      rfl
    · split at found
      · rw [List.mem_singleton.mp found]
        rfl
      · cases found

theorem finite_of_mem_rangeAdvice (found : finding ∈ rangeAdvice edge position) :
    ∃ field value, finding.place = .edgeField position field ∧ edge.number? field = some value ∧
      value.isFinite = true := by
  rcases List.mem_append.mp found with strong | doubted
  · obtain ⟨far, rfl⟩ := Finding.mem_unless.mp strong
    simp only [Bool.not_eq_false', Bool.and_eq_true] at far
    exact ⟨"strength_mean", edge.mean, rfl, rfl, far.1⟩
  · obtain ⟨belief, stated, finite, place⟩ := finite_of_mem_beliefAdvice doubted
    exact ⟨_, belief, place, stated, finite⟩

theorem finite_of_mem_deviationAdvice {link : Link}
    (found : finding ∈ survey.deviationAdvice link edge) :
    ∃ value, finding.place = .edgeField link.edge "strength_std" ∧
      edge.number? "strength_std" = some value ∧ value.isFinite = true := by
  unfold deviationAdvice at found
  split at found
  · cases found
  · split at found
    · next deviation stated =>
      obtain ⟨stated, finite⟩ := Option.filter_eq_some_iff.mp stated
      obtain ⟨-, rfl⟩ := Finding.mem_unless.mp found
      exact ⟨deviation, rfl, stated, finite⟩
    · cases found

/-- The signs of a mean count without a look at whether it is finite. -/
theorem mem_polarityAdvice_iff {link : Link} :
    finding ∈ survey.polarityAdvice link edge ↔
      survey.graph.kindAt? link.target = some .goal ∧
        (survey.graph.kindAt? link.source = some .outcome ∧ edge.mean < 0 ∧
            finding = .loweringOutcome link.edge edge ∨
          survey.graph.kindAt? link.source = some .risk ∧ 0 < edge.mean ∧
            finding = .raisingRisk link.edge edge) := by
  unfold polarityAdvice
  split
  · next source target => simp [Finding.mem_unless, source, target]
  · next source target => simp [Finding.mem_unless, source, target]
  · next notOutcome notRisk =>
    constructor
    · rintro ⟨⟩
    · rintro ⟨target, ⟨source, -⟩ | ⟨source, -⟩⟩
      · exact absurd target (notOutcome source)
      · exact absurd target (notRisk source)

theorem mem_ofNumber_iff {place : Place} {owner : String} {value : Option Float} :
    finding ∈ Finding.ofNumber place owner value ↔
      ∃ number, value = some number ∧ number.isFinite = false ∧
        finding = .notFinite place owner number := by
  cases value with
  | none => simp [Finding.ofNumber]
  | some number => simp [Finding.ofNumber, Finding.mem_unless]

theorem mem_edgeNumbers_iff :
    finding ∈ edgeNumbers edge position ↔
      ∃ field number, edge.number? field = some number ∧ number.isFinite = false ∧
        finding = .notFinite (.edgeField position field) s!"{edge.source}->{edge.target}"
          number := by
  simp only [edgeNumbers, List.mem_append, mem_ofNumber_iff]
  constructor
  · rintro (((mean | deviation) | confidence) | belief)
    · exact ⟨"strength_mean", mean⟩
    · exact ⟨"strength_std", deviation⟩
    · exact ⟨"belief_exists", confidence⟩
    · exact ⟨"belief", belief⟩
  · rintro ⟨field, number, stated, rest⟩
    unfold Edge.number? at stated
    split at stated
    · exact .inl (.inl (.inl ⟨number, stated, rest⟩))
    · exact .inl (.inl (.inr ⟨number, stated, rest⟩))
    · exact .inl (.inr ⟨number, stated, rest⟩)
    · exact .inr ⟨number, stated, rest⟩
    · cases stated

/-- No path of a number of a node is also one of advice on its drivers. -/
theorem field_of_mem_nodeNumbers {node : Node} (found : finding ∈ nodeNumbers node position) :
    ∃ field, finding.place = .nodeField position field ∧ field ≠ "data.uncertainty_drivers" := by
  unfold nodeNumbers at found
  split at found
  · rcases List.mem_append.mp found with value | baseline
    · obtain ⟨number, -, -, rfl⟩ := mem_ofNumber_iff.mp value
      exact ⟨_, rfl, by decide⟩
    · obtain ⟨number, -, -, rfl⟩ := mem_ofNumber_iff.mp baseline
      exact ⟨_, rfl, by decide⟩
  · obtain ⟨⟨factor, value⟩, -, found⟩ := List.mem_flatMap.mp found
    obtain ⟨number, -, -, rfl⟩ := mem_ofNumber_iff.mp found
    refine ⟨_, rfl, fun same => ?_⟩
    simpa [toString] using congrArg String.toList same
  · cases found

/-! What the checks of a graph say. -/

theorem mem_linkedEdges_ofGraph {link : Link} :
    (link, edge) ∈ (ofGraph graph).linkedEdges ↔ graph.edges[link.edge]? = some edge ∧
      graph.position? edge.source = some link.source ∧
      graph.position? edge.target = some link.target := by
  rw [mem_linkedEdges_iff rfl, show (ofGraph graph).graph = graph from rfl, Graph.mem_links_iff]
  constructor
  · rintro ⟨⟨other, listed, ends⟩, again⟩
    cases listed.symm.trans again
    exact ⟨listed, ends⟩
  · rintro ⟨listed, ends⟩
    exact ⟨⟨edge, listed, ends⟩, listed⟩

theorem astray_of_mem_polarityAdvice {link : Link}
    (linked : (link, edge) ∈ (ofGraph graph).linkedEdges)
    (found : finding ∈ (ofGraph graph).polarityAdvice link edge) :
    finding.place = .edgeField link.edge "strength_mean" ∧
      (edge.mean.isFinite = true ∨ graph.Astray link.edge edge) := by
  obtain ⟨listed, starts, stops⟩ := mem_linkedEdges_ofGraph.mp linked
  obtain ⟨goal, signs⟩ := mem_polarityAdvice_iff.mp found
  cases finite : edge.mean.isFinite with
  | true => rcases signs with ⟨-, -, rfl⟩ | ⟨-, -, rfl⟩ <;> exact ⟨rfl, .inl rfl⟩
  | false =>
      rcases signs with ⟨outcome, lowers, rfl⟩ | ⟨risk, raises, rfl⟩
      · exact ⟨rfl, .inr ⟨listed, finite, _, _, starts, stops, goal, .inl ⟨outcome, lowers⟩⟩⟩
      · exact ⟨rfl, .inr ⟨listed, finite, _, _, starts, stops, goal, .inr ⟨risk, raises⟩⟩⟩

theorem place_of_mem_advice (found : finding ∈ (ofGraph graph).advice) :
    (∃ position, finding.place = .nodeField position "data.uncertainty_drivers") ∨
      graph.Advisable finding.place := by
  simp only [advice, List.mem_append, List.mem_flatMap, Prod.exists] at found
  rcases found with (⟨edge, position, listed, found⟩ | ⟨link, edge, linked, found | found⟩) |
    ⟨node, position, -, found⟩
  · obtain ⟨field, number, place, stated, finite⟩ := finite_of_mem_rangeAdvice found
    exact .inr ⟨position, field, edge, number, place,
      List.mem_zipIdx_iff_getElem?.mp listed, stated, .inl finite⟩
  · obtain ⟨place, known⟩ := astray_of_mem_polarityAdvice linked found
    exact .inr ⟨link.edge, _, edge, edge.mean, place, (mem_linkedEdges_ofGraph.mp linked).1, rfl,
      known.imp_right fun astray => ⟨rfl, astray⟩⟩
  · obtain ⟨number, place, stated, finite⟩ := finite_of_mem_deviationAdvice found
    exact .inr ⟨link.edge, _, edge, number, place, (mem_linkedEdges_ofGraph.mp linked).1, stated,
      .inl finite⟩
  · unfold driverAdvice at found
    split at found
    · rw [List.mem_singleton.mp found]
      exact .inl ⟨position, rfl⟩
    · cases found

theorem place_of_mem_unfiniteNumbers (found : finding ∈ (ofGraph graph).unfiniteNumbers) :
    (∃ position field, finding.place = .nodeField position field ∧
        field ≠ "data.uncertainty_drivers") ∨
      ∃ position field edge number, finding.place = .edgeField position field ∧
        graph.edges[position]? = some edge ∧ edge.number? field = some number ∧
        number.isFinite = false := by
  simp only [unfiniteNumbers, List.mem_append, List.mem_flatMap, Prod.exists] at found
  rcases found with ⟨node, position, -, found⟩ | ⟨edge, position, listed, found⟩
  · obtain ⟨field, place, other⟩ := field_of_mem_nodeNumbers found
    exact .inl ⟨position, field, place, other⟩
  · obtain ⟨field, number, stated, unfinite, rfl⟩ := mem_edgeNumbers_iff.mp found
    exact .inr ⟨position, field, edge, number, rfl, List.mem_zipIdx_iff_getElem?.mp listed, stated,
      unfinite⟩

/-- What does not block a graph is advice, or scaffolding before the options. -/
theorem mem_of_mild {limits : Limits} (found : finding ∈ (ofGraph graph).findings limits)
    (mild : finding.code.severity ≠ .error) :
    finding ∈ (ofGraph graph).looseScaffold ∨ finding ∈ (ofGraph graph).advice := by
  have passed := mem_passesOf found
  cases origin : finding.code.origin with
  | advisory =>
      rw [origin] at passed
      exact List.mem_append.mp passed
  | reconciliation =>
      rw [origin] at passed
      cases passed
  | _ => exact absurd (IssueCode.severity_of_origin (by simp [origin]) (by simp [origin])) mild

theorem place_of_mild {limits : Limits} (found : finding ∈ (ofGraph graph).findings limits)
    (mild : finding.code.severity ≠ .error) :
    (∃ position, finding.place = .edge position) ∨
      (∃ position, finding.place = .nodeField position "data.uncertainty_drivers") ∨
      graph.Advisable finding.place := by
  rcases mem_of_mild found mild with loose | advised
  · obtain ⟨position, _, rfl | rfl⟩ := form_of_mem_looseScaffold loose
    · exact .inl ⟨position, rfl⟩
    · exact .inl ⟨position, rfl⟩
  · exact .inr (place_of_mem_advice advised)

theorem mem_unfiniteNumbers_of_code {limits : Limits}
    (found : finding ∈ (ofGraph graph).findings limits) (code : finding.code = .nanValue) :
    finding ∈ (ofGraph graph).unfiniteNumbers := by
  have passed := mem_passesOf found
  rwa [code] at passed

/-! An edge that goes astray is reported twice. -/

theorem exists_advice_of_astray (astray : graph.Astray position edge) :
    ∃ finding ∈ (ofGraph graph).advice,
      finding.place = .edgeField position "strength_mean" := by
  obtain ⟨listed, -, source, target, starts, stops, goal, signs⟩ := astray
  have linked : (⟨position, source, target⟩, edge) ∈ (ofGraph graph).linkedEdges :=
    mem_linkedEdges_ofGraph.mpr ⟨listed, starts, stops⟩
  have advised {finding : Finding}
      (found : finding ∈ (ofGraph graph).polarityAdvice ⟨position, source, target⟩ edge) :
      finding ∈ (ofGraph graph).advice := by
    refine List.mem_append_left _ (List.mem_append_right _ ?_)
    exact List.mem_flatMap.mpr ⟨_, linked, List.mem_append_left _ found⟩
  rcases signs with ⟨outcome, lowers⟩ | ⟨risk, raises⟩
  · exact ⟨.loweringOutcome position edge,
      advised (mem_polarityAdvice_iff.mpr ⟨goal, .inl ⟨outcome, lowers, rfl⟩⟩), rfl⟩
  · exact ⟨.raisingRisk position edge,
      advised (mem_polarityAdvice_iff.mpr ⟨goal, .inr ⟨risk, raises, rfl⟩⟩), rfl⟩

theorem exists_unfinite_of_astray (astray : graph.Astray position edge) :
    ∃ finding ∈ (ofGraph graph).unfiniteNumbers, finding.code = .nanValue ∧
      finding.place = .edgeField position "strength_mean" := by
  obtain ⟨listed, unfinite, -⟩ := astray
  have found : _ ∈ edgeNumbers edge position :=
    mem_edgeNumbers_iff.mpr ⟨"strength_mean", edge.mean, rfl, unfinite, rfl⟩
  have entry : (edge, position) ∈ graph.edges.zipIdx := List.mem_zipIdx_iff_getElem?.mpr listed
  exact ⟨_, List.mem_append_right _ (List.mem_flatMap.mpr ⟨_, entry, found⟩), rfl, rfl⟩

end Survey

namespace Graph

variable {graph : Graph} {limits : Limits} {path : String}

theorem exists_warning_iff :
    (∃ warning ∈ (graph.check limits).warnings, warning.path = path) ↔
      ∃ finding ∈ (Survey.ofGraph graph).findings limits, finding.code.severity ≠ .error ∧
        finding.place.text = path := by
  constructor
  · rintro ⟨warning, reported, rfl⟩
    obtain ⟨finding, found, mild, rfl⟩ := mem_warnings_check.mp reported
    exact ⟨finding, found, mild, rfl⟩
  · rintro ⟨finding, found, mild, rfl⟩
    exact ⟨finding.issue, mem_warnings_check.mpr ⟨finding, found, mild, rfl⟩, rfl⟩

theorem exists_unfinite_iff :
    (∃ error ∈ (graph.check limits).errors, error.code = .nanValue ∧ error.path = path) ↔
      ∃ finding ∈ (Survey.ofGraph graph).findings limits, finding.code = .nanValue ∧
        finding.place.text = path := by
  constructor
  · rintro ⟨error, reported, code, rfl⟩
    obtain ⟨finding, found, -, rfl⟩ := mem_errors_check.mp reported
    exact ⟨finding, found, code, rfl⟩
  · rintro ⟨finding, found, code, rfl⟩
    have grave : finding.code.severity = .error := by rw [code]; rfl
    exact ⟨finding.issue, mem_errors_check.mpr ⟨finding, found, grave, rfl⟩, code, rfl⟩

theorem number_of_warning {warning : Issue} {position : Nat} {field : String}
    (reported : warning ∈ (graph.check limits).warnings)
    (path : warning.path = (Place.edgeField position field).text) :
    ∃ edge number, graph.edges[position]? = some edge ∧ edge.number? field = some number ∧
      (number.isFinite = true ∨ field = "strength_mean" ∧ graph.Astray position edge) := by
  obtain ⟨finding, found, mild, rfl⟩ := mem_warnings_check.mp reported
  have here : finding.place = .edgeField position field := Place.text_injective path
  rcases Survey.place_of_mild found mild with
    ⟨_, place⟩ | ⟨_, place⟩ | ⟨_, _, edge, number, place, known⟩
  · cases here.symm.trans place
  · cases here.symm.trans place
  · cases here.symm.trans place
    exact ⟨edge, number, known⟩

/-- The advice on nodes is about their drivers, which are no numbers. -/
theorem no_warning_at_nodeField {position : Nat} {field : String}
    (other : field ≠ "data.uncertainty_drivers") :
    ¬ ∃ warning ∈ (graph.check limits).warnings,
      warning.path = (Place.nodeField position field).text := by
  rintro ⟨warning, reported, path⟩
  obtain ⟨finding, found, mild, rfl⟩ := mem_warnings_check.mp reported
  have here : finding.place = .nodeField position field := Place.text_injective path
  rcases Survey.place_of_mild found mild with ⟨_, place⟩ | ⟨_, place⟩ | ⟨_, _, _, _, place, -⟩
  · cases here.symm.trans place
  · cases here.symm.trans place
    exact other rfl
  · cases here.symm.trans place

theorem reported_twice_of_astray {position : Nat} {edge : Edge}
    (astray : graph.Astray position edge) (limits : Limits) :
    (∃ warning ∈ (graph.check limits).warnings,
      warning.path = (Place.edgeField position "strength_mean").text) ∧
    ∃ error ∈ (graph.check limits).errors, error.code = .nanValue ∧
      error.path = (Place.edgeField position "strength_mean").text := by
  constructor
  · obtain ⟨finding, found, place⟩ := Survey.exists_advice_of_astray astray
    exact exists_warning_iff.mpr ⟨finding, Survey.mem_findings.mpr (by simp [found]),
      IssueCode.severity_of_advisory (Survey.origin_of_mem_advice found), by rw [place]⟩
  · obtain ⟨finding, found, code, place⟩ := Survey.exists_unfinite_of_astray astray
    exact exists_unfinite_iff.mpr ⟨finding, Survey.mem_findings.mpr (by simp [found]), code,
      by rw [place]⟩

/-- A warning that names a number of an edge names a finite one, and no warning stands where an
error tells of a number that is not finite, but for infinite means that go astray. -/
theorem advised_unfinite_iff_astray (graph : Graph) (limits : Limits) :
    (∀ warning ∈ (graph.check limits).warnings, ∀ position field,
      warning.path = (Place.edgeField position field).text →
        ∃ edge number, graph.edges[position]? = some edge ∧ edge.number? field = some number ∧
          (number.isFinite = true ∨ field = "strength_mean" ∧ graph.Astray position edge)) ∧
    ∀ path,
      ((∃ warning ∈ (graph.check limits).warnings, warning.path = path) ∧
        ∃ error ∈ (graph.check limits).errors, error.code = .nanValue ∧ error.path = path) ↔
      ∃ position edge, graph.Astray position edge ∧
        path = (Place.edgeField position "strength_mean").text := by
  refine ⟨fun warning reported position field => number_of_warning reported, fun path => ?_⟩
  constructor
  · rintro ⟨warned, errors⟩
    obtain ⟨finding, found, code, rfl⟩ := exists_unfinite_iff.mp errors
    rcases Survey.place_of_mem_unfiniteNumbers (Survey.mem_unfiniteNumbers_of_code found code) with
      ⟨position, field, place, other⟩ |
      ⟨position, field, edge, number, place, listed, stated, unfinite⟩
    · rw [place] at warned
      exact absurd warned (no_warning_at_nodeField other)
    · rw [place] at warned ⊢
      obtain ⟨warning, reported, path⟩ := warned
      obtain ⟨again, value, listedToo, statedToo, finite | ⟨rfl, astray⟩⟩ :=
        number_of_warning reported path
      · cases listed.symm.trans listedToo
        cases stated.symm.trans statedToo
        cases finite.symm.trans unfinite
      · exact ⟨position, again, astray, rfl⟩
  · rintro ⟨position, edge, astray, rfl⟩
    exact reported_twice_of_astray astray limits

end Graph

namespace Sample

/-- An outcome lowers the goal without bound. -/
def plunge : Edge := { Edge.causal "out_revenue" "goal_1" 0.8 0.1 0.95 with mean := -1.0 / 0.0 }

def bottomless : Graph := { minimal with edges := minimal.edges.set 5 plunge }

theorem astray_bottomless : bottomless.Astray 5 plunge := by
  refine ⟨rfl, by decide +kernel, 2, 3, by decide, by decide, by decide, .inl ⟨by decide, ?_⟩⟩
  decide +kernel

end Sample

theorem Graph.advice_meets_unfinite_number :
    ¬ ∀ (graph : Graph) (limits : Limits), ∀ warning ∈ (graph.check limits).warnings,
      ∀ error ∈ (graph.check limits).errors, error.code = .nanValue →
        warning.path ≠ error.path := by
  intro apart
  obtain ⟨⟨warning, warned, place⟩, error, reported, code, same⟩ :=
    reported_twice_of_astray Sample.astray_bottomless .standard
  exact apart Sample.bottomless .standard warning warned error reported code
    (place.trans same.symm)

end DecisionGraph

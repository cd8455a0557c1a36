import DecisionGraph.Proofs.Spot
import DecisionGraph.Proofs.TrustedClaims

/-!
Claims are only claims: whatever categories the factors of a graph declare for themselves, a check
infers the same categories and finds the same, apart from what it says about the claims. Most passes
read the outline of a graph, which holds no claims, and the others are compared one by one.
-/

namespace DecisionGraph

/-- A factor that declares no category. -/
def NodeBody.unclaimed : NodeBody → NodeBody
  | factor _ data => factor none data
  | body => body

def Node.unclaimed (node : Node) : Node := { node with body := node.body.unclaimed }

def Graph.unclaimed (graph : Graph) : Graph :=
  { graph with nodes := graph.nodes.map Node.unclaimed }

def Survey.unclaimed (survey : Survey) : Survey :=
  { survey with graph := survey.graph.unclaimed }

namespace Node

variable (node : Node)

@[simp] theorem outline_unclaimed : node.unclaimed.outline = node.outline := by
  unfold unclaimed outline
  cases node.body <;> rfl

@[simp] theorem id_unclaimed : node.unclaimed.id = node.id := rfl

@[simp] theorem factorData?_unclaimed : node.unclaimed.factorData? = node.factorData? := by
  unfold factorData? unclaimed
  cases node.body <;> rfl

end Node

namespace Graph

variable (graph : Graph)

theorem nodes_unclaimed : graph.unclaimed.nodes = graph.nodes.map Node.unclaimed := rfl

theorem outline_unclaimed : graph.unclaimed.outline = graph.outline := by
  simp only [outline, unclaimed, List.map_map, Function.comp_def, Node.outline_unclaimed]

/-- What is read off the outline of a graph is read without its claims. -/
theorem eq_unclaimed {α : Type} {read : Graph → α}
    (outlined : ∀ graph : Graph, read graph.outline = read graph) :
    read graph.unclaimed = read graph := by
  rw [← outlined graph.unclaimed, outline_unclaimed, outlined]

@[simp] theorem position?_unclaimed : graph.unclaimed.position? = graph.position? :=
  graph.eq_unclaimed fun graph => funext graph.position?_outline

@[simp] theorem kindAt?_unclaimed : graph.unclaimed.kindAt? = graph.kindAt? :=
  graph.eq_unclaimed fun graph => funext graph.kindAt?_outline

theorem categories_unclaimed : graph.unclaimed.categories = graph.categories :=
  graph.eq_unclaimed categories_outline

theorem live_unclaimed :
    graph.unclaimed.live = graph.live.map fun entry => (entry.1.unclaimed, entry.2) := by
  simp only [live, nodes_unclaimed, List.zipIdx_map, List.filter_map, position?_unclaimed]
  rfl

end Graph

namespace Survey

theorem ofGraph_unclaimed (graph : Graph) :
    ofGraph graph.unclaimed = (ofGraph graph).unclaimed := by
  have links := graph.eq_unclaimed Graph.links_outline
  have unique := graph.eq_unclaimed fun graph => funext graph.uniqueOfKind?_outline
  have count : graph.unclaimed.nodes.length = graph.nodes.length := List.length_map _
  simp only [ofGraph, unclaimed, links, graph.categories_unclaimed, unique, count]

variable (survey : Survey)

theorem eq_unclaimed {α : Type} {read : Survey → α}
    (outlined : ∀ survey : Survey, read survey.outline = read survey) :
    read survey.unclaimed = read survey := by
  have same : survey.unclaimed.outline = survey.outline := by
    rw [outline, unclaimed, Graph.outline_unclaimed, outline]
  rw [← outlined survey.unclaimed, same, outlined]

/-! The passes that never read a claim. -/

theorem census_unclaimed (limits : Limits) :
    survey.unclaimed.census limits = survey.census limits := by
  have counts := survey.eq_unclaimed fun survey => funext survey.counts_outline
  have ends : survey.unclaimed.undeclaredEnds = survey.undeclaredEnds := by
    simp only [undeclaredEnds, unclaimed, Graph.position?_unclaimed]
    rfl
  simp only [census, counts, survey.eq_unclaimed repeatedIds_outline, ends]

theorem isScaffold_unclaimed : survey.unclaimed.isScaffold = survey.isScaffold := by
  funext link
  simp only [isScaffold, unclaimed, Graph.kindAt?_unclaimed]

theorem looseScaffold_unclaimed : survey.unclaimed.looseScaffold = survey.looseScaffold := by
  simp only [looseScaffold, unclaimed, Graph.kindAt?_unclaimed]
  rfl

theorem advice_unclaimed : survey.unclaimed.advice = survey.advice := by
  have polarity : survey.unclaimed.polarityAdvice = survey.polarityAdvice := by
    funext link edge
    simp only [polarityAdvice, unclaimed, Graph.kindAt?_unclaimed]
  have deviation : survey.unclaimed.deviationAdvice = survey.deviationAdvice := by
    funext link edge
    simp only [deviationAdvice, isScaffold_unclaimed]
  have drivers (node : Node) (position : Nat) :
      survey.unclaimed.driverAdvice node.unclaimed position =
        survey.driverAdvice node position := by
    simp only [driverAdvice, Node.factorData?_unclaimed, Node.id_unclaimed]
    rfl
  have edges : survey.unclaimed.edgeAdvice = survey.edgeAdvice := by
    simp only [edgeAdvice, polarity, deviation]
    rfl
  rw [advice_eq_append, advice_eq_append, edges, unclaimed, Graph.live_unclaimed, List.flatMap_map]
  exact congrArg _ (List.flatMap_congr fun entry _ => drivers entry.1 entry.2)

end Survey

/-! The passes that do read claims, without what they say about them. -/

/-- The codes of what a check says about claims. -/
def claimCodes : List IssueCode := [.categoryMismatch, .goalNumberAsFactor]

/-- Findings without those that have one of the codes. -/
def Finding.besides (codes : List IssueCode) (findings : List Finding) : List Finding :=
  findings.filter fun finding => finding.code ∉ codes

/-- A report without the issues that have one of the codes. -/
def Report.besides (codes : List IssueCode) (report : Report) : Report :=
  let errors := report.errors.filter fun issue => issue.code ∉ codes
  ⟨errors.isEmpty, errors, report.warnings.filter fun issue => issue.code ∉ codes⟩

namespace Finding

theorem besides_append (codes : List IssueCode) (findings more : List Finding) :
    besides codes (findings ++ more) = besides codes findings ++ besides codes more :=
  List.filter_append ..

theorem besides_flatMap {α : Type} (codes : List IssueCode) (items : List α)
    (find : α → List Finding) :
    besides codes (items.flatMap find) = items.flatMap fun item => besides codes (find item) :=
  List.filter_flatMap

theorem besides_eq_nil {codes : List IssueCode} {findings : List Finding}
    (coded : ∀ finding ∈ findings, finding.code ∈ codes) : besides codes findings = [] := by
  refine List.filter_eq_nil_iff.mpr fun finding found => ?_
  simp [coded finding found]

end Finding

namespace Survey

open Finding

theorem besides_dataOf (node : Node) (position : Nat) (category : Category) :
    besides claimCodes (dataOf node.unclaimed position category) =
      besides claimCodes (dataOf node position category) := by
  have claims (node : Node) : besides claimCodes (claimsOf node position category) = [] := by
    refine besides_eq_nil fun finding found => ?_
    obtain ⟨declared, -, -, rfl⟩ := mem_claimsOf.mp found
    exact List.mem_cons_self
  rw [dataOf_eq_append, dataOf_eq_append, besides_append, besides_append, claims, claims,
    Node.factorData?_unclaimed, Node.id_unclaimed]

variable (survey : Survey)

theorem besides_data : besides claimCodes survey.unclaimed.data = besides claimCodes survey.data := by
  have categories : survey.unclaimed.category? = survey.category? := rfl
  have live : survey.unclaimed.graph.live =
      survey.graph.live.map fun entry => (entry.1.unclaimed, entry.2) := survey.graph.live_unclaimed
  rw [data, data, categories, live, List.flatMap_map, besides_flatMap, besides_flatMap]
  refine List.flatMap_congr ?_
  rintro ⟨node, position⟩ -
  simp only
  cases survey.category? position with
  | none => rfl
  | some category => exact besides_dataOf node position category

theorem besides_goalNumbers : besides claimCodes survey.goalNumbers = [] := by
  refine besides_eq_nil fun finding found => ?_
  obtain ⟨node, position, -, -, -, -, -, rfl⟩ := mem_goalNumbers.mp found
  exact List.mem_cons_of_mem _ List.mem_cons_self

theorem besides_findings (limits : Limits) :
    besides claimCodes (survey.unclaimed.findings limits) =
      besides claimCodes (survey.findings limits) := by
  simp only [findings, besides_append, besides_data, besides_goalNumbers, census_unclaimed,
    looseScaffold_unclaimed, advice_unclaimed, survey.eq_unclaimed wiring_outline,
    survey.eq_unclaimed connection_outline, survey.eq_unclaimed choice_outline,
    survey.eq_unclaimed unfiniteNumbers_outline]

end Survey

theorem Report.besides_ofIssues (codes : List IssueCode) (issues : List Issue) :
    (ofIssues issues).besides codes =
      ofIssues (issues.filter fun issue => issue.code ∉ codes) := by
  simp only [besides, ofIssues, List.filter_filter, Bool.and_comm]

namespace Graph

theorem besides_check (codes : List IssueCode) (graph : Graph) (limits : Limits) :
    (graph.check limits).besides codes =
      .ofIssues ((Finding.besides codes ((Survey.ofGraph graph).findings limits)).map
        Finding.issue) := by
  rw [check, Report.besides_ofIssues, List.filter_map]
  rfl

theorem check_unclaimed (graph : Graph) (limits : Limits) :
    (graph.unclaimed.check limits).besides claimCodes =
      (graph.check limits).besides claimCodes := by
  rw [besides_check, besides_check, Survey.ofGraph_unclaimed, Survey.besides_findings]

/-- Graphs that differ only in the claims of their factors have the same categories, and their
reports are the same but for what they say about claims. -/
theorem besides_check_of_unclaimed {graph other : Graph} (limits : Limits)
    (same : graph.unclaimed = other.unclaimed) :
    (graph.check limits).besides claimCodes = (other.check limits).besides claimCodes ∧
      graph.categories = other.categories := by
  constructor
  · rw [← check_unclaimed, same, check_unclaimed]
  · rw [← categories_unclaimed, same, categories_unclaimed]

end Graph

/-- Here the claim decides whether the label is read as a goal, and nothing else. -/
theorem Graph.besides_check_trusting :
    let doubting := (Sample.minimal.pushNode (.bareFactor "fac_trusted" "Hit $5M target")).pushEdge
      (.causal "fac_trusted" "out_revenue" 0.3 0.1 0.7)
    (doubting.check .standard).Names .goalNumberAsFactor (.nodeField 6 "label") ∧
      ¬ (Sample.trusting.check .standard).Names .goalNumberAsFactor (.nodeField 6 "label") ∧
      doubting.unclaimed = Sample.trusting.unclaimed ∧
      (doubting.check .standard).besides claimCodes =
        (Sample.trusting.check .standard).besides claimCodes := by
  intro doubting
  have same : doubting.unclaimed = Sample.trusting.unclaimed := rfl
  refine ⟨?_, ?_, same, (besides_check_of_unclaimed .standard same).1⟩
  · exact names_goalNumber_iff.mpr
      ⟨.bareFactor "fac_trusted" "Hit $5M target", by decide, rfl, by decide, by decide,
        by decide +kernel⟩
  · rw [names_goalNumber_iff]
    rintro ⟨node, live, -, -, declared, -⟩
    cases eq_of_live live Sample.trusted_live
    exact declared rfl

end DecisionGraph

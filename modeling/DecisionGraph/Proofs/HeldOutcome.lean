import DecisionGraph.Proofs.Addressed
import DecisionGraph.Proofs.OutcomeText
import DecisionGraph.Proofs.Survival

/-!
What preparing a graph gives is held: the facts of issues, the values in the log of a repair and the
constraints that are left can all be written.
-/

namespace DecisionGraph

open Repair

/-! Facts. -/

namespace Finding

/-- The counts and positions among the facts of a finding. -/
def counts : Finding → List Nat
  | goalCount count | decisionCount count => [count]
  | optionCount count least most => [count, least, most]
  | tooManyNodes count limit | tooManyEdges count limit => [count, limit]
  | repeatedId _ _ first => first.toList
  | undeclaredEnd position _ _ | cycle position _ => [position]
  | _ => []

theorem held_ends (edge : Edge) (room : Nat) : ∀ fact ∈ ends edge, fact.2.Held room := by
  simp only [ends, List.forall_mem_cons]
  exact ⟨.string room _, .string room _, List.forall_mem_nil _⟩

theorem held_scaffoldFacts (edge : Edge) (room : Nat) :
    ∀ fact ∈ scaffoldFacts edge, fact.2.Held room := by
  refine List.forall_mem_append.mpr ⟨held_ends edge room, ?_⟩
  simp only [List.forall_mem_cons]
  exact ⟨.ofFloat room _, .ofOption fun x _ => .ofFloat room x,
    .ofOption fun x _ => .ofFloat room x, .ofOption fun _ _ => .string room _,
    List.forall_mem_nil _⟩

theorem held_facts {finding : Finding} (small : ∀ count ∈ finding.counts, count < 2 ^ 64)
    (room : Nat) : ∀ fact ∈ finding.facts, fact.2.Held (room + 1) := by
  cases finding with
  | goalCount count | decisionCount count =>
      simp only [counts, List.forall_mem_singleton] at small
      simp only [facts, List.forall_mem_cons]
      exact ⟨.string _ _, .ofNat small, List.forall_mem_nil _⟩
  | optionCount count least most =>
      simp only [counts, List.forall_mem_cons] at small
      simp only [facts, List.forall_mem_cons]
      exact ⟨.ofNat small.1, .ofNat small.2.1, .ofNat small.2.2.1, List.forall_mem_nil _⟩
  | tooManyNodes count limit | tooManyEdges count limit =>
      simp only [counts, List.forall_mem_cons] at small
      simp only [facts, List.forall_mem_cons]
      exact ⟨.ofNat small.1, .ofNat small.2.1, List.forall_mem_nil _⟩
  | repeatedId position id first =>
      simp only [facts, List.forall_mem_cons]
      refine ⟨.string _ _, .ofOption fun declared given => .ofNat ?_, List.forall_mem_nil _⟩
      exact small declared (Option.mem_toList.mpr given)
  | undeclaredEnd position edge side =>
      simp only [counts, List.forall_mem_singleton] at small
      simp only [facts, List.forall_mem_append, List.forall_mem_singleton]
      exact ⟨⟨.ofNat small, held_ends edge _⟩, .string _ _⟩
  | cycle position ids =>
      simp only [counts, List.forall_mem_singleton] at small
      simp only [facts, List.forall_mem_cons]
      exact ⟨.texts _ _, .ofNat small, List.forall_mem_nil _⟩
  | looseOptionScaffold position edge | looseDecisionScaffold position edge =>
      exact held_scaffoldFacts edge _
  | strongEffect position edge | loweringOutcome position edge | raisingRisk position edge
  | improbable position field edge x | lowBelief position field edge x
  | narrowEffect position edge x =>
      exact List.forall_mem_append.mpr
        ⟨held_ends edge _, List.forall_mem_singleton.mpr (.ofFloat _ _)⟩
  | signMismatch position edge declared implied =>
      simp only [facts, List.forall_mem_append, List.forall_mem_cons]
      exact ⟨held_ends edge _, .string _ _, .ofFloat _ _, List.forall_mem_nil _⟩
  | dataDefect position id category defect =>
      cases defect with
      | missing keys | extra keys =>
          simp only [facts, List.forall_mem_cons]
          exact ⟨.string _ _, .texts _ _, List.forall_mem_nil _⟩
      | unexpected => exact List.forall_mem_singleton.mpr (.string _ _)
  | goalLeft position id ids | decisionEntered position id ids | noEffect position id ids =>
      simp only [facts, List.forall_mem_cons]
      exact ⟨.string _ _, .texts _ _, List.forall_mem_nil _⟩
  | identicalOptions position ids => exact List.forall_mem_singleton.mpr (.texts _ _)
  | _ =>
      -- Nothing but texts.
      simp [facts, Vocabulary.json, Json.Held.string]

theorem held_issue {finding : Finding} (small : ∀ count ∈ finding.counts, count < 2 ^ 64) :
    finding.issue.Held :=
  Json.Held.free (held_facts small _)

theorem counts_eq_nil {finding : Finding} (origin : finding.code.origin ≠ .structural)
    (code : finding.code ≠ .cycleDetected) : finding.counts = [] := by
  cases finding with
  | goalCount | decisionCount | optionCount | tooManyNodes | tooManyEdges | repeatedId
  | undeclaredEnd => exact absurd rfl origin
  | cycle => exact absurd rfl code
  | _ => rfl

end Finding

/-! Counts. -/

/-- The lengths of lists fit a word of the machine. -/
structure Graph.Sized (graph : Graph) : Prop where
  nodes : graph.nodes.length < 2 ^ 64
  edges : graph.edges.length < 2 ^ 64

structure Limits.Sized (limits : Limits) : Prop where
  nodes : limits.nodes < 2 ^ 64
  edges : limits.edges < 2 ^ 64
  minOptions : limits.minOptions < 2 ^ 64
  maxOptions : limits.maxOptions < 2 ^ 64

namespace Survey

variable {graph : Graph} {limits : Limits} {finding : Finding}

theorem counts_lt_of_mem_counts (sized : graph.Sized) (bounded : limits.Sized)
    (found : finding ∈ (ofGraph graph).counts limits) :
    ∀ count ∈ finding.counts, count < 2 ^ 64 := by
  have kinds (kind : NodeKind) : graph.countKind kind < 2 ^ 64 :=
    (List.length_filter_le _ graph.nodes).trans_lt sized.nodes
  simp only [counts, List.mem_append, Finding.mem_unless] at found
  rcases found with ((((⟨_, rfl⟩ | ⟨_, rfl⟩) | ⟨_, rfl⟩) | ⟨_, rfl⟩) | ⟨_, rfl⟩) | ⟨_, rfl⟩
  · exact List.forall_mem_singleton.mpr (kinds .goal)
  · exact List.forall_mem_singleton.mpr (kinds .decision)
  · simp only [Finding.counts, List.forall_mem_cons]
    exact ⟨kinds .option, bounded.minOptions, bounded.maxOptions, List.forall_mem_nil _⟩
  · exact List.forall_mem_nil _
  · simp only [Finding.counts, List.forall_mem_cons]
    exact ⟨sized.nodes, bounded.nodes, List.forall_mem_nil _⟩
  · simp only [Finding.counts, List.forall_mem_cons]
    exact ⟨sized.edges, bounded.edges, List.forall_mem_nil _⟩

theorem counts_lt_of_mem_repeatedIds (sized : graph.Sized)
    (found : finding ∈ (ofGraph graph).repeatedIds) :
    ∀ count ∈ finding.counts, count < 2 ^ 64 := by
  obtain ⟨⟨node, position⟩, _, made⟩ := List.mem_filterMap.mp found
  simp only [Option.ite_none_right_eq_some, Option.some.injEq] at made
  obtain ⟨_, rfl⟩ := made
  intro count counted
  obtain ⟨first, listed, _⟩ := Graph.getElem?_of_position? (Option.mem_toList.mp counted)
  exact (List.getElem?_eq_some_iff.mp listed).1.trans sized.nodes

theorem counts_lt_of_mem_undeclaredEnds (sized : graph.Sized)
    (found : finding ∈ (ofGraph graph).undeclaredEnds) :
    ∀ count ∈ finding.counts, count < 2 ^ 64 := by
  have placed := (tells_undeclaredEnds graph).placed finding found
  obtain ⟨⟨edge, position⟩, _, made⟩ := List.mem_flatMap.mp found
  obtain ⟨side, _, made⟩ := List.mem_filterMap.mp made
  simp only [Option.ite_none_right_eq_some, Option.some.injEq] at made
  obtain ⟨_, rfl⟩ := made
  exact List.forall_mem_singleton.mpr (placed.1.trans sized.edges)

/-- Everything that a check counts fits a word of the machine. -/
theorem counts_lt_of_mem_findings (sized : graph.Sized) (bounded : limits.Sized)
    (found : finding ∈ (ofGraph graph).findings limits) :
    ∀ count ∈ finding.counts, count < 2 ^ 64 := by
  have passed := mem_passesOf found
  by_cases origin : finding.code.origin = .structural
  · rw [origin] at passed
    simp only [passesOf, census, List.mem_append] at passed
    rcases passed with (counted | again) | undeclared
    · exact counts_lt_of_mem_counts sized bounded counted
    · exact counts_lt_of_mem_repeatedIds sized again
    · exact counts_lt_of_mem_undeclaredEnds sized undeclared
  · by_cases code : finding.code = .cycleDetected
    · obtain ⟨codes, told⟩ := tells_findings graph limits
      have placed := told.placed finding found
      cases finding with
      | cycle position ids => exact List.forall_mem_singleton.mpr (Nat.lt_trans placed sized.edges)
      | dataDefect position id category defect => cases category <;> cases defect <;> cases code
      | _ => cases code
    · rw [Finding.counts_eq_nil origin code]
      exact List.forall_mem_nil _

end Survey

/-! The log of a repair. -/

theorem Json.Entered.held {json : Json} (entered : json.Entered) (room : Nat) :
    json.Held (room + 1) := by
  cases entered with
  | nothing => exact .null _
  | text text => exact .string _ text
  | texts texts => exact .texts room texts

theorem Logged.All.held {α : Type} {logged : Logged α} {rule : RepairRule} {code : IssueCode}
    {target : Target} (made : logged.All (Mutation.MadeFor rule code target False))
    (small : ∀ position ∈ target.edgePosition?, position < 2 ^ 64) : logged.All Mutation.Held := by
  refine made.imp fun entry made => ?_
  obtain ⟨field, before, after, entered, left, _, rfl⟩ := made
  exact ⟨entered.held _, left.held _, small⟩

theorem Constraint.held_told (constraint : Constraint) (fate : Option Constraint) :
    ∀ entry ∈ constraint.told fate, entry.Held := by
  cases fate with
  | none =>
      exact List.forall_mem_singleton.mpr
        ⟨.string _ _, .null _, fun _ placed => absurd placed (Option.not_mem_none _)⟩
  | some aimed =>
      rw [told]
      split
      · exact List.forall_mem_nil _
      · exact List.forall_mem_singleton.mpr
          ⟨.string _ _, .string _ _, fun _ placed => absurd placed (Option.not_mem_none _)⟩

namespace Graph

variable {graph : Graph}

theorem held_eachNode {change : Option Category → Node → Logged Node} {rule : RepairRule}
    {code : IssueCode}
    (made : ∀ inferred node,
      (change inferred node).All (Mutation.MadeFor rule code (.node node.id) False))
    (categories : List (Option Category)) : (eachNode change categories graph).All Mutation.Held :=
  all_eachNode graph categories fun inferred node _ => (made inferred node).held nofun

theorem held_eachEdge {change : Edge → Nat → Logged Edge} {rule : RepairRule} {code : IssueCode}
    (made : ∀ edge position,
      (change edge position).All (Mutation.MadeFor rule code (edgeTarget edge position) False))
    (small : graph.edges.length < 2 ^ 64) : (eachEdge change graph).All Mutation.Held := by
  refine all_eachEdge graph fun edge position listed => (made edge position).held ?_
  rintro _ ⟨⟩
  exact (List.getElem?_eq_some_iff.mp listed).1.trans small

theorem held_correctWords (small : graph.edges.length < 2 ^ 64) :
    (correctWords graph).All Mutation.Held := by
  have nodes : (Logged.each correctNode graph.nodes).All Mutation.Held :=
    Logged.all_each fun node _ => (all_correctNode False.elim).held nofun
  exact nodes.andThen
    (held_eachEdge (fun edge position => all_correctEdge position False.elim) small)

theorem held_aimAll (options : Repair.Options) : (aimAll options graph).All Mutation.Held := by
  unfold aimAll
  split
  · exact Logged.all_unchanged none
  · refine Logged.All.map (Logged.All.map (Logged.all_each fun constraint _ => ?_) _) _
    intro entry listed
    rw [Constraint.log_aimConstraint] at listed
    exact Constraint.held_told constraint _ entry listed

theorem held_completeAll (wanted : Bool) (categories : List (Option Category)) :
    (completeAll wanted categories graph).All Mutation.Held := by
  cases wanted with
  | false => exact Logged.all_unchanged graph
  | true => exact held_eachNode all_completeData categories

/-- Every entry of the log can be written. -/
theorem held_repair (sized : graph.Sized) (options : Repair.Options) :
    ∀ entry ∈ (graph.repair options).2.mutations, entry.Held := by
  have overridden : (overrideCategories graph.categories graph).All Mutation.Held :=
    held_eachNode all_overrideCategory graph.categories
  have corrected : (correctWords (overrideCategories graph.categories graph).value).All
      Mutation.Held := held_correctWords sized.edges
  have edges : graph.worded.edges.length = graph.edges.length := by
    simp [worded, correctWords, eachEdge, Logged.andThen, Logged.map, overrideCategories, eachNode]
  have aimed : (aimAll options graph.worded).All Mutation.Held := held_aimAll options
  have signed : (correctSigns graph.worded).All Mutation.Held :=
    held_eachEdge all_correctSign (edges ▸ sized.edges)
  have completed : (completeAll options.fill graph.categories
      (correctSigns graph.worded).value).All Mutation.Held := held_completeAll _ _
  intro entry listed
  simp only [repair, List.mem_append] at listed
  rcases listed with (((listed | listed) | listed) | listed) | listed
  · exact overridden entry listed
  · exact corrected entry listed
  · exact aimed entry listed
  · exact signed entry listed
  · exact completed entry listed

theorem sized_repair (sized : graph.Sized) (options : Repair.Options) :
    (graph.repair options).1.Sized := by
  rw [value_repair]
  exact ⟨by simpa [mended, length_categories] using sized.nodes,
    by simpa [mended] using sized.edges⟩

/-- A constraint keeps its value where it is aimed. -/
theorem finite_constraints_repair (options : Repair.Options)
    (finite : ∀ constraints ∈ options.constraints, ∀ constraint ∈ constraints,
      constraint.value.isFinite = true) :
    ∀ constraints ∈ (graph.repair options).2.constraints, ∀ constraint ∈ constraints,
      constraint.value.isFinite = true := by
  intro kept same constraint listed
  change (aimAll options graph.worded).value = some kept at same
  unfold aimAll at same
  split at same
  · cases same
  · next constraints given =>
    cases same
    obtain ⟨fate, aimed, left⟩ := List.mem_filterMap.mp listed
    obtain ⟨original, among, rfl⟩ := List.mem_map.mp aimed
    have follows := Constraint.follows_of_aimed left
    rw [follows.rest]
    exact finite constraints given original among

/-! The reports. -/

theorem held_check (sized : graph.Sized) {limits : Limits} (bounded : limits.Sized) :
    ∀ issue ∈ (graph.check limits).issues, issue.Held := by
  intro issue reported
  have listed : issue ∈ ((Survey.ofGraph graph).findings limits).map Finding.issue :=
    (Report.perm_ofIssues _).mem_iff.mp reported
  obtain ⟨finding, found, rfl⟩ := List.mem_map.mp listed
  exact Finding.held_issue (Survey.counts_lt_of_mem_findings sized bounded found)

theorem held_gate (graph : Graph) : ∀ issue ∈ graph.gate.errors, issue.Held := by
  intro issue reported
  obtain ⟨finding, found, rfl⟩ := List.mem_map.mp reported
  obtain ⟨⟨edge, position⟩, _, made⟩ := List.mem_filterMap.mp found
  obtain ⟨declared, implied, _, _, _, rfl⟩ := signFinding?_eq_some_iff.mp made
  exact Finding.held_issue nofun

theorem held_ofGraph (sized : graph.Sized) {limits : Limits} (bounded : limits.Sized)
    {repaired : Repair.Outcome} (mutations : ∀ entry ∈ repaired.mutations, entry.Held)
    (constraints : ∀ constraints ∈ repaired.constraints, ∀ constraint ∈ constraints,
      constraint.value.isFinite = true) : (Readiness.ofGraph graph limits repaired).Held where
  mutations := mutations
  constraints := constraints
  errors issue reported := held_check sized bounded issue (List.mem_append_left _ reported)
  warnings issue reported := held_check sized bounded issue (List.mem_append_right _ reported)
  gate := held_gate graph

theorem held_prepare (sized : graph.Sized) {limits : Limits} (bounded : limits.Sized)
    {options : Option Repair.Options}
    (finite : ∀ given ∈ options, ∀ constraints ∈ given.constraints, ∀ constraint ∈ constraints,
      constraint.value.isFinite = true) : (graph.prepare options limits).2.Held := by
  cases options with
  | none => exact held_ofGraph sized bounded (List.forall_mem_nil _) nofun
  | some given =>
      exact held_ofGraph (sized_repair sized given) bounded (held_repair sized given)
        (finite_constraints_repair given (finite given rfl))

/-- What one pass over a graph gives, repaired or not, is read back from its own text, written on
one line or indented, also from the lines that a command prints. It is asked of the reals in it
that they are read back, and of the values of the constraints that they are finite. -/
theorem prepare_rereads (sized : graph.Sized) {limits : Limits} (bounded : limits.Sized)
    {options : Option Repair.Options}
    (finite : ∀ given ∈ options, ∀ constraints ∈ given.constraints, ∀ constraint ∈ constraints,
      constraint.value.isFinite = true)
    (numbers : ∀ x ∈ (graph.prepare options limits).2.json.reals, x.isFinite = true →
      (Number.real x).ReadsBack) :
    Decoder.read Readiness.decode (graph.prepare options limits).2.json.compactText =
        .ok (graph.prepare options limits).2 ∧
      Decoder.read Readiness.decode (graph.prepare options limits).2.json.prettyText =
        .ok (graph.prepare options limits).2 ∧
      Decoder.read Readiness.decode ((graph.prepare options limits).2.json.prettyText ++ "\n") =
        .ok (graph.prepare options limits).2 :=
  Readiness.read_texts (held_prepare sized bounded finite) numbers

end Graph

namespace Sample

/-- A number that is not finite, a direction against its sign, and factors without data. -/
def unfinished : Graph := .ofLists
  [⟨"opt_a", "Premium price", .option none⟩, Node.bareFactor "fac_price" "Unit price",
    Node.bareFactor "fac_demand" "Demand"]
  [.bare "opt_a" "fac_price" (1 / 0),
    { Edge.bare "fac_price" "fac_demand" 0.5 with direction := some (.word .negative) }]

/-- One constraint stays where it is and one is dropped. -/
def demands : Repair.Options where
  fill := true
  constraints := some
    [⟨"con_1", "fac_demand", ">=", 0.5, none⟩, ⟨"con_2", "sales", "<=", 0.5, some "Sales"⟩]
  labels := .empty

theorem cycles_unfinished : (Survey.ofGraph (unfinished.repair demands).1).cycles = [] := by
  have links : (unfinished.repair demands).1.links = [⟨0, 0, 1⟩, ⟨1, 1, 2⟩] := by decide
  have live : (unfinished.repair demands).1.live.map (·.2) = [0, 1, 2] := by decide
  rw [Survey.cycles, Cycle.find, Survey.ofGraph, links, live]
  simp [Cycle.search, Link.leaving]

theorem reals_unfinished : (unfinished.prepare (some demands) .standard).2.json.reals = [0.5] := by
  simp only [Graph.prepare, Readiness.ofGraph, Graph.check, Survey.findings, Survey.wiring,
    cycles_unfinished]
  decide +kernel

end Sample

open Sample in
theorem Graph.prepare_rereads_unfinished :
    unfinished.Sized ∧ Limits.standard.Sized ∧
      (∀ given ∈ some demands, ∀ constraints ∈ given.constraints, ∀ constraint ∈ constraints,
        constraint.value.isFinite = true) ∧
      (∀ x ∈ (unfinished.prepare (some demands) .standard).2.json.reals, x.isFinite = true →
        (Number.real x).ReadsBack) ∧
      Decoder.read Readiness.decode
          (unfinished.prepare (some demands) .standard).2.json.compactText =
        .ok (unfinished.prepare (some demands) .standard).2 := by
  have sized : unfinished.Sized := ⟨by decide, by decide⟩
  have bounded : Limits.standard.Sized := ⟨by decide, by decide, by decide, by decide⟩
  have half : (0.5 : Float).isFinite = true := by decide
  have finite : ∀ given ∈ some demands, ∀ constraints ∈ given.constraints,
      ∀ constraint ∈ constraints, constraint.value.isFinite = true := by
    rintro _ ⟨⟩ _ ⟨⟩
    simp only [List.forall_mem_cons]
    exact ⟨half, half, nofun⟩
  have numbers : ∀ x ∈ (unfinished.prepare (some demands) .standard).2.json.reals,
      x.isFinite = true → (Number.real x).ReadsBack := by
    rw [reals_unfinished]
    exact List.forall_mem_singleton.mpr fun _ => readsBack_half
  exact ⟨sized, bounded, finite, numbers, (prepare_rereads sized bounded finite numbers).1⟩

end DecisionGraph

import DecisionGraph.Proofs.Renumbering

/-!
Findings under new numbers. What a check finds at a node or a link of one graph, it finds at the
same node or link of a graph that carries it, and only the numbers differ.
-/

namespace DecisionGraph

open Relation

namespace Renumbering

def finding (moved : Renumbering) : Finding → Finding
  | .repeatedId position id first => .repeatedId (moved.node position) id (first.map moved.node)
  | .undeclaredEnd position edge side => .undeclaredEnd (moved.edge position) edge side
  | .goalLeft position id targets => .goalLeft (moved.node position) id targets
  | .decisionEntered position id sources => .decisionEntered (moved.node position) id sources
  | .misplacedEdge position source sourceRole target targetRole =>
    .misplacedEdge (moved.edge position) source sourceRole target targetRole
  | .cycle position ids => .cycle (moved.edge position) ids
  | .unreached position id kind => .unreached (moved.node position) id kind
  | .stranded position id kind => .stranded (moved.node position) id kind
  | .dataDefect position id category defect =>
    .dataDefect (moved.node position) id category defect
  | .categoryClaim position id declared inferred =>
    .categoryClaim (moved.node position) id declared inferred
  | .straySetting position id factor found => .straySetting (moved.node position) id factor found
  | .noEffect position id factors => .noEffect (moved.node position) id factors
  | .identicalOptions position ids => .identicalOptions (moved.node position) ids
  | .goalNumber position id label => .goalNumber (moved.node position) id label
  | .looseOptionScaffold position edge => .looseOptionScaffold (moved.edge position) edge
  | .looseDecisionScaffold position edge => .looseDecisionScaffold (moved.edge position) edge
  | .notFinite place owner value => .notFinite (moved.place place) owner value
  | .strongEffect position edge => .strongEffect (moved.edge position) edge
  | .improbable position field edge belief => .improbable (moved.edge position) field edge belief
  | .lowBelief position field edge belief => .lowBelief (moved.edge position) field edge belief
  | .loweringOutcome position edge => .loweringOutcome (moved.edge position) edge
  | .raisingRisk position edge => .raisingRisk (moved.edge position) edge
  | .narrowEffect position edge deviation => .narrowEffect (moved.edge position) edge deviation
  | .noDrivers position id => .noDrivers (moved.node position) id
  | .signMismatch position edge declared implied =>
    .signMismatch (moved.edge position) edge declared implied
  | .goalCount count => .goalCount count
  | .decisionCount count => .decisionCount count
  | .optionCount count least most => .optionCount count least most
  | .noBridge => .noBridge
  | .tooManyNodes count limit => .tooManyNodes count limit
  | .tooManyEdges count limit => .tooManyEdges count limit

variable (moved : Renumbering)

@[simp] theorem code_finding (finding : Finding) : (moved.finding finding).code = finding.code := by
  cases finding with
  | dataDefect position id category defect => cases category <;> cases defect <;> rfl
  | _ => rfl

@[simp] theorem place_finding (finding : Finding) :
    (moved.finding finding).place = moved.place finding.place := by
  cases finding <;> rfl

theorem map_unless (isFine : Bool) (finding : Finding) :
    (Finding.unless isFine finding).map moved.finding =
      Finding.unless isFine (moved.finding finding) := by
  cases isFine <;> rfl

end Renumbering

/-! What is found at one node or link. -/

/-- What is found when there are ids to name. -/
def Finding.naming (finding : List String → Finding) : List String → Option Finding
  | [] => none
  | names => some (finding names)

theorem Finding.map_naming (renamed : Finding → Finding) (finding : List String → Finding)
    (names : List String) :
    (naming finding names).map renamed = naming (renamed ∘ finding) names := by
  cases names <;> rfl

namespace Survey

variable (survey : Survey)

def leftGoal? (position : Nat) : Option Finding :=
  match Link.leaving survey.links position with
  | [] => none
  | links => some (.goalLeft position (survey.graph.idAt position)
      (links.map fun link => survey.graph.idAt link.target))

def enteredDecision? (position : Nat) : Option Finding :=
  match Link.entering survey.links position with
  | [] => none
  | links => some (.decisionEntered position (survey.graph.idAt position)
      (links.map fun link => survey.graph.idAt link.source))

def misplacedEdge? (link : Link) : Option Finding :=
  match survey.role? link.source, survey.role? link.target with
  | some source, some target =>
    if source.allows target then none
    else some (.misplacedEdge link.edge (survey.graph.idAt link.source) source
      (survey.graph.idAt link.target) target)
  | _, _ => none

def unreached? (reached : List Nat) (entry : Node × Nat) : Option Finding :=
  if entry.2 ∈ reached || survey.isDriver entry.2 then none
  else some (.unreached entry.2 entry.1.id entry.1.kind)

def stranded? (reaching : List Nat) (entry : Node × Nat) : Option Finding :=
  if entry.2 ∈ reaching || entry.1.kind = .decision then none
  else some (.stranded entry.2 entry.1.id entry.1.kind)

def dataAt (entry : Node × Nat) : List Finding :=
  match survey.category? entry.2 with
  | some category => dataOf entry.1 entry.2 category
  | none => []

def goalNumber? (entry : Node × Nat) : Option Finding :=
  if entry.1.isFactor
      && survey.category? entry.2 ≠ some .controllable
      && entry.1.declaredCategory? ≠ some .controllable
      && GoalNumber.isGoalNumber entry.1.label then
    some (.goalNumber entry.2 entry.1.id entry.1.label)
  else none

def looseScaffold? (entry : Link × Edge) : Option Finding :=
  if entry.2.isScaffold then none
  else
    match survey.graph.kindAt? entry.1.source, survey.graph.kindAt? entry.1.target with
    | some .option, some .factor => some (.looseOptionScaffold entry.1.edge entry.2)
    | some .decision, some .option => some (.looseDecisionScaffold entry.1.edge entry.2)
    | _, _ => none

theorem leftGoals_eq : survey.leftGoals = (survey.graph.liveOfKind .goal).filterMap survey.leftGoal? :=
  rfl

theorem enteredDecisions_eq : survey.enteredDecisions =
    (survey.graph.liveOfKind .decision).filterMap survey.enteredDecision? := rfl

theorem misplacedEdges_eq : survey.misplacedEdges = survey.links.filterMap survey.misplacedEdge? :=
  rfl

theorem unreachedNodes_eq : survey.unreachedNodes =
    match survey.reached with
    | none => []
    | some reached => survey.graph.live.filterMap (survey.unreached? reached) := rfl

theorem strandedNodes_eq : survey.strandedNodes =
    match survey.reaching with
    | none => []
    | some reaching => survey.graph.live.filterMap (stranded? reaching) := rfl

theorem data_eq : survey.data = survey.graph.live.flatMap survey.dataAt := rfl

theorem goalNumbers_eq : survey.goalNumbers = survey.graph.live.filterMap survey.goalNumber? := rfl

theorem looseScaffold_eq : survey.looseScaffold =
    survey.linkedEdges.filterMap survey.looseScaffold? := rfl

theorem leftGoal?_eq (survey : Survey) (position : Nat) :
    survey.leftGoal? position =
      Finding.naming (.goalLeft position (survey.graph.idAt position))
        ((Link.leaving survey.links position).map fun link => survey.graph.idAt link.target) := by
  unfold leftGoal?
  cases Link.leaving survey.links position <;> rfl

theorem enteredDecision?_eq (survey : Survey) (position : Nat) :
    survey.enteredDecision? position =
      Finding.naming (.decisionEntered position (survey.graph.idAt position))
        ((Link.entering survey.links position).map fun link => survey.graph.idAt link.source) := by
  unfold enteredDecision?
  cases Link.entering survey.links position <;> rfl

def effectsAt (survey : Survey) (entry : Node × Nat) : List Finding :=
  survey.straySettings entry.1 entry.2 ++ survey.missingEffect entry.1 entry.2

def identical? : List (Node × Nat) → Option Finding
  | (first, position) :: second :: others =>
    some (.identicalOptions position (((first, position) :: second :: others).map (·.1.id)))
  | _ => none

theorem identicalChoices_eq (survey : Survey) :
    survey.identicalChoices = survey.equalOptions.filterMap identical? := by
  refine List.filterMap_congr fun group _ => ?_
  rcases group with _ | ⟨_, _ | _⟩ <;> rfl

theorem isLive_of_mem_factorsOf {graph : Graph} {option : Node} {position factor : Nat}
    (listed : factor ∈ (ofGraph graph).factorsOf option position) : graph.IsLive factor := by
  obtain ⟨node, live, _⟩ := Graph.mem_liveOfKind_iff.mp (List.mem_filter.mp listed).1
  exact ⟨node, live⟩

theorem mem_links_of_linked {entry : Link × Edge} (listed : entry ∈ survey.linkedEdges) :
    entry.1 ∈ survey.links := by
  obtain ⟨link, linked, found⟩ := List.mem_filterMap.mp listed
  obtain ⟨edge, _, rfl⟩ := Option.map_eq_some_iff.mp found
  exact linked

end Survey

/-! The numbers are all that differs. -/

namespace Renumbering.Carries

variable {moved : Renumbering} {graph other : Graph} (carries : moved.Carries graph other)

include carries

theorem hasOptionParent_eq {position : Nat} (live : graph.IsLive position) :
    other.hasOptionParent other.links (moved.node position) =
      graph.hasOptionParent graph.links position := by
  rw [Graph.hasOptionParent, (carries.entering_perm live).any_eq, List.any_map,
    Graph.hasOptionParent]
  rw [Bool.eq_iff_iff, List.any_eq_true, List.any_eq_true]
  refine exists_congr fun link => and_congr_right fun entering => ?_
  have source := Graph.isLive_source (List.mem_filter.mp entering).1
  simp only [Function.comp, Renumbering.link, carries.kindAt?_eq source]

theorem category?_eq {position : Nat} (live : graph.IsLive position) :
    (Survey.ofGraph other).category? (moved.node position) =
      (Survey.ofGraph graph).category? position := by
  have parents := carries.hasOptionParent_eq live
  obtain ⟨node, live⟩ := live
  have here := (Graph.mem_live_iff.mp live).1
  have there := (Graph.mem_live_iff.mp (carries.mem_live live)).1
  change other.category? _ = graph.category? _
  rw [Graph.category?_of_node other there, Graph.category?_of_node graph here, Graph.categoryOf,
    Graph.categoryOf, parents]

theorem role?_eq {position : Nat} (live : graph.IsLive position) :
    (Survey.ofGraph other).role? (moved.node position) =
      (Survey.ofGraph graph).role? position := by
  rw [Survey.role?, Survey.role?, carries.category?_eq live]
  exact congrArg (Option.map _) (carries.kindAt?_eq live)

/-- The same positions, under new numbers as far as they are live. -/
def Same (moved : Renumbering) (graph : Graph) : Option (List Nat) → Option (List Nat) → Prop :=
  Option.Rel fun found again => ∀ position, graph.IsLive position →
    (moved.node position ∈ again ↔ position ∈ found)

theorem same_reached :
    Same moved graph (Survey.ofGraph graph).reached (Survey.ofGraph other).reached := by
  simp only [Survey.ofGraph, carries.uniqueOfKind?_eq, Option.map_map]
  cases only : graph.uniqueOfKind? .decision with
  | none => exact .none
  | some start =>
      obtain ⟨decision, live, _⟩ := Graph.uniqueOfKind?_eq_some_iff.mp only
      refine .some fun position also => ?_
      rw [Function.comp, Reach.mem_forward fun _ => Graph.source_lt,
        Reach.mem_forward fun _ => Graph.source_lt, carries.walk_iff ⟨_, live⟩ also]
      exact and_congr_left fun _ => iff_of_true (carries.isLive also).lt also.lt

theorem same_reaching :
    Same moved graph (Survey.ofGraph graph).reaching (Survey.ofGraph other).reaching := by
  simp only [Survey.ofGraph, carries.uniqueOfKind?_eq, Option.map_map]
  cases only : graph.uniqueOfKind? .goal with
  | none => exact .none
  | some stop =>
      obtain ⟨goal, live, _⟩ := Graph.uniqueOfKind?_eq_some_iff.mp only
      refine .some fun position also => ?_
      rw [Function.comp, Reach.mem_backward fun _ => Graph.target_lt,
        Reach.mem_backward fun _ => Graph.target_lt, carries.walk_iff also ⟨_, live⟩]
      exact and_congr_left fun _ => iff_of_true (carries.isLive also).lt also.lt

theorem isDriver_eq {position : Nat} (live : graph.IsLive position) :
    (Survey.ofGraph other).isDriver (moved.node position) =
      (Survey.ofGraph graph).isDriver position := by
  have reaching := carries.same_reaching
  rw [Survey.isDriver, Survey.isDriver, carries.category?_eq live]
  generalize (Survey.ofGraph graph).reaching = found at reaching
  generalize (Survey.ofGraph other).reaching = again at reaching
  cases reaching with
  | none => rfl
  | some same => simp only [same position live]

theorem misplacedEdge?_eq {link : Link} (listed : link ∈ graph.links) :
    (Survey.ofGraph other).misplacedEdge? (moved.link link) =
      ((Survey.ofGraph graph).misplacedEdge? link).map moved.finding := by
  have source := Graph.isLive_source listed
  have target := Graph.isLive_target listed
  unfold Survey.misplacedEdge?
  rw [Renumbering.link, carries.role?_eq source, carries.role?_eq target]
  simp only [Survey.ofGraph, carries.idAt_eq source, carries.idAt_eq target]
  split
  · split <;> rfl
  · rfl

theorem unreached?_eq {reached again : List Nat} {entry : Node × Nat} (live : entry ∈ graph.live)
    (same : ∀ position, graph.IsLive position → (moved.node position ∈ again ↔ position ∈ reached)) :
    (Survey.ofGraph other).unreached? again (moved.entry entry) =
      ((Survey.ofGraph graph).unreached? reached entry).map moved.finding := by
  unfold Survey.unreached?
  rw [Renumbering.entry, carries.isDriver_eq ⟨_, live⟩]
  simp only [same _ ⟨_, live⟩]
  split <;> rfl

omit carries in
theorem stranded?_eq {reaching again : List Nat} {entry : Node × Nat} (live : entry ∈ graph.live)
    (same : ∀ position, graph.IsLive position →
      (moved.node position ∈ again ↔ position ∈ reaching)) :
    Survey.stranded? again (moved.entry entry) =
      (Survey.stranded? reaching entry).map moved.finding := by
  unfold Survey.stranded?
  rw [Renumbering.entry]
  simp only [same _ ⟨_, live⟩]
  split <;> rfl

theorem dataAt_eq {entry : Node × Nat} (live : entry ∈ graph.live) :
    (Survey.ofGraph other).dataAt (moved.entry entry) =
      ((Survey.ofGraph graph).dataAt entry).map moved.finding := by
  unfold Survey.dataAt
  rw [Renumbering.entry, carries.category?_eq ⟨_, live⟩]
  split
  · next category _ =>
    simp only [Survey.dataOf, List.map_append, List.map_map]
    refine congrArg₂ (· ++ ·) rfl ?_
    split
    · rw [Renumbering.map_unless]
      rfl
    · rfl
  · rfl

theorem straySettings_eq {option : Node} {position : Nat} :
    (Survey.ofGraph other).straySettings option (moved.node position) =
      ((Survey.ofGraph graph).straySettings option position).map moved.finding := by
  simp only [Survey.straySettings, List.map_filterMap]
  refine List.filterMap_congr fun setting _ => ?_
  have found : ((Survey.ofGraph other).graph.position? setting.1).bind
      (Survey.ofGraph other).graph.kindAt? =
      ((Survey.ofGraph graph).graph.position? setting.1).bind
        (Survey.ofGraph graph).graph.kindAt? := by
    change (other.position? setting.1).bind other.kindAt? = _
    rw [carries.position?_eq]
    change _ = (graph.position? setting.1).bind graph.kindAt?
    cases declared : graph.position? setting.1 with
    | none => rfl
    | some place => exact carries.kindAt?_eq (Graph.isLive_of_position? declared)
  simp only [found]
  split <;> rfl

theorem goalNumber?_eq {entry : Node × Nat} (live : entry ∈ graph.live) :
    (Survey.ofGraph other).goalNumber? (moved.entry entry) =
      ((Survey.ofGraph graph).goalNumber? entry).map moved.finding := by
  unfold Survey.goalNumber?
  rw [Renumbering.entry, carries.category?_eq ⟨_, live⟩]
  split <;> rfl

theorem looseScaffold?_eq {link : Link} {edge : Edge} (listed : link ∈ graph.links) :
    (Survey.ofGraph other).looseScaffold? (moved.link link, edge) =
      ((Survey.ofGraph graph).looseScaffold? (link, edge)).map moved.finding := by
  unfold Survey.looseScaffold?
  simp only [Survey.ofGraph, Renumbering.link, carries.kindAt?_eq (Graph.isLive_source listed),
    carries.kindAt?_eq (Graph.isLive_target listed)]
  split
  · rfl
  · split <;> rfl

/-- The factors that an option sets, as they stand under new numbers. -/
theorem factors_map (option : Node) {position : Nat} (live : graph.IsLive position) :
    ((graph.liveOfKind .factor).map moved.node).filter (fun factor =>
        other.idAt factor ∈ option.settings.map (·.1)
          || (Link.leaving other.links (moved.node position)).any fun link =>
            link.target = factor) =
      ((Survey.ofGraph graph).factorsOf option position).map moved.node := by
  rw [List.filter_map]
  refine congrArg _ (List.filter_congr fun factor listed => ?_)
  obtain ⟨node, also, _⟩ := Graph.mem_liveOfKind_iff.mp listed
  have pointed : ((Link.leaving other.links (moved.node position)).any fun link =>
      link.target = moved.node factor) =
      (Link.leaving graph.links position).any fun link => link.target = factor := by
    rw [(carries.leaving_perm live).any_eq, List.any_map, Bool.eq_iff_iff, List.any_eq_true,
      List.any_eq_true]
    refine exists_congr fun link => and_congr_right fun leaving => ?_
    have target := Graph.isLive_target (List.mem_filter.mp leaving).1
    simp only [Function.comp, Renumbering.link, decide_eq_true_eq,
      carries.node_inj target ⟨node, also⟩]
  simp only [Function.comp, pointed, carries.idAt_eq ⟨node, also⟩]
  rfl

end Renumbering.Carries

end DecisionGraph

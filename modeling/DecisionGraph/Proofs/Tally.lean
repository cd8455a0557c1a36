import DecisionGraph.Proofs.KeptOrder

/-!
How many findings of each code there are. Where one graph carries the live nodes and the links of
another, every check of them but the search for cycles finds as many of each code, and the search
finds a cycle in one of them just when it does in the other.
-/

namespace DecisionGraph

open Relation

/-- As many findings of each code. -/
def Finding.Tally (first second : List Finding) : Prop :=
  (second.map code).Perm (first.map code)

namespace Finding.Tally

variable {α : Type}

theorem append {first second others more : List Finding} (one : Tally first second)
    (two : Tally others more) : Tally (first ++ others) (second ++ more) := by
  rw [Tally, List.map_append, List.map_append]
  exact List.Perm.append one two

theorem of_eq {first second : List Finding} (same : second.map code = first.map code) :
    Tally first second := List.Perm.of_eq same

theorem of_filterMap {move : α → α} {items others : List α} {find again : α → Option Finding}
    (listed : others.Perm (items.map move))
    (same : ∀ item ∈ items, (again (move item)).map code = (find item).map code) :
    Tally (items.filterMap find) (others.filterMap again) := by
  refine ((listed.filterMap again).map code).trans (.of_eq ?_)
  rw [List.filterMap_map, List.map_filterMap, List.map_filterMap]
  exact List.filterMap_congr same

theorem of_flatMap {move : α → α} {items others : List α} {find again : α → List Finding}
    (listed : others.Perm (items.map move))
    (same : ∀ item ∈ items, (again (move item)).map code = (find item).map code) :
    Tally (items.flatMap find) (others.flatMap again) := by
  refine ((listed.flatMap_right again).map code).trans (.of_eq ?_)
  rw [List.flatMap_map, List.map_flatMap, List.map_flatMap]
  exact List.flatMap_congr same

theorem count {first second : List Finding} (tally : Tally first second) (code : IssueCode) :
    (second.filter fun finding => finding.code = code).length =
      (first.filter fun finding => finding.code = code).length := by
  have counts := tally.countP_eq (fun other => decide (other = code))
  rw [List.countP_map, List.countP_map, List.countP_eq_length_filter,
    List.countP_eq_length_filter] at counts
  exact counts

end Finding.Tally

theorem Finding.map_code_unless (isFine : Bool) (finding : Finding) :
    (Finding.unless isFine finding).map code = if isFine then [] else [finding.code] := by
  cases isFine <;> rfl

theorem Finding.map_code_naming {finding again : List String → Finding} {names others : List String}
    (same : ∀ names others, (again others).code = (finding names).code)
    (length : others.length = names.length) :
    (naming again others).map code = (naming finding names).map code := by
  cases names with
  | nil =>
      rw [List.length_eq_zero_iff.mp length]
      rfl
  | cons name names =>
      cases others with
      | nil => cases length
      | cons other others => exact congrArg some (same _ _)

namespace Renumbering

variable (moved : Renumbering)

theorem map_code_findings (findings : List Finding) :
    (findings.map moved.finding).map Finding.code = findings.map Finding.code := by
  rw [List.map_map]
  exact List.map_congr_left fun finding _ => moved.code_finding finding

theorem map_code_finding? (finding : Option Finding) :
    (finding.map moved.finding).map Finding.code = finding.map Finding.code := by
  cases finding with
  | none => rfl
  | some finding => exact congrArg some (moved.code_finding finding)

end Renumbering

/-! Options that set the same. -/

namespace Survey

variable (survey : Survey)

def signatures : List (List (String × UInt64)) := survey.options.map fun option => signature option.1

/-- Each signature has one leader. -/
theorem nodup_leaders (graph : Graph) :
    ((Survey.ofGraph graph).leaders.map fun leader => signature leader.1).Nodup :=
  nodup_leadersOf (Survey.ofGraph graph).nodup_options

theorem mem_map_leaders {set : List (String × UInt64)} :
    set ∈ survey.leaders.map (fun leader => signature leader.1) ↔ set ∈ survey.signatures :=
  mem_map_leadersOf

/-- There is one finding for every signature that more than one option has. -/
theorem length_identicalChoices :
    survey.identicalChoices.length =
      ((survey.leaders.map fun leader => signature leader.1).filter fun set =>
        1 < survey.signatures.count set).length := by
  have group (leader : Node × Nat) :
      (identical? (survey.options.filter fun second =>
        signature leader.1 = signature second.1)).isSome =
        decide (1 < survey.signatures.count (signature leader.1)) := by
    have length : survey.signatures.count (signature leader.1) =
        (survey.options.filter fun second => signature leader.1 = signature second.1).length := by
      rw [signatures, List.count, List.countP_map, List.countP_eq_length_filter]
      refine congrArg List.length (List.filter_congr fun second _ => ?_)
      rw [Bool.eq_iff_iff]
      simp only [Function.comp, beq_iff_eq, decide_eq_true_eq]
      exact eq_comm
    rw [length]
    rcases survey.options.filter _ with _ | ⟨_, _ | _⟩
    · rfl
    · rfl
    · exact (decide_eq_true (Nat.succ_lt_succ (Nat.succ_pos _))).symm
  rw [identicalChoices_eq, equalOptions_eq, List.filterMap_map, List.length_filterMap_eq_countP,
    List.filter_map, List.length_map, ← List.countP_eq_length_filter]
  exact List.countP_congr fun leader _ => by simp only [Function.comp, group]

theorem map_code_identicalChoices :
    survey.identicalChoices.map Finding.code =
      List.replicate survey.identicalChoices.length .optionsIdentical := by
  refine List.eq_replicate_iff.mpr ⟨List.length_map .., fun code listed => ?_⟩
  obtain ⟨finding, found, rfl⟩ := List.mem_map.mp listed
  obtain ⟨_, _, found⟩ := List.mem_filterMap.mp found
  split at found <;> cases found
  rfl

end Survey

namespace Renumbering.Carries

variable {moved : Renumbering} {graph other : Graph} (carries : moved.Carries graph other)

include carries

theorem tally_leftGoals :
    Finding.Tally (Survey.ofGraph graph).leftGoals (Survey.ofGraph other).leftGoals := by
  rw [Survey.leftGoals_eq, Survey.leftGoals_eq]
  refine .of_filterMap (carries.liveOfKind_perm .goal) fun position listed => ?_
  obtain ⟨node, live, _⟩ := Graph.mem_liveOfKind_iff.mp listed
  rw [Survey.leftGoal?_eq, Survey.leftGoal?_eq]
  refine Finding.map_code_naming (fun _ _ => rfl) ?_
  simpa [Survey.ofGraph] using (carries.leaving_perm ⟨node, live⟩).length_eq

theorem tally_enteredDecisions :
    Finding.Tally (Survey.ofGraph graph).enteredDecisions
      (Survey.ofGraph other).enteredDecisions := by
  rw [Survey.enteredDecisions_eq, Survey.enteredDecisions_eq]
  refine .of_filterMap (carries.liveOfKind_perm .decision) fun position listed => ?_
  obtain ⟨node, live, _⟩ := Graph.mem_liveOfKind_iff.mp listed
  rw [Survey.enteredDecision?_eq, Survey.enteredDecision?_eq]
  refine Finding.map_code_naming (fun _ _ => rfl) ?_
  simpa [Survey.ofGraph] using (carries.entering_perm ⟨node, live⟩).length_eq

theorem tally_misplacedEdges :
    Finding.Tally (Survey.ofGraph graph).misplacedEdges (Survey.ofGraph other).misplacedEdges := by
  rw [Survey.misplacedEdges_eq, Survey.misplacedEdges_eq]
  refine .of_filterMap carries.links fun link listed => ?_
  rw [carries.misplacedEdge?_eq listed, moved.map_code_finding?]

theorem tally_connection :
    Finding.Tally (Survey.ofGraph graph).connection (Survey.ofGraph other).connection := by
  have reached := carries.same_reached
  have reaching := carries.same_reaching
  refine .append ?_ ?_
  · rw [Survey.unreachedNodes_eq, Survey.unreachedNodes_eq]
    generalize (Survey.ofGraph graph).reached = found at reached ⊢
    generalize (Survey.ofGraph other).reached = again at reached ⊢
    cases reached with
    | none => exact .of_eq rfl
    | some same =>
        refine .of_filterMap carries.live fun entry live => ?_
        rw [carries.unreached?_eq live same, moved.map_code_finding?]
  · rw [Survey.strandedNodes_eq, Survey.strandedNodes_eq]
    generalize (Survey.ofGraph graph).reaching = found at reaching ⊢
    generalize (Survey.ofGraph other).reaching = again at reaching ⊢
    cases reaching with
    | none => exact .of_eq rfl
    | some same =>
        refine .of_filterMap carries.live fun entry live => ?_
        rw [stranded?_eq live same, moved.map_code_finding?]

theorem tally_data : Finding.Tally (Survey.ofGraph graph).data (Survey.ofGraph other).data := by
  rw [Survey.data_eq, Survey.data_eq]
  refine .of_flatMap carries.live fun entry live => ?_
  rw [carries.dataAt_eq live, moved.map_code_findings]

theorem options_perm :
    (Survey.ofGraph other).options.Perm ((Survey.ofGraph graph).options.map moved.entry) := by
  have kept := carries.live.filter fun entry => entry.1.kind = .option
  rw [List.filter_map] at kept
  exact kept

theorem factorsOf_perm (option : Node) {position : Nat} (live : graph.IsLive position) :
    ((Survey.ofGraph other).factorsOf option (moved.node position)).Perm
      (((Survey.ofGraph graph).factorsOf option position).map moved.node) := by
  rw [← carries.factors_map option live]
  exact (carries.liveOfKind_perm .factor).filter _

theorem code_missingEffect (option : Node) {position : Nat} (live : graph.IsLive position) :
    ((Survey.ofGraph other).missingEffect option (moved.node position)).map Finding.code =
      ((Survey.ofGraph graph).missingEffect option position).map Finding.code := by
  have factors := carries.factorsOf_perm option live
  have reaching := carries.same_reaching
  unfold Survey.missingEffect
  generalize (Survey.ofGraph graph).reaching = found at reaching ⊢
  generalize (Survey.ofGraph other).reaching = again at reaching ⊢
  cases reaching with
  | none => rfl
  | @some found again same =>
      have any : ((Survey.ofGraph other).factorsOf option (moved.node position)).any
          (fun factor => factor ∈ again) =
          ((Survey.ofGraph graph).factorsOf option position).any fun factor => factor ∈ found := by
        rw [factors.any_eq, List.any_map, Bool.eq_iff_iff, List.any_eq_true, List.any_eq_true]
        refine exists_congr fun factor => and_congr_right fun listed => ?_
        simp only [Function.comp, same factor (Survey.isLive_of_mem_factorsOf listed)]
      simp only [Finding.map_code_unless, any]
      rfl

theorem tally_effects :
    Finding.Tally (Survey.ofGraph graph).effects (Survey.ofGraph other).effects := by
  change Finding.Tally ((Survey.ofGraph graph).options.flatMap (Survey.ofGraph graph).effectsAt)
    ((Survey.ofGraph other).options.flatMap (Survey.ofGraph other).effectsAt)
  refine .of_flatMap carries.options_perm fun entry listed => ?_
  have live : graph.IsLive entry.2 := ⟨entry.1, (List.mem_filter.mp listed).1⟩
  rw [Survey.effectsAt, Survey.effectsAt, List.map_append, List.map_append, Renumbering.entry,
    carries.straySettings_eq, moved.map_code_findings, carries.code_missingEffect entry.1 live]

theorem tally_identicalChoices :
    Finding.Tally (Survey.ofGraph graph).identicalChoices
      (Survey.ofGraph other).identicalChoices := by
  have signatures : (Survey.ofGraph other).signatures.Perm (Survey.ofGraph graph).signatures := by
    refine (carries.options_perm.map _).trans (.of_eq ?_)
    rw [List.map_map]
    rfl
  have leaders : ((Survey.ofGraph other).leaders.map fun leader => Survey.signature leader.1).Perm
      ((Survey.ofGraph graph).leaders.map fun leader => Survey.signature leader.1) := by
    refine (List.perm_ext_iff_of_nodup (Survey.nodup_leaders other)
      (Survey.nodup_leaders graph)).mpr fun set => ?_
    rw [Survey.mem_map_leaders, Survey.mem_map_leaders, signatures.mem_iff]
  refine .of_eq ?_
  rw [Survey.map_code_identicalChoices, Survey.map_code_identicalChoices,
    Survey.length_identicalChoices, Survey.length_identicalChoices, (leaders.filter _).length_eq]
  simp only [signatures.count_eq]

theorem tally_goalNumbers :
    Finding.Tally (Survey.ofGraph graph).goalNumbers (Survey.ofGraph other).goalNumbers := by
  rw [Survey.goalNumbers_eq, Survey.goalNumbers_eq]
  refine .of_filterMap carries.live fun entry live => ?_
  rw [carries.goalNumber?_eq live, moved.map_code_finding?]

theorem linkedEdges_perm :
    (Survey.ofGraph other).linkedEdges.Perm
      ((Survey.ofGraph graph).linkedEdges.map fun entry => (moved.link entry.1, entry.2)) := by
  refine (carries.links.filterMap _).trans (.of_eq (filterMap_renumbered fun link listed => ?_))
  have edge : other.edges[(moved.link link).edge]? = graph.edges[link.edge]? :=
    carries.edges link listed
  simp only [Survey.ofGraph, edge, Option.map_map]
  rfl

theorem tally_looseScaffold :
    Finding.Tally (Survey.ofGraph graph).looseScaffold (Survey.ofGraph other).looseScaffold := by
  rw [Survey.looseScaffold_eq, Survey.looseScaffold_eq]
  refine .of_filterMap carries.linkedEdges_perm fun entry listed => ?_
  rw [carries.looseScaffold?_eq (Survey.mem_links_of_linked _ listed), moved.map_code_finding?]

/-! The search for cycles. -/

theorem cyclic_iff : other.Cyclic ↔ graph.Cyclic := by
  rw [Graph.cyclic_iff, Graph.cyclic_iff]
  constructor
  · rintro ⟨place, walk⟩
    obtain ⟨next, leads, back⟩ := TransGen.head'_iff.mp walk
    obtain ⟨link, listed, rfl, _⟩ := id leads
    obtain ⟨before, linked, rfl⟩ := carries.exists_link listed
    have starts := Graph.isLive_source linked
    obtain ⟨second, live, rfl, step⟩ := carries.exists_leads starts leads
    exact ⟨before.source, .head' step ((carries.walk_iff live starts).mp back)⟩
  · rintro ⟨position, walk⟩
    exact ⟨moved.node position, TransGen.lift moved.node (fun _ _ => carries.leads) _ _ walk⟩

/-! Advice on links and data. -/

theorem code_polarityAdvice {link : Link} (edge : Edge) (listed : link ∈ graph.links) :
    ((Survey.ofGraph other).polarityAdvice (moved.link link) edge).map Finding.code =
      ((Survey.ofGraph graph).polarityAdvice link edge).map Finding.code := by
  unfold Survey.polarityAdvice
  simp only [Survey.ofGraph, Renumbering.link, carries.kindAt?_eq (Graph.isLive_source listed),
    carries.kindAt?_eq (Graph.isLive_target listed)]
  split
  · simp only [Finding.map_code_unless, Finding.code]
  · simp only [Finding.map_code_unless, Finding.code]
  · rfl

theorem code_deviationAdvice {link : Link} (edge : Edge) (listed : link ∈ graph.links) :
    ((Survey.ofGraph other).deviationAdvice (moved.link link) edge).map Finding.code =
      ((Survey.ofGraph graph).deviationAdvice link edge).map Finding.code := by
  have scaffold : (Survey.ofGraph other).isScaffold (moved.link link) =
      (Survey.ofGraph graph).isScaffold link := by
    simp only [Survey.isScaffold, Survey.ofGraph, Renumbering.link,
      carries.kindAt?_eq (Graph.isLive_source listed),
      carries.kindAt?_eq (Graph.isLive_target listed)]
  unfold Survey.deviationAdvice
  rw [scaffold]
  split
  · rfl
  · split
    · simp only [Finding.map_code_unless, Finding.code]
    · rfl

theorem code_driverAdvice (node : Node) {position : Nat} (live : graph.IsLive position) :
    ((Survey.ofGraph other).driverAdvice node (moved.node position)).map Finding.code =
      ((Survey.ofGraph graph).driverAdvice node position).map Finding.code := by
  unfold Survey.driverAdvice
  rw [carries.category?_eq live]
  split <;> rfl

end Renumbering.Carries

end DecisionGraph

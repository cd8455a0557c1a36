import DecisionGraph.Proofs.ConnectionReport
import DecisionGraph.Proofs.OptionGroups

/-!
What a report says about the effects of options. It names each setting of something that is no
factor, and each option none of whose factors leads to the goal.
-/

namespace DecisionGraph

/-- The codes of the pass over the options. -/
def choiceCodes : List IssueCode := [.invalidInterventionRef, .noEffectPath, .optionsIdentical]

namespace Survey

variable {survey : Survey} {code : IssueCode}

/-- The other passes of their origin leave these codes to the pass over the options. -/
theorem filter_code_choice (about : code ∈ choiceCodes) (survey : Survey) (limits : Limits) :
    ((survey.findings limits).filter fun finding => finding.code = code) =
      survey.choice.filter fun finding => finding.code = code := by
  have passes : survey.passesOf limits code.origin =
      survey.choice ++ survey.goalNumbers ++ survey.looseScaffold := by
    simp only [choiceCodes, List.mem_cons, List.not_mem_nil, or_false] at about
    rcases about with rfl | rfl | rfl <;> rfl
  have goalNumbers : (survey.goalNumbers.filter fun finding => finding.code = code) = [] := by
    refine filter_code_eq_nil fun finding found same => ?_
    obtain ⟨node, position, _, _, _, _, _, rfl⟩ := mem_goalNumbers.mp found
    subst same
    simp [Finding.code, choiceCodes] at about
  have looseScaffold : (survey.looseScaffold.filter fun finding => finding.code = code) = [] := by
    refine filter_code_eq_nil fun finding found same => ?_
    subst same
    obtain ⟨position, edge, rfl | rfl⟩ := form_of_mem_looseScaffold found
    · simp [Finding.code, choiceCodes] at about
    · simp [Finding.code, choiceCodes] at about
  rw [filter_code_findings, passes, List.filter_append, List.filter_append, goalNumbers,
    looseScaffold, List.append_nil, List.append_nil]

theorem filter_code_effects (survey : Survey) (code : IssueCode) :
    (survey.effects.filter fun finding => finding.code = code) =
      survey.options.flatMap fun entry =>
        (if .invalidInterventionRef = code then survey.straySettings entry.1 entry.2 else [])
          ++ if .noEffectPath = code then survey.missingEffect entry.1 entry.2 else [] := by
  rw [effects, List.filter_flatMap]
  refine List.flatMap_congr fun entry _ => ?_
  have stray (finding : Finding) (found : finding ∈ survey.straySettings entry.1 entry.2) :
      finding.code = .invalidInterventionRef := by
    obtain ⟨factor, kind, rfl⟩ := form_of_mem_straySettings found
    rfl
  have missing (finding : Finding) (found : finding ∈ survey.missingEffect entry.1 entry.2) :
      finding.code = .noEffectPath := by
    obtain ⟨factors, rfl⟩ := form_of_mem_missingEffect found
    rfl
  rw [List.filter_append, filter_code_eq stray, filter_code_eq missing]

theorem filter_code_identicalChoices (survey : Survey) (code : IssueCode) :
    (survey.identicalChoices.filter fun finding => finding.code = code) =
      if .optionsIdentical = code then survey.identicalChoices else [] := by
  refine filter_code_eq (fun finding found => ?_) code
  obtain ⟨position, ids, rfl⟩ := form_of_mem_identicalChoices found
  rfl

theorem findings_invalidInterventionRef (survey : Survey) (limits : Limits) :
    ((survey.findings limits).filter fun finding => finding.code = .invalidInterventionRef) =
      survey.options.flatMap fun entry => survey.straySettings entry.1 entry.2 := by
  rw [filter_code_choice (by decide), choice, List.filter_append, filter_code_effects,
    filter_code_identicalChoices]
  simp

theorem findings_noEffectPath (survey : Survey) (limits : Limits) :
    ((survey.findings limits).filter fun finding => finding.code = .noEffectPath) =
      survey.options.flatMap fun entry => survey.missingEffect entry.1 entry.2 := by
  rw [filter_code_choice (by decide), choice, List.filter_append, filter_code_effects,
    filter_code_identicalChoices]
  simp

theorem findings_optionsIdentical (survey : Survey) (limits : Limits) :
    ((survey.findings limits).filter fun finding => finding.code = .optionsIdentical) =
      survey.identicalChoices := by
  rw [filter_code_choice (by decide), choice, List.filter_append, filter_code_effects,
    filter_code_identicalChoices]
  simp

theorem mem_options_iff_live {graph : Graph} {option : Node} {position : Nat} :
    (option, position) ∈ (ofGraph graph).options ↔
      (option, position) ∈ graph.live ∧ option.kind = .option := by
  simp [options, ofGraph]

end Survey

/-! What an option sets, and what that affects. -/

namespace Node

/-- The value that an option has for a factor. An option without data has none. -/
def setting? (option : Node) (factor : String) : Option Double :=
  option.settings?.bind fun settings => settings.get? factor

theorem setting?_eq_some_iff {option : Node} {factor : String} {value : Double} :
    option.setting? factor = some value ↔ (factor, value) ∈ option.settings := by
  unfold setting? settings
  cases option.settings? with
  | none => simp
  | some settings => exact SortedMap.get?_eq_some_iff

theorem pairwise_settings (option : Node) :
    option.settings.Pairwise fun first second => first.1 < second.1 := by
  unfold settings
  cases option.settings? with
  | none => exact List.Pairwise.nil
  | some settings => exact settings.sorted

theorem nodup_settings (option : Node) : (option.settings.map (·.1)).Nodup :=
  List.pairwise_map.mpr (option.pairwise_settings.imp fun before => String.ne_of_lt before)

end Node

namespace Graph

variable {graph : Graph}

/-- The first node that declares the id is a factor. -/
def HasFactor (graph : Graph) (id : String) : Prop :=
  ∃ factor position, (factor, position) ∈ graph.live ∧ factor.kind = .factor ∧ factor.id = id

/-- The option sets the factor, or an edge leads from it to the factor. -/
def Affects (graph : Graph) (option : Node) (id : String) : Prop :=
  graph.HasFactor id ∧ (id ∈ option.settings.map (·.1) ∨ graph.Resolved option.id id)

/-- There is one goal, and nothing that the option affects leads to it. -/
def Ineffective (graph : Graph) (option : Node) : Prop :=
  ∃ goal, graph.Sole .goal goal ∧ ∀ id, graph.Affects option id → ¬ graph.Reaches id goal.id

/-- Where a live option sets what is no factor. -/
def Stray (graph : Graph) (place : Place) : Prop :=
  ∃ option position factor, (option, position) ∈ graph.live ∧ option.kind = .option ∧
    factor ∈ option.settings.map (·.1) ∧ ¬ graph.HasFactor factor ∧
    place = .setting position factor

/-- Where a live option has no effect. -/
def Idle (graph : Graph) (place : Place) : Prop :=
  ∃ option position, (option, position) ∈ graph.live ∧ option.kind = .option ∧
    graph.Ineffective option ∧ place = .node position

theorem hasFactor_iff {id : String} :
    graph.HasFactor id ↔ (graph.position? id).bind graph.kindAt? = some .factor := by
  constructor
  · intro has
    obtain ⟨factor, position, live, kind, same⟩ := has
    rw [← same, (mem_live_iff.mp live).2, Option.bind_some, kindAt?_of_live live, kind]
  · intro known
    obtain ⟨position, found, kindAt⟩ := Option.bind_eq_some_iff.mp known
    obtain ⟨factor, live, same⟩ := live_of_position? found
    rw [kindAt?_of_live live] at kindAt
    exact ⟨factor, position, live, Option.some.inj kindAt, same⟩

theorem hasFactor_iff_of_live {node : Node} {position : Nat}
    (live : (node, position) ∈ graph.live) : graph.HasFactor node.id ↔ node.kind = .factor := by
  rw [hasFactor_iff, (mem_live_iff.mp live).2, Option.bind_some, kindAt?_of_live live,
    Option.some_inj]

end Graph

namespace Survey

variable {graph : Graph} {option : Node} {position : Nat} {finding : Finding}

theorem mem_factorsOf_iff_affects (live : (option, position) ∈ graph.live) {place : Nat} :
    place ∈ (ofGraph graph).factorsOf option position ↔
      ∃ factor, (factor, place) ∈ graph.live ∧ graph.Affects option factor.id := by
  have affects {factor : Node} (found : (factor, place) ∈ graph.live) :
      graph.Affects option factor.id ↔ factor.kind = .factor ∧
        (graph.idAt place ∈ option.settings.map (·.1) ∨
          ((Link.leaving graph.links position).any fun link => link.target = place) = true) := by
    have aimed : ((Link.leaving graph.links position).any fun link => link.target = place) = true ↔
        Link.Leads graph.links position place := by
      simp [Link.leaving, Link.Leads]
    rw [Graph.Affects, Graph.hasFactor_iff_of_live found, Graph.idAt_of_live found, aimed,
      Graph.leads_iff_resolved live found]
  simp only [factorsOf, List.mem_filter, Graph.mem_liveOfKind_iff, Bool.or_eq_true,
    decide_eq_true_eq]
  constructor
  · intro listed
    obtain ⟨⟨factor, found, kind⟩, affected⟩ := listed
    exact ⟨factor, found, (affects found).mpr ⟨kind, affected⟩⟩
  · intro listed
    obtain ⟨factor, found, affected⟩ := listed
    obtain ⟨kind, affected⟩ := (affects found).mp affected
    exact ⟨⟨factor, found, kind⟩, affected⟩

/-- The ids of the factors that an option affects, as declared. -/
theorem map_idAt_factorsOf_sublist (graph : Graph) (option : Node) (position : Nat) :
    (((ofGraph graph).factorsOf option position).map graph.idAt).Sublist
      (graph.live.map fun entry => entry.1.id) := by
  have ids : (graph.live.map (·.2)).map graph.idAt = graph.live.map fun entry => entry.1.id := by
    rw [List.map_map]
    exact List.map_congr_left fun entry live => Graph.idAt_of_live live
  rw [← ids]
  exact (List.filter_sublist.trans (List.filter_sublist.map _)).map _

theorem mem_map_idAt_factorsOf (live : (option, position) ∈ graph.live) {id : String} :
    id ∈ ((ofGraph graph).factorsOf option position).map graph.idAt ↔ graph.Affects option id := by
  rw [List.mem_map]
  constructor
  · intro listed
    obtain ⟨place, among, same⟩ := listed
    obtain ⟨factor, found, affects⟩ := (mem_factorsOf_iff_affects live).mp among
    rwa [← same, Graph.idAt_of_live found]
  · intro affects
    obtain ⟨factor, place, found, _, same⟩ := affects.1
    refine ⟨place, (mem_factorsOf_iff_affects live).mpr ⟨factor, found, ?_⟩, ?_⟩
    · rwa [same]
    · rw [Graph.idAt_of_live found, same]

theorem mem_missingEffect_iff (live : (option, position) ∈ graph.live) :
    finding ∈ (ofGraph graph).missingEffect option position ↔
      graph.Ineffective option ∧ finding = .noEffect position option.id
        (((ofGraph graph).factorsOf option position).map graph.idAt) := by
  have leads {goal : Node} {stop : Nat} (stops : (goal, stop) ∈ graph.live) :
      (((ofGraph graph).factorsOf option position).any fun factor =>
          factor ∈ Reach.backward graph.links graph.nodes.length stop) = false ↔
        ∀ id, graph.Affects option id → ¬ graph.Reaches id goal.id := by
    simp only [List.any_eq_false, decide_eq_true_eq]
    constructor
    · intro none id affects reaches
      obtain ⟨factor, place, found, _, same⟩ := affects.1
      subst same
      exact none place ((mem_factorsOf_iff_affects live).mpr ⟨factor, found, affects⟩)
        ((Graph.mem_backward_iff_reaches found stops).mpr reaches)
    · intro none place among reaches
      obtain ⟨factor, found, affects⟩ := (mem_factorsOf_iff_affects live).mp among
      exact none factor.id affects ((Graph.mem_backward_iff_reaches found stops).mp reaches)
  constructor
  · intro found
    unfold missingEffect at found
    split at found
    · cases found
    · next reaching search =>
      obtain ⟨goal, stop, stops, sole, rfl⟩ := reaching_eq_some_iff.mp search
      obtain ⟨none, same⟩ := Finding.mem_unless.mp found
      exact ⟨⟨goal, sole, (leads stops).mp none⟩, same⟩
  · intro missing
    obtain ⟨⟨goal, sole, none⟩, same⟩ := missing
    obtain ⟨stop, stops⟩ := sole.live
    simp only [missingEffect, reaching_eq_some_iff.mpr ⟨goal, stop, stops, sole, rfl⟩]
    exact Finding.mem_unless.mpr ⟨(leads stops).mpr none, same⟩

theorem mem_places_straySettings {place : Place} :
    place ∈ ((ofGraph graph).straySettings option position).map Finding.place ↔
      ∃ factor ∈ option.settings.map (·.1), ¬ graph.HasFactor factor ∧
        place = .setting position factor := by
  simp only [straySettings, List.mem_map, List.mem_filterMap, Graph.hasFactor_iff]
  constructor
  · intro listed
    obtain ⟨finding, ⟨setting, member, stray⟩, same⟩ := listed
    split at stray
    · cases stray
    · next other =>
      cases stray
      exact ⟨setting.1, ⟨setting, member, rfl⟩, other, same.symm⟩
  · intro listed
    obtain ⟨factor, ⟨setting, member, rfl⟩, other, same⟩ := listed
    exact ⟨_, ⟨setting, member, if_neg other⟩, same.symm⟩

theorem nodup_places_straySettings (survey : Survey) (option : Node) (position : Nat) :
    ((survey.straySettings option position).map Finding.place).Nodup := by
  have within : ((survey.straySettings option position).map Finding.place).Sublist
      (option.settings.map fun setting => Place.setting position setting.1) := by
    refine map_filterMap_sublist (fun setting finding stray => ?_) option.settings
    simp only at stray
    split at stray
    · cases stray
    · cases stray
      rfl
  have apart : ((option.settings.map (·.1)).map (Place.setting position)).Nodup :=
    option.nodup_settings.map fun _ _ same => (Place.setting_inj.mp same).2
  rw [List.map_map] at apart
  exact apart.sublist within

end Survey

namespace Graph

variable {graph : Graph}

theorem pinpoints_stray (graph : Graph) (limits : Limits) :
    (graph.check limits).Pinpoints .invalidInterventionRef graph.Stray := by
  refine pinpoints_check (Survey.findings_invalidInterventionRef _ limits) ?_ ?_
  · rw [List.map_flatMap]
    refine nodup_flatMap_of_key (Survey.ofGraph graph).nodup_options ?_ ?_
    · intro first second place here there
      obtain ⟨factor, _, _, same⟩ := Survey.mem_places_straySettings.mp here
      obtain ⟨other, _, _, also⟩ := Survey.mem_places_straySettings.mp there
      exact (Place.setting_inj.mp (same.symm.trans also)).1
    · intro entry _
      exact Survey.nodup_places_straySettings _ entry.1 entry.2
  · intro place
    simp only [List.map_flatMap, List.mem_flatMap, Prod.exists, Survey.mem_options_iff_live,
      Survey.mem_places_straySettings]
    constructor
    · intro listed
      obtain ⟨option, position, ⟨live, kind⟩, factor, set, stray, same⟩ := listed
      exact ⟨option, position, factor, live, kind, set, stray, same⟩
    · intro stray
      obtain ⟨option, position, factor, live, kind, set, stray, same⟩ := stray
      exact ⟨option, position, ⟨live, kind⟩, factor, set, stray, same⟩

theorem pinpoints_idle (graph : Graph) (limits : Limits) :
    (graph.check limits).Pinpoints .noEffectPath graph.Idle := by
  have form {entry : Node × Nat} {place : Place}
      (listed : place ∈ ((Survey.ofGraph graph).missingEffect entry.1 entry.2).map Finding.place) :
      place = .node entry.2 := by
    obtain ⟨finding, found, same⟩ := List.mem_map.mp listed
    obtain ⟨factors, rfl⟩ := Survey.form_of_mem_missingEffect found
    exact same.symm
  refine pinpoints_check (Survey.findings_noEffectPath _ limits) ?_ ?_
  · rw [List.map_flatMap]
    refine nodup_flatMap_of_key (Survey.ofGraph graph).nodup_options ?_ ?_
    · intro first second place here there
      exact Place.node.inj ((form here).symm.trans (form there))
    · intro entry _
      unfold Survey.missingEffect
      split
      · exact List.nodup_nil
      · exact Finding.nodup_places_unless
  · intro place
    simp only [List.map_flatMap, List.mem_flatMap, Prod.exists, Survey.mem_options_iff_live,
      List.mem_map]
    constructor
    · intro listed
      obtain ⟨option, position, ⟨live, kind⟩, finding, found, same⟩ := listed
      obtain ⟨missing, rfl⟩ := (Survey.mem_missingEffect_iff live).mp found
      exact ⟨option, position, live, kind, missing, same.symm⟩
    · intro idle
      obtain ⟨option, position, live, kind, missing, same⟩ := idle
      exact ⟨option, position, ⟨live, kind⟩, _,
        (Survey.mem_missingEffect_iff live).mpr ⟨missing, rfl⟩, same.symm⟩

end Graph

theorem Finding.context_issue_noEffect (position : Nat) (id : String) (factors : List String) :
    (Finding.noEffect position id factors).issue.context =
      .object [("factors", .ofStrings factors), ("option_id", .string id)] :=
  (Json.free_pair (by decide) _ _).2

namespace Graph

/-- What options set and do is judged exactly. An issue stands at each setting of what is no factor,
and at each option that affects no factor which leads to the one goal; that issue lists the factors
which the option does affect. -/
theorem effects_judged (graph : Graph) (limits : Limits) :
    (graph.check limits).Pinpoints .invalidInterventionRef graph.Stray ∧
      (graph.check limits).Pinpoints .noEffectPath graph.Idle ∧
      ∀ option position, (option, position) ∈ graph.live →
        ∀ issue ∈ (graph.check limits).withCode .noEffectPath,
          issue.path = (Place.node position).text →
          ∃ ids, issue.context =
              .object [("factors", .ofStrings ids), ("option_id", .string option.id)] ∧
            ids.Sublist (graph.live.map fun entry => entry.1.id) ∧ ids.Nodup ∧
            ∀ id, id ∈ ids ↔ graph.Affects option id := by
  refine ⟨pinpoints_stray graph limits, pinpoints_idle graph limits, ?_⟩
  intro option position live issue reported path
  rw [withCode_check, Survey.findings_noEffectPath, List.mem_map] at reported
  obtain ⟨finding, found, rfl⟩ := reported
  obtain ⟨⟨other, place⟩, listed, found⟩ := List.mem_flatMap.mp found
  have also := (Survey.mem_options_iff_live.mp listed).1
  obtain ⟨_, rfl⟩ := (Survey.mem_missingEffect_iff also).mp found
  cases Place.text_node_injective path
  cases eq_of_live live also
  have within := Survey.map_idAt_factorsOf_sublist graph option position
  refine ⟨_, Finding.context_issue_noEffect _ _ _, within, graph.nodup_id_live.sublist within, ?_⟩
  intro id
  exact Survey.mem_map_idAt_factorsOf live

end Graph

end DecisionGraph
